import Mathlib
import RpcStubs.Json.Reader
import RpcStubs.Json.Value

/-!
# Reading a text that was written

The compact text of a value is read back, whatever follows it, by a reader that fits the value.
Lists, maps and records are read one part after another, so what has to be shown of a type is how
each of its parts is read.
-/

namespace RpcStubs.Json

/-! ## Steps of a scanner -/

theorem bind_apply {α β : Type} (x : Scan α) (f : α → Scan β) (cs : List Char) :
    (x >>= f) cs = match x cs with
      | .ok (a, rest) => f a rest
      | .error e => .error e := by
  show (x cs >>= fun p => f p.1 p.2) = _
  rcases x cs with _ | ⟨a, rest⟩ <;> rfl

theorem pure_apply {α : Type} (a : α) (cs : List Char) : (pure a : Scan α) cs = .ok (a, cs) := rfl

theorem get_apply (cs : List Char) : (get : Scan (List Char)) cs = .ok (cs, cs) := rfl

theorem next_cons (c : Char) (rest : List Char) : next (c :: rest) = .ok (some c, rest) := rfl

theorem drop_cons (c : Char) (rest : List Char) : drop (c :: rest) = .ok ((), rest) := rfl

theorem peek_cons {c : Char} (h : isBlank c = false) (rest : List Char) :
    peek (c :: rest) = .ok (some c, c :: rest) := by
  unfold peek
  simp [h]

/-! ## Strings -/

theorem hexValue?_digitChar : ∀ d < 16, hexValue? (Nat.digitChar d) = some d := by decide

theorem utf8Size_digitChar : ∀ d < 16, (Nat.digitChar d).utf8Size = 1 := by decide

theorem hexEscape_hexDigits4 {n : Nat} (h : n < 65536) (rest : List Char) :
    hexEscape (hexDigits4 n ++ rest) = .ok (n, rest) := by
  have hlt : ∀ k, k % 16 < 16 := fun k => Nat.mod_lt k (by omega)
  have hvalue : hexValue4? (Nat.digitChar (n / 4096 % 16)) (Nat.digitChar (n / 256 % 16))
      (Nat.digitChar (n / 16 % 16)) (Nat.digitChar (n % 16)) = some n := by
    simp only [hexValue4?, hexValue?_digitChar _ (hlt _), Option.bind_eq_bind, Option.bind_some,
      Option.pure_def, Option.some.injEq]
    omega
  unfold hexEscape hexDigits4
  simp [utf8Size_digitChar _ (hlt _), hvalue]

theorem unicodeEscape_control {c : Char} (h : c.toNat < 0x20) (rest : List Char) :
    unicodeEscape (hexDigits4 c.toNat ++ rest) = .ok (c, rest) := by
  have hlow : isLowSurrogate c.toNat = false := by simp [isLowSurrogate]; omega
  have hhigh : isHighSurrogate c.toNat = false := by simp [isHighSurrogate]; omega
  unfold unicodeEscape
  rw [bind_apply, hexEscape_hexDigits4 (by omega)]
  simp only [hlow, hhigh, Bool.false_eq_true, if_false, pure_apply, Char.ofNat_toNat]

theorem escape_simple {c d : Char} (hu : d ≠ 'u') (hd : simpleEscape? d = some c)
    (rest : List Char) : escape (d :: rest) = .ok (c, rest) := by
  unfold escape
  simp only [bind_apply, next_cons, if_neg hu, hd, pure_apply]

theorem escape_control {c : Char} (h : c.toNat < 0x20) (rest : List Char) :
    escape ('u' :: (hexDigits4 c.toNat ++ rest)) = .ok (c, rest) := by
  unfold escape
  simp only [bind_apply, next_cons, if_true, unicodeEscape_control h]

section StringChars

variable {c : Char} {cs chars rest : List Char} {fuel : Nat}

theorem stringChars_escaped {taken : List Char} (hc : escape taken = .ok (c, cs))
    (h : stringChars escape fuel cs = .ok (chars, rest)) :
    stringChars escape (fuel + 1) ('\\' :: taken) = .ok (c :: chars, rest) := by
  have hquote : '\\' ≠ '"' := by decide
  rw [stringChars]
  simp only [bind_apply, next_cons, if_neg hquote, if_true, hc, h, pure_apply]

theorem stringChars_plain (hquote : c ≠ '"') (hslash : c ≠ '\\') (hcontrol : ¬ c.toNat < 0x20)
    (h : stringChars escape fuel cs = .ok (chars, rest)) :
    stringChars escape (fuel + 1) (c :: cs) = .ok (c :: chars, rest) := by
  rw [stringChars]
  simp only [bind_apply, next_cons, if_neg hquote, if_neg hslash, if_neg hcontrol, h, pure_apply]

theorem stringChars_escapeChar (h : stringChars escape fuel cs = .ok (chars, rest)) :
    stringChars escape (fuel + 1) (escapeChar c ++ cs) = .ok (c :: chars, rest) := by
  have hsimple : ∀ d : Char, d ≠ 'u' → simpleEscape? d = some c →
      stringChars escape (fuel + 1) (['\\', d] ++ cs) = .ok (c :: chars, rest) :=
    fun d hu hd => stringChars_escaped (escape_simple hu hd cs) h
  unfold escapeChar
  split
  case isTrue hc => subst hc; exact hsimple '"' (by decide) (by decide)
  case isFalse hquote =>
  split
  case isTrue hc => subst hc; exact hsimple '\\' (by decide) (by decide)
  case isFalse hslash =>
  split
  case isTrue hc => subst hc; exact hsimple 'b' (by decide) (by decide)
  split
  case isTrue hc => subst hc; exact hsimple 'f' (by decide) (by decide)
  split
  case isTrue hc => subst hc; exact hsimple 'n' (by decide) (by decide)
  split
  case isTrue hc => subst hc; exact hsimple 'r' (by decide) (by decide)
  split
  case isTrue hc => subst hc; exact hsimple 't' (by decide) (by decide)
  split
  case isTrue hcontrol => exact stringChars_escaped (escape_control hcontrol cs) h
  case isFalse hcontrol => exact stringChars_plain hquote hslash hcontrol h

end StringChars

theorem stringChars_flatMap (chars rest : List Char) {fuel : Nat} (hfuel : chars.length < fuel) :
    stringChars escape fuel (chars.flatMap escapeChar ++ '"' :: rest) = .ok (chars, rest) := by
  induction chars generalizing fuel with
  | nil =>
    obtain ⟨fuel, rfl⟩ : ∃ n, fuel = n + 1 := ⟨fuel - 1, by simp at hfuel; omega⟩
    rw [stringChars]
    simp only [List.flatMap_nil, List.nil_append, bind_apply, next_cons, if_true, pure_apply]
  | cons c chars ih =>
    rw [List.length_cons] at hfuel
    obtain ⟨fuel, rfl⟩ : ∃ n, fuel = n + 1 := ⟨fuel - 1, by omega⟩
    rw [List.flatMap_cons, List.append_assoc]
    exact stringChars_escapeChar (ih (by omega))

theorem length_le_flatMap_escapeChar (chars : List Char) :
    chars.length ≤ (chars.flatMap escapeChar).length := by
  have hpos : ∀ c, 1 ≤ (escapeChar c).length := by
    intro c
    unfold escapeChar hexDigits4
    split_ifs <;> simp
  induction chars with
  | nil => simp
  | cons c chars ih =>
    have := hpos c
    rw [List.flatMap_cons, List.length_append, List.length_cons]
    omega

theorem stringBody_quote (text : String) (rest : List Char) :
    stringBody (text.toList.flatMap escapeChar ++ '"' :: rest) = .ok (text, rest) := by
  have hlen := length_le_flatMap_escapeChar text.toList
  unfold stringBody
  simp only [bind_apply, get_apply]
  rw [stringChars_flatMap]
  · simp only [pure_apply, String.ofList_toList]
  · rw [List.length_append]
    omega

/-! ## Values -/

namespace Value

mutual

def depth : Value → Nat
  | array elems => depthElems elems + 1
  | object fields => depthFields fields + 1
  | _ => 0

def depthElems : List Value → Nat
  | [] => 0
  | v :: vs => max v.depth (depthElems vs)

def depthFields : List (String × Value) → Nat
  | [] => 0
  | (_, v) :: fields => max v.depth (depthFields fields)

end

theorem depth_le_depthElems {v : Value} {vs : List Value} (h : v ∈ vs) :
    v.depth ≤ depthElems vs := by
  induction vs with
  | nil => cases h
  | cons w vs ih =>
    rw [depthElems]
    rcases List.mem_cons.mp h with rfl | h
    · omega
    · have := ih h
      omega

theorem depth_le_depthFields {field : String × Value} {fields : List (String × Value)}
    (h : field ∈ fields) : field.2.depth ≤ depthFields fields := by
  induction fields with
  | nil => cases h
  | cons first fields ih =>
    obtain ⟨key, v⟩ := first
    rw [depthFields]
    rcases List.mem_cons.mp h with rfl | h
    · show v.depth ≤ _
      omega
    · have := ih h
      omega

def lead (first : Bool) : List Char := if first then [] else [',']

/-- Elements that follow others unless they are the first. -/
def elemsText (first : Bool) : List Value → List Char
  | [] => []
  | v :: vs => lead first ++ (v.compact ++ elemsText false vs)

def fieldsText (first : Bool) : List (String × Value) → List Char
  | [] => []
  | (key, v) :: fields =>
    lead first ++ (quote key ++ ':' :: (v.compact ++ fieldsText false fields))

theorem compactElems_eq (vs : List Value) : compactElems vs = elemsText true vs := by
  have hnext : ∀ vs v, compactElems (v :: vs) = v.compact ++ elemsText false vs := by
    intro vs
    induction vs with
    | nil => simp [compactElems, elemsText]
    | cons w vs ih => intro v; simp [compactElems, elemsText, lead, ih]
  cases vs with
  | nil => rfl
  | cons v vs => exact hnext vs v

theorem compactFields_eq (fields : List (String × Value)) :
    compactFields fields = fieldsText true fields := by
  have hnext : ∀ fields key v, compactFields ((key, v) :: fields) =
      quote key ++ ':' :: (v.compact ++ fieldsText false fields) := by
    intro fields
    induction fields with
    | nil => simp [compactFields, fieldsText]
    | cons field fields ih => intro key v; simp [compactFields, fieldsText, lead, ih]
  cases fields with
  | nil => rfl
  | cons field fields => exact hnext fields field.1 field.2

theorem length_le_fieldsText (first : Bool) (fields : List (String × Value)) :
    fields.length ≤ (fieldsText first fields).length := by
  induction fields generalizing first with
  | nil => simp
  | cons field fields ih =>
    have := ih false
    simp only [fieldsText, List.length_append, List.length_cons]
    omega

end Value

/-- A reader takes the text of a value from the front of a text and gives `a`, as long as the value
is not nested too deep. The text begins neither with a blank nor with the end of a list. -/
structure Reads {α : Type} (r : Reader α) (v : Value) (a : α) : Prop where
  begins : ∃ c tail, v.compact = c :: tail ∧ isBlank c = false ∧ c ≠ ']'
  reads : ∀ depth rest, v.depth < depth → depth ≤ depthLimit →
    r depth (v.compact ++ rest) = .ok (a, rest)

theorem withNext_cons {α : Type} (read : Char → Scan α) {c : Char} (h : isBlank c = false)
    (rest : List Char) : withNext read (c :: rest) = read c (c :: rest) := by
  unfold withNext
  simp only [bind_apply, peek_cons h]

theorem stringAs_quote (expected text : String) (rest : List Char) :
    stringAs expected (quote text ++ rest) = .ok (text, rest) := by
  unfold stringAs quote
  rw [List.cons_append, withNext_cons _ (by decide), if_pos rfl]
  simp only [bind_apply, drop_cons, List.append_assoc, List.singleton_append, stringBody_quote]

theorem reads_string (text : String) : Reads string (.string text) text where
  begins := ⟨'"', _, rfl, by decide, by decide⟩
  reads := fun _ rest _ _ => stringAs_quote _ text rest

theorem reads_bool (b : Bool) : Reads bool (.bool b) b where
  begins := by
    cases b with
    | false => exact ⟨'f', _, rfl, by decide, by decide⟩
    | true => exact ⟨'t', _, rfl, by decide, by decide⟩
  reads := by
    intro depth rest _ _
    cases b with
    | false => rfl
    | true => rfl

theorem reads_null {α : Type} (r : Reader α) : Reads (nullable r) .null none where
  begins := ⟨'n', _, rfl, by decide, by decide⟩
  reads := fun _ _ _ _ => rfl

theorem Reads.nullable {α : Type} {r : Reader α} {fields : List (String × Value)} {a : α}
    (h : Reads r (.object fields) a) : Reads (nullable r) (.object fields) (some a) where
  begins := h.begins
  reads := by
    intro depth rest hdepth hlimit
    have hread := h.reads depth rest hdepth hlimit
    have hblank : isBlank '{' = false := by decide
    unfold Json.nullable
    rw [Value.compact, List.cons_append] at hread ⊢
    simp only [bind_apply, peek_cons hblank]
    show (r depth >>= fun a => pure (some a) : Scan (Option α)) _ = _
    simp only [bind_apply, hread, pure_apply]

theorem reads_choice {α : Type} {variants : List (String × α)} {name name' : String} {a : α}
    (h : variants.find? (·.1 == name) = some (name', a)) :
    Reads (choice variants) (.string name) a where
  begins := ⟨'"', _, rfl, by decide, by decide⟩
  reads := by
    intro depth rest _ _
    have hne : '"' ≠ '{' := by decide
    have hname := stringAs_quote "variant identifier" name rest
    rw [Value.compact]
    unfold choice variant
    rw [quote, List.cons_append] at hname ⊢
    rw [withNext_cons _ (by decide), if_neg hne, if_pos rfl]
    simp only [bind_apply, hname, h, pure_apply]

theorem enter_of_lt {depth : Nat} (h : 1 < depth) (cs : List Char) :
    enter depth cs = .ok (depth - 1, cs) := by
  unfold enter
  rw [if_neg (by omega)]
  rfl

/-! ## Lists -/

theorem hasElement_lead (first : Bool) {c : Char} (hblank : isBlank c = false) (hend : c ≠ ']')
    (rest : List Char) :
    hasElement first (Value.lead first ++ c :: rest) = .ok (true, c :: rest) := by
  have hcomma : isBlank ',' = false := by decide
  have hne : ',' ≠ ']' := by decide
  unfold hasElement Value.lead
  cases first with
  | true =>
    simp only [if_true, List.nil_append, bind_apply, peek_cons hblank, if_neg hend, pure_apply]
  | false =>
    simp only [Bool.false_eq_true, if_false, List.singleton_append, bind_apply, peek_cons hcomma,
      if_neg hne, if_true, drop_cons, peek_cons hblank, pure_apply]

theorem endList_cons (rest : List Char) : endList (']' :: rest) = .ok ((), rest) := rfl

section Lists

variable {α : Type} {r : Reader α} {vs : List Value} {as : List α}

theorem length_le_elemsText (h : List.Forall₂ (Reads r) vs as) (first : Bool) :
    vs.length ≤ (Value.elemsText first vs).length := by
  induction h generalizing first with
  | nil => simp
  | cons hv _ ih =>
    obtain ⟨c, tail, hc, -⟩ := hv.begins
    have := ih false
    simp only [Value.elemsText, List.length_append, List.length_cons, hc]
    omega

theorem elementsUpTo_elemsText (h : List.Forall₂ (Reads r) vs as) {depth : Nat}
    (hdepth : ∀ v ∈ vs, v.depth < depth) (hlimit : depth ≤ depthLimit) (rest : List Char)
    {fuel : Nat} (hfuel : vs.length < fuel) (first : Bool) :
    elementsUpTo (r depth) fuel first (Value.elemsText first vs ++ ']' :: rest) =
      .ok (as, ']' :: rest) := by
  induction h generalizing fuel first with
  | nil =>
    obtain ⟨fuel, rfl⟩ : ∃ n, fuel = n + 1 := ⟨fuel - 1, by simp at hfuel; omega⟩
    rw [elementsUpTo]
    rfl
  | @cons v a vs as hv _ ih =>
    rw [List.length_cons] at hfuel
    obtain ⟨fuel, rfl⟩ : ∃ n, fuel = n + 1 := ⟨fuel - 1, by omega⟩
    obtain ⟨hdv, hdvs⟩ := List.forall_mem_cons.mp hdepth
    obtain ⟨c, tail, hc, hblank, hend⟩ := hv.begins
    have helem : ∀ cs, hasElement first (Value.lead first ++ (v.compact ++ cs)) =
        .ok (true, v.compact ++ cs) := by
      intro cs
      rw [hc]
      exact hasElement_lead first hblank hend _
    have hrest := ih hdvs (show vs.length < fuel by omega) false
    rw [Value.elemsText, List.append_assoc, List.append_assoc, elementsUpTo]
    simp only [bind_apply, helem, if_true, hv.reads _ _ hdv hlimit, hrest, pure_apply]

theorem reads_list (h : List.Forall₂ (Reads r) vs as) : Reads (listOf r) (.array vs) as where
  begins := ⟨'[', _, rfl, by decide, by decide⟩
  reads := by
    intro depth rest hdepth hlimit
    have hlen := length_le_elemsText h true
    rw [Value.depth] at hdepth
    have hdepths : ∀ v ∈ vs, v.depth < depth - 1 := by
      intro v hv
      have := Value.depth_le_depthElems hv
      omega
    rw [Value.compact, Value.compactElems_eq, List.cons_append, List.append_assoc,
      List.singleton_append]
    unfold listOf
    rw [withNext_cons _ (by decide), if_pos rfl]
    simp only [bind_apply, enter_of_lt (show 1 < depth by omega), drop_cons, get_apply]
    rw [elementsUpTo_elemsText h hdepths (by omega) rest (by rw [List.length_append]; omega)]
    simp only [endList_cons, pure_apply]

end Lists

/-! ## Objects -/

theorem hasKey_lead (first : Bool) (text : String) (rest : List Char) :
    hasKey first (Value.lead first ++ (quote text ++ rest)) = .ok (true, quote text ++ rest) := by
  cases first <;> rfl

theorem key_quote (text : String) (rest : List Char) :
    key (quote text ++ rest) = .ok (text, rest) := by
  unfold key quote
  rw [List.cons_append]
  simp only [bind_apply, drop_cons, List.append_assoc, List.singleton_append, stringBody_quote]

theorem colon_cons (rest : List Char) : colon (':' :: rest) = .ok ((), rest) := rfl

theorem endObject_cons (rest : List Char) : endObject ('}' :: rest) = .ok ((), rest) := rfl

section Maps

variable {α : Type} {r : Reader α} {fields : List (String × Value)} {entries : List (String × α)}

def ReadsEntry (r : Reader α) (field : String × Value) (entry : String × α) : Prop :=
  field.1 = entry.1 ∧ Reads r field.2 entry.2

theorem entriesUpTo_fieldsText (h : List.Forall₂ (ReadsEntry r) fields entries) {depth : Nat}
    (hdepth : ∀ f ∈ fields, f.2.depth < depth) (hlimit : depth ≤ depthLimit) (rest : List Char)
    {fuel : Nat} (hfuel : fields.length < fuel) (first : Bool) :
    entriesUpTo (r depth) fuel first (Value.fieldsText first fields ++ '}' :: rest) =
      .ok (entries, '}' :: rest) := by
  induction h generalizing fuel first with
  | nil =>
    obtain ⟨fuel, rfl⟩ : ∃ n, fuel = n + 1 := ⟨fuel - 1, by simp at hfuel; omega⟩
    rw [entriesUpTo]
    rfl
  | @cons field entry fields entries hfield _ ih =>
    rw [List.length_cons] at hfuel
    obtain ⟨fuel, rfl⟩ : ∃ n, fuel = n + 1 := ⟨fuel - 1, by omega⟩
    obtain ⟨hdv, hdvs⟩ := List.forall_mem_cons.mp hdepth
    obtain ⟨k, v⟩ := field
    obtain ⟨rfl, hv⟩ := hfield
    have hrest := ih hdvs (show fields.length < fuel by omega) false
    simp only [Value.fieldsText, List.cons_append, List.append_assoc]
    rw [entriesUpTo]
    simp only [bind_apply, hasKey_lead, if_true, key_quote, colon_cons, hv.reads _ _ hdv hlimit,
      hrest, pure_apply]

theorem reads_map (h : List.Forall₂ (ReadsEntry r) fields entries) :
    Reads (mapOf r) (.object fields) (.ofList entries) where
  begins := ⟨'{', _, rfl, by decide, by decide⟩
  reads := by
    intro depth rest hdepth hlimit
    have hlen := Value.length_le_fieldsText true fields
    rw [Value.depth] at hdepth
    have hdepths : ∀ f ∈ fields, f.2.depth < depth - 1 := by
      intro f hf
      have := Value.depth_le_depthFields hf
      omega
    rw [Value.compact, Value.compactFields_eq, List.cons_append, List.append_assoc,
      List.singleton_append]
    unfold mapOf
    rw [withNext_cons _ (by decide), if_pos rfl]
    simp only [bind_apply, enter_of_lt (show 1 < depth by omega), drop_cons, get_apply]
    rw [entriesUpTo_fieldsText h hdepths (by omega) rest (by rw [List.length_append]; omega)]
    simp only [endObject_cons, pure_apply]

end Maps

/-! ## Records -/

/-- Fields that take a draft of a record to another, each of which is known and not set before. -/
inductive Fills {σ α : Type} (r : Record σ α) : List (String × Value) → σ → σ → Prop where
  | nil (draft : σ) : Fills r [] draft draft
  | cons {name : String} {v : Value} {fields : List (String × Value)} {draft draft' : σ}
      {field : Field σ} {update : σ → σ} : r.fields.find? (·.name == name) = some field →
      field.isSet draft = false → Reads field.read v update →
      Fills r fields (update draft) draft' → Fills r ((name, v) :: fields) draft draft'

section Records

variable {σ α : Type} {r : Record σ α} {fields : List (String × Value)}

theorem fieldsUpTo_fieldsText {draft draft' : σ} (h : Fills r fields draft draft') {depth : Nat}
    (hdepth : ∀ f ∈ fields, f.2.depth < depth) (hlimit : depth ≤ depthLimit) (rest : List Char)
    {fuel : Nat} (hfuel : fields.length < fuel) (first : Bool) :
    r.fieldsUpTo depth fuel first draft (Value.fieldsText first fields ++ '}' :: rest) =
      .ok (draft', '}' :: rest) := by
  induction h generalizing fuel first with
  | nil =>
    obtain ⟨fuel, rfl⟩ : ∃ n, fuel = n + 1 := ⟨fuel - 1, by simp at hfuel; omega⟩
    rw [Record.fieldsUpTo]
    rfl
  | @cons _ _ fields _ _ _ _ hfind hset hv _ ih =>
    rw [List.length_cons] at hfuel
    obtain ⟨fuel, rfl⟩ : ∃ n, fuel = n + 1 := ⟨fuel - 1, by omega⟩
    obtain ⟨hdv, hdvs⟩ := List.forall_mem_cons.mp hdepth
    have hrest := ih hdvs (show fields.length < fuel by omega) false
    simp only [Value.fieldsText, List.cons_append, List.append_assoc]
    rw [Record.fieldsUpTo]
    simp only [bind_apply, hasKey_lead, if_true, key_quote, hfind, hset, Bool.false_eq_true,
      if_false, colon_cons, hv.reads _ _ hdv hlimit, hrest]

theorem reads_record {draft : σ} {a : α} (h : Fills r fields r.empty draft)
    (hdone : r.complete draft = pure a) : Reads r.reader (.object fields) a where
  begins := ⟨'{', _, rfl, by decide, by decide⟩
  reads := by
    intro depth rest hdepth hlimit
    have hlen := Value.length_le_fieldsText true fields
    rw [Value.depth] at hdepth
    have hdepths : ∀ f ∈ fields, f.2.depth < depth - 1 := by
      intro f hf
      have := Value.depth_le_depthFields hf
      omega
    have hne : '{' ≠ '[' := by decide
    rw [Value.compact, Value.compactFields_eq, List.cons_append, List.append_assoc,
      List.singleton_append]
    unfold Record.reader
    rw [withNext_cons _ (by decide), if_neg hne, if_pos rfl]
    simp only [bind_apply, enter_of_lt (show 1 < depth by omega), drop_cons, get_apply]
    rw [fieldsUpTo_fieldsText h hdepths (by omega) rest (by rw [List.length_append]; omega)]
    simp only [hdone, endObject_cons, pure_apply]

end Records

/-! ## Documents -/

theorem parse_compactText {α : Type} {r : Reader α} {v : Value} {a : α} (h : Reads r v a)
    (hdepth : v.depth < depthLimit) : parse r v.compactText = .ok a := by
  have hwhole : whole r v.compact = .ok (a, []) := by
    have hread := h.reads depthLimit [] hdepth (le_refl _)
    rw [List.append_nil] at hread
    unfold whole
    simp only [bind_apply, hread]
    rfl
  unfold parse Value.compactText
  rw [String.toList_ofList, hwhole]

end RpcStubs.Json
