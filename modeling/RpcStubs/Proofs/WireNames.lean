import RpcStubs.Proofs.Lexing
import RpcStubs.Proofs.Literals
import RpcStubs.Proofs.MarkerGrammar
import RpcStubs.Render.Source

/-!
# Wire names in generated files

The descriptor of a service holds the names that are sent, as string literals. Each is one literal
for the lexer, whatever characters the name has, and its value is the name again.
-/

namespace RpcStubs.Idl

open Text (isIdentStart isIdentContinue escapeChar unicodeEscape hexDigits isPlain quoted)

/-! ## Inside of a literal -/

def lineBreaks : List Char :=
  ['\n', '\x0b', '\x0c', '\r', '\x85', '\u2028', '\u2029']

/-- What may stand between the quotes of a literal: characters other than quotes, backslashes and
line breaks, and escapes. -/
inductive LiteralBody : List Char → Prop
  | nil : LiteralBody []
  | plain {c : Char} {cs : List Char} (hquote : c ≠ '"') (hback : c ≠ '\\')
      (hbreak : c ∉ lineBreaks) (h : LiteralBody cs) : LiteralBody (c :: cs)
  | short {c : Char} {cs : List Char} (hc : c ∈ ['0', 't', 'r', 'n', '\\', '"'])
      (h : LiteralBody cs) : LiteralBody ('\\' :: c :: cs)
  | code {digits cs : List Char} (hdigits : ∀ d ∈ digits, (hexValue? d).isSome)
      (hne : digits ≠ []) (hlength : digits.length ≤ 6) (h : LiteralBody cs) :
      LiteralBody ('\\' :: 'u' :: '{' :: digits ++ '}' :: cs)

theorem isPlain_lineBreaks : (lineBreaks.any isPlain) = false := by decide +kernel

theorem hexValue?_of_mem_hexDigits (n : Nat) : ∀ d ∈ hexDigits n, (hexValue? d).isSome := by
  induction n using Nat.strongRecOn with
  | ind n ih =>
    intro d hd
    rw [hexDigits_eq, List.mem_append, List.mem_singleton] at hd
    rcases hd with hd | rfl
    · by_cases hsmall : n < 16
      · simp [hsmall] at hd
      · rw [if_neg hsmall] at hd
        exact ih (n / 16) (by omega) d hd
    · rw [hexValue?_digitChar (n % 16) (Nat.mod_lt n (by decide))]
      rfl

theorem literalBody_escapeChar (c : Char) {cs : List Char} (h : LiteralBody cs) :
    LiteralBody (escapeChar c ++ cs) := by
  unfold escapeChar
  split_ifs with hnul htab hcarriage hfeed hback hquote hplain
  · exact .short (by decide) h
  · exact .short (by decide) h
  · exact .short (by decide) h
  · exact .short (by decide) h
  · exact .short (by decide) h
  · exact .short (by decide) h
  · refine .plain hquote hback ?_ h
    intro hbreak
    have hany : lineBreaks.any isPlain = true := List.any_eq_true.mpr ⟨c, hbreak, hplain⟩
    rw [isPlain_lineBreaks] at hany
    cases hany
  · have hne : hexDigits c.toNat ≠ [] := List.ne_nil_of_length_pos Nat.length_toDigits_pos
    have hcode := LiteralBody.code (hexValue?_of_mem_hexDigits c.toNat) hne
      (length_hexDigits_toNat c) h
    simpa [unicodeEscape] using hcode

theorem literalBody_flatMap (text : List Char) : LiteralBody (text.flatMap escapeChar) := by
  induction text with
  | nil => exact .nil
  | cons c text ih => exact literalBody_escapeChar c ih

/-! ## Values -/

theorem readString_flatMap (text rest : List Char) :
    readString .text .plain (text.flatMap escapeChar ++ '"' :: rest) = some (text, rest) := by
  induction text with
  | nil => rfl
  | cons c text ih =>
    rw [List.flatMap_cons, List.append_assoc, readString_escapeChar, ih]
    rfl

theorem quoted_toList (s : String) :
    (quoted s).toList = '"' :: s.toList.flatMap escapeChar ++ ['"'] := by
  rw [quoted, String.toList_ofList, Text.quotedChars]

/-- The literal that stands for a text. -/
def nameLiteral (s : String) : Literal := ⟨.string, quoted s⟩

theorem stringValue?_nameLiteral (s : String) : (nameLiteral s).stringValue? = some s := by
  have hread := readString_flatMap s.toList []
  simp [nameLiteral, Literal.stringValue?, quoted_toList, Literal.stringChars?, hread]

theorem quoted_inj (s t : String) : quoted s = quoted t ↔ s = t := by
  constructor
  · intro h
    have hs := stringValue?_nameLiteral s
    rw [nameLiteral, h, ← nameLiteral, stringValue?_nameLiteral t] at hs
    exact (Option.some.inj hs).symm
  · rintro rfl
    rfl

/-! ## Lexemes -/

/-- No suffix of a literal begins here. -/
def NoSuffix (rest : List Char) : Prop := ∀ c ∈ rest.head?, isIdentStart c = false

theorem dropSuffix_of_noSuffix {rest : List Char} (h : NoSuffix rest) : dropSuffix rest = rest := by
  cases rest with
  | nil => rfl
  | cons c rest => simp [dropSuffix, readWord, h c rfl]

theorem readLeaf_quoted (s : String) {rest : List Char} (hrest : NoSuffix rest) :
    readLeaf ((quoted s).toList ++ rest) = some (.literal (nameLiteral s), rest) := by
  have hliteral : readLiteral ((quoted s).toList ++ rest) = some (.string, rest) := by
    rw [quoted_toList]
    simp [readLiteral, readString_flatMap, dropSuffix_of_noSuffix hrest]
  have htake : ((quoted s).toList ++ rest).take
      (((quoted s).toList ++ rest).length - rest.length) = (quoted s).toList := by
    simp
  rw [readLeaf, hliteral]
  simp only [htake, String.ofList_toList]
  rfl

theorem lexesAs_leaf {cs rest : List Char} {c : Char} {t : TokenTree} (hc : cs.head? = some c)
    (hslash : c ≠ '/') (hspace : isSpace c = false) (hdelim : delimiterLexeme? c = none)
    (hleaf : readLeaf (cs ++ rest) = some (t, rest)) : LexesAs cs rest [t] := by
  refine ⟨[.tree t], nests_tree t, fun later h => ?_⟩
  obtain ⟨tail, rfl⟩ := List.head?_eq_some_iff.mp hc
  have hread : readLexemes (c :: tail ++ rest) = some ([.tree t], rest) := by
    rw [List.cons_append] at hleaf ⊢
    rw [readLexemes_of_ne hslash hspace, hdelim, hleaf]
    rfl
  exact Lexes.step hread (by simp) h

theorem lexesAs_quoted (s : String) {rest : List Char} (hrest : NoSuffix rest) :
    LexesAs (quoted s).toList rest [.literal (nameLiteral s)] := by
  have hhead : (quoted s).toList.head? = some '"' := by rw [quoted_toList]; rfl
  exact lexesAs_leaf hhead (by decide) (by decide) rfl (readLeaf_quoted s hrest)

/-! ## Lines -/

def serviceNameLine (s : String) : String :=
  "pub const SERVICE_NAME: &'static str = " ++ quoted s ++ ";"

def wireNameLine (s : String) : String := quoted s ++ ","

def serviceNameTrees (lit : Literal) : List TokenTree :=
  [.ident "pub", .ident "const", .ident "SERVICE_NAME", .punct ':' false, .punct '&' true,
    .punct '\'' true, .ident "static", .ident "str", .punct '=' false, .literal lit,
    .punct ';' false]

theorem tokenTrees_wireNameLine (s : String) :
    tokenTrees (wireNameLine s).toList =
      some [.literal (nameLiteral s), .punct ',' false] := by
  have hmark : LexesAs [','] [] [.punct ',' false] := lexesAs_punct (by decide) []
  have hname : LexesAs (quoted s).toList ([','] ++ []) [.literal (nameLiteral s)] :=
    lexesAs_quoted s (by rintro _ ⟨⟩; decide)
  have hline := (hname.append hmark).tokenTrees
  simpa [wireNameLine] using hline

theorem isWord_of_all {c : Char} {cs : List Char}
    (h : (isIdentStart c && cs.all isIdentContinue) = true) : IsWord (c :: cs) := by
  rw [Bool.and_eq_true, List.all_eq_true] at h
  exact .plain h.1 h.2

theorem lexesAs_spaced {w : String} (hw : IsWord w.toList) (rest : List Char) :
    LexesAs (w.toList ++ [' ']) rest [.ident w] := by
  have hword : LexesAs w.toList ([' '] ++ rest) [.ident w] :=
    lexesAs_word hw (by rintro _ ⟨⟩; decide)
  exact hword.append (lexesAs_blank (by decide) rest)

theorem lexesAs_nameConstant (rest : List Char) :
    LexesAs "pub const SERVICE_NAME: &'static str = ".toList rest
      [.ident "pub", .ident "const", .ident "SERVICE_NAME", .punct ':' false, .punct '&' true,
        .punct '\'' true, .ident "static", .ident "str", .punct '=' false] := by
  -- From the right, since each part has to know what follows it.
  have hequals : LexesAs ['=', ' '] rest [.punct '=' false] := by
    have hmark : LexesAs ['='] ([' '] ++ rest) [.punct '=' false] :=
      lexesAs_leaf rfl (by decide) (by decide) rfl rfl
    exact hmark.append (lexesAs_blank (by decide) rest)
  have htype : LexesAs "static str = ".toList rest
      [.ident "static", .ident "str", .punct '=' false] := by
    have hstatic : IsWord "static".toList := isWord_of_all (by decide)
    have hstr : IsWord "str".toList := isWord_of_all (by decide)
    exact (lexesAs_spaced hstatic _).append ((lexesAs_spaced hstr _).append hequals)
  have hlifetime : LexesAs "&'static str = ".toList rest
      [.punct '&' true, .punct '\'' true, .ident "static", .ident "str", .punct '=' false] := by
    have hquote : LexesAs ['\''] ("static str = ".toList ++ rest) [.punct '\'' true] :=
      lexesAs_leaf rfl (by decide) (by decide) rfl rfl
    have hand : LexesAs ['&'] (['\''] ++ "static str = ".toList ++ rest) [.punct '&' true] :=
      lexesAs_leaf rfl (by decide) (by decide) rfl rfl
    exact hand.append (hquote.append htype)
  have hcolon : LexesAs [':', ' '] ("&'static str = ".toList ++ rest) [.punct ':' false] := by
    have hmark : LexesAs [':'] ([' '] ++ ("&'static str = ".toList ++ rest)) [.punct ':' false] :=
      lexesAs_punct (by decide) _
    exact hmark.append (lexesAs_blank (by decide) _)
  have hname : LexesAs "SERVICE_NAME".toList ([':', ' '] ++ "&'static str = ".toList ++ rest)
      [.ident "SERVICE_NAME"] :=
    lexesAs_word (isWord_of_all (by decide)) (endsWord_mark (by decide) _)
  have hpub : IsWord "pub".toList := isWord_of_all (by decide)
  have hconst : IsWord "const".toList := isWord_of_all (by decide)
  exact (lexesAs_spaced hpub _).append ((lexesAs_spaced hconst _).append
    (hname.append (hcolon.append hlifetime)))

theorem tokenTrees_serviceNameLine (s : String) :
    tokenTrees (serviceNameLine s).toList = some (serviceNameTrees (nameLiteral s)) := by
  have hend : LexesAs [';'] [] [.punct ';' false] :=
    lexesAs_leaf rfl (by decide) (by decide) rfl rfl
  have hname : LexesAs (quoted s).toList ([';'] ++ []) [.literal (nameLiteral s)] :=
    lexesAs_quoted s (by rintro _ ⟨⟩; decide)
  have hline := ((lexesAs_nameConstant _).append (hname.append hend)).tokenTrees
  -- Stated for any text in front, as the constant itself would be unfolded into its characters.
  have htext : ∀ front : String,
      (front ++ quoted s ++ ";").toList = front.toList ++ ((quoted s).toList ++ [';']) := by
    simp
  exact (congrArg tokenTrees (htext _)).trans hline

/-! ## Names in a descriptor -/

/-- A literal that stands for a text: nothing inside of it ends it early or breaks the line, it is a
single tree also in the lines of a descriptor, and read as the argument of a marker it gives the
text. -/
structure StandsFor (lit : Literal) (s : String) : Prop where
  body : ∃ body, lit.text.toList = '"' :: body ++ ['"'] ∧ LiteralBody body
  alone : tokenTrees lit.text.toList = some [.literal lit]
  inService : tokenTrees (serviceNameLine s).toList = some (serviceNameTrees lit)
  inEntry : tokenTrees (wireNameLine s).toList = some [.literal lit, .punct ',' false]
  value : lit.stringValue? = some s
  bareArg : readArgs [.literal lit] = .ok [(Marker.nameKey, s)]
  keyedArg : ∀ key joint, key ∉ reservedWords →
    readArgs [.ident key, .punct '=' joint, .literal lit] = .ok [(key, s)]

theorem standsFor_nameLiteral (s : String) : StandsFor (nameLiteral s) s where
  body := ⟨_, quoted_toList s, literalBody_flatMap s.toList⟩
  alone := (lexesAs_quoted s (by rintro _ ⟨⟩)).tokenTrees
  inService := tokenTrees_serviceNameLine s
  inEntry := tokenTrees_wireNameLine s
  value := stringValue?_nameLiteral s
  bareArg := (readArgs_eq_ok ..).mpr (.last (.bare (stringValue?_nameLiteral s)))
  keyedArg key joint hkey :=
    (readArgs_eq_ok ..).mpr (.last (.keyed joint hkey (stringValue?_nameLiteral s)))

theorem nested_blocks_eq (start codecs entries : List Step) (x y : Step) (impl new self : Line)
    (last : String) :
    start ++ block impl ([x, y] ++ block new (codecs ++ block self entries last) last) last =
      start ++ [Step.opening impl] ++ [x] ++ (y :: Step.opening new :: codecs ++
        [Step.opening self]) ++ entries ++ List.replicate 3 (Step.closing last) := by
  simp [block, List.replicate]

/-- The names of a service and its methods are written into the descriptor as literals that stand
for them, and different names as different literals. -/
theorem wire_names_survive (r : Renderer) (a : DescriptorArtifact) :
    (∃ before between after : List Step, r.steps (.descriptor a) =
      before ++ [Step.plain (serviceNameLine a.wireName)] ++ between ++
        a.entries.flatMap Renderer.entrySteps ++ after) ∧
    (∀ e ∈ a.entries, ∃ (first : Step) (last : List Step), Renderer.entrySteps e =
      [first, Step.plain "Self::SERVICE_NAME,", Step.plain (wireNameLine e.wireName)] ++ last) ∧
    (∀ s, StandsFor ⟨.string, quoted s⟩ s) ∧
    ∀ s t, quoted s = quoted t ↔ s = t := by
  refine ⟨?_, ?_, standsFor_nameLiteral, quoted_inj⟩
  · rw [Renderer.steps, Renderer.descriptorSteps, ← List.append_assoc]
    exact ⟨_, _, _, nested_blocks_eq ..⟩
  · intro e _
    exact ⟨_, _, rfl⟩

end RpcStubs.Idl
