/-!
# Maps with string keys in increasing order

The entries are strictly increasing by key, so a map with the same look-ups has the same
entries.
-/

namespace RpcStubs

/-- Keys grow strictly from left to right. -/
def KeysIncrease {β : Type} (entries : List (String × β)) : Prop :=
  entries.Pairwise (fun a b => a.1 < b.1)

structure SortedMap (β : Type) where
  entries : List (String × β)
  increasing : KeysIncrease entries

namespace SortedMap

variable {β : Type}

/-- Puts an entry at its place. An entry with the same key is replaced. -/
def insertEntry (key : String) (value : β) : List (String × β) → List (String × β)
  | [] => [(key, value)]
  | e :: rest =>
    if key < e.1 then (key, value) :: e :: rest
    else if e.1 < key then e :: insertEntry key value rest
    else (key, value) :: rest

theorem eq_of_not_lt {a b : String} (h₁ : ¬a < b) (h₂ : ¬b < a) : a = b :=
  String.le_antisymm (String.not_lt.1 h₂) (String.not_lt.1 h₁)

theorem mem_insertEntry {key : String} {value : β} {entries : List (String × β)}
    {e : String × β} (h : e ∈ insertEntry key value entries) :
    e = (key, value) ∨ e ∈ entries := by
  induction entries with
  | nil => simpa [insertEntry] using h
  | cons d rest ih =>
    simp only [insertEntry] at h
    split at h
    · simpa using h
    · split at h
      · rcases List.mem_cons.1 h with rfl | h
        · simp
        · rcases ih h with h | h <;> simp [h]
      · rcases List.mem_cons.1 h with h | h <;> simp [h]

theorem keysIncrease_insertEntry (key : String) (value : β) {entries : List (String × β)}
    (h : KeysIncrease entries) : KeysIncrease (insertEntry key value entries) := by
  induction entries with
  | nil => simp [insertEntry, KeysIncrease]
  | cons d rest ih =>
    obtain ⟨hd, hr⟩ := List.pairwise_cons.1 h
    simp only [insertEntry]
    split
    · rename_i hlt
      refine List.pairwise_cons.2 ⟨?_, h⟩
      intro e he
      rcases List.mem_cons.1 he with rfl | he
      · exact hlt
      · exact String.lt_trans hlt (hd e he)
    · split
      · rename_i hlt
        refine List.pairwise_cons.2 ⟨?_, ih hr⟩
        intro e he
        rcases mem_insertEntry he with rfl | he
        · exact hlt
        · exact hd e he
      · rename_i h₁ h₂
        have hk : key = d.1 := eq_of_not_lt h₁ h₂
        refine List.pairwise_cons.2 ⟨?_, hr⟩
        intro e he
        simpa [hk] using hd e he

def empty : SortedMap β := ⟨[], List.Pairwise.nil⟩

def insert (m : SortedMap β) (key : String) (value : β) : SortedMap β :=
  ⟨insertEntry key value m.entries, keysIncrease_insertEntry key value m.increasing⟩

def get? (m : SortedMap β) (key : String) : Option β :=
  (m.entries.find? (·.1 == key)).map (·.2)

/-- Inserts the entries from left to right, so the last one of a key wins. -/
def ofList (entries : List (String × β)) : SortedMap β :=
  entries.foldl (fun m e => m.insert e.1 e.2) empty

def keys (m : SortedMap β) : List String := m.entries.map (·.1)

/-- The distinct keys of a list, in increasing order. -/
def sortKeys (keys : List String) : List String := (ofList (keys.map (·, ()))).keys

theorem mem_keys_insert (m : SortedMap β) (key : String) (value : β) (k : String) :
    k ∈ (m.insert key value).keys ↔ k = key ∨ k ∈ m.keys := by
  obtain ⟨entries, increasing⟩ := m
  simp only [keys, insert]
  clear increasing
  induction entries with
  | nil => simp [insertEntry]
  | cons e rest ih =>
    simp only [insertEntry]
    split
    · simp
    · split
      · simp only [List.map_cons, List.mem_cons, ih]
        exact or_left_comm
      · rename_i h₁ h₂
        simp [eq_of_not_lt h₁ h₂]

theorem mem_keys_ofList (entries : List (String × β)) (k : String) :
    k ∈ (ofList entries).keys ↔ k ∈ entries.map (·.1) := by
  have hfold : ∀ (es : List (String × β)) (m : SortedMap β),
      k ∈ (es.foldl (fun m e => m.insert e.1 e.2) m).keys ↔ k ∈ m.keys ∨ k ∈ es.map (·.1) := by
    intro es
    induction es with
    | nil => simp
    | cons e es ih =>
      intro m
      rw [List.foldl_cons, ih, mem_keys_insert, List.map_cons, List.mem_cons, or_assoc,
        or_left_comm]
  rw [ofList, hfold]
  simp [empty, keys]

theorem mem_sortKeys (keys : List String) (k : String) : k ∈ sortKeys keys ↔ k ∈ keys := by
  rw [sortKeys, mem_keys_ofList, List.map_map]
  simp

theorem sortKeys_increasing (keys : List String) : (sortKeys keys).Pairwise (· < ·) :=
  List.pairwise_map.2 (ofList (keys.map (·, ()))).increasing

def isEmpty (m : SortedMap β) : Bool := m.entries.isEmpty

theorem ext {m n : SortedMap β} (h : m.entries = n.entries) : m = n := by
  cases m; cases n; simpa using h

instance [DecidableEq β] : DecidableEq (SortedMap β) := fun m n =>
  if h : m.entries = n.entries then isTrue (ext h)
  else isFalse (fun e => h (congrArg SortedMap.entries e))

instance [Repr β] : Repr (SortedMap β) := ⟨fun m n => reprPrec m.entries n⟩

end SortedMap

end RpcStubs
