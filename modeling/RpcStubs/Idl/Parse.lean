import RpcStubs.Idl.Token

/-!
# Reading token trees

A reader takes trees from the front of a list and keeps what it has taken, with the spacing in
which the syntax is printed again. A reader of a group has to use up the whole group.
-/

namespace RpcStubs.Idl

/-- The trees to come, and those taken, in reverse. -/
structure ParseState where
  rest : List TokenTree
  taken : List TokenTree
  deriving Repr

/-- A reader. What it leaves is an end of what it was given. -/
structure Parse (α : Type) where
  run : ParseState → Option (α × ParseState)
  leaves : ∀ s r, run s = some r → r.2.rest <:+ s.rest

namespace Parse

/-- Reads nothing. -/
def give {α : Type} (a : α) : Parse α where
  run s := some (a, s)
  leaves := by
    rintro s _ ⟨⟩
    exact List.suffix_rfl

/-- One reader after the other. -/
def andThen {α β : Type} (p : Parse α) (f : α → Parse β) : Parse β where
  run s :=
    match p.run s with
    | some (a, t) => (f a).run t
    | none => none
  leaves := by
    intro s r h
    split at h
    · rename_i a t hp
      exact ((f a).leaves t r h).trans (p.leaves s _ hp)
    · cases h

instance : Monad Parse where
  pure := give
  bind := andThen

end Parse

/-! ## Looking ahead -/

/-- The first tree is left out. A lifetime counts as one. -/
def skipTree : List TokenTree → List TokenTree
  | .punct '\'' true :: .ident _ :: ts => ts
  | _ :: ts => ts
  | [] => []

/-- What follows an operator. All of its characters but the last are joined to the next. -/
def dropOperator? : List Char → List TokenTree → Option (List TokenTree)
  | [], _ => none
  | [c], .punct d _ :: ts => if c = d then some ts else none
  | c :: cs, .punct d joint :: ts => if c = d ∧ joint then dropOperator? cs ts else none
  | _, _ => none

/-- Does the operator come next? -/
def nextIs (op : String) (ts : List TokenTree) : Bool := (dropOperator? op.toList ts).isSome

def nextIsAny (ops : List String) (ts : List TokenTree) : Bool := ops.any (nextIs · ts)

def nextWord? : List TokenTree → Option String
  | .ident text :: _ => some text
  | _ => none

def nextIsWord (word : String) (ts : List TokenTree) : Bool := nextWord? ts == some word

def nextIsAnyWord (words : List String) (ts : List TokenTree) : Bool :=
  match nextWord? ts with
  | some word => words.contains word
  | none => false

/-- Words that are no identifiers. -/
def reservedWords : List String := [
  "_", "abstract", "as", "async", "await", "become", "box", "break", "const", "continue",
  "crate", "do", "dyn", "else", "enum", "extern", "false", "final", "fn", "for", "if", "impl",
  "in", "let", "loop", "macro", "match", "mod", "move", "mut", "override", "priv", "pub", "ref",
  "return", "Self", "self", "static", "struct", "super", "trait", "true", "try", "type",
  "typeof", "unsafe", "unsized", "use", "virtual", "where", "while", "yield"]

def isIdentifier (word : String) : Bool := !reservedWords.contains word

def nextIsIdent (ts : List TokenTree) : Bool :=
  match nextWord? ts with
  | some word => isIdentifier word
  | none => false

def nextIsLifetime : List TokenTree → Bool
  | .punct '\'' true :: .ident _ :: _ => true
  | _ => false

def nextIsGroup (d : Delimiter) : List TokenTree → Bool
  | .group e _ :: _ => d == e
  | _ => false

def nextIsString : List TokenTree → Bool
  | .literal lit :: _ => lit.kind == .string
  | _ => false

/-- A literal, a truth value, or a negative number. -/
def nextIsLiteral : List TokenTree → Bool
  | .literal _ :: _ => true
  | .ident word :: _ => word == "true" || word == "false"
  | .punct '-' _ :: .literal lit :: _ => lit.kind == .int || lit.kind == .float
  | _ => false

/-! ## Taking trees -/

def remaining : Parse (List TokenTree) where
  run s := some (s.rest, s)
  leaves := by
    rintro s _ ⟨⟩
    exact List.suffix_rfl

/-- Is the next thing what `look` asks for? -/
def peek (look : List TokenTree → Bool) : Parse Bool := return look (← remaining)

def fail {α : Type} : Parse α where
  run _ := none
  leaves := by
    rintro s r ⟨⟩

def atEnd : Parse Bool := peek List.isEmpty

/-- Takes `count` trees from the front and keeps `trees` instead of them. -/
def replaceTrees (count : Nat) (trees : List TokenTree) : Parse Unit where
  run s := some ((), ⟨s.rest.drop count, trees.reverse ++ s.taken⟩)
  leaves := by
    rintro s _ ⟨⟩
    exact List.drop_suffix count s.rest

/-- The spacing of an operator: its characters are joined to each other. -/
def operatorTrees : List Char → List TokenTree
  | [] => []
  | [c] => [.punct c false]
  | c :: cs => .punct c true :: operatorTrees cs

def operator (op : String) : Parse Unit := do
  if nextIs op (← remaining) then replaceTrees op.length (operatorTrees op.toList) else fail

/-- An operator that may be missing. -/
def operator? (op : String) : Parse Bool := do
  if nextIs op (← remaining) then
    operator op
    return true
  else return false

def word (w : String) : Parse Unit := do
  if nextIsWord w (← remaining) then replaceTrees 1 [.ident w] else fail

def word? (w : String) : Parse Bool := do
  if nextIsWord w (← remaining) then
    word w
    return true
  else return false

/-- Any word, reserved or not. -/
def anyWord : Parse String := do
  match nextWord? (← remaining) with
  | some w =>
    replaceTrees 1 [.ident w]
    return w
  | none => fail

def ident : Parse String := do
  if nextIsIdent (← remaining) then anyWord else fail

def lifetime : Parse Unit := do
  match ← remaining with
  | .punct '\'' true :: .ident w :: _ => replaceTrees 2 [.punct '\'' true, .ident w]
  | _ => fail

def lifetime? : Parse Bool := do
  if nextIsLifetime (← remaining) then
    lifetime
    return true
  else return false

def stringLiteral : Parse Literal := do
  match ← remaining with
  | .literal lit :: _ =>
    if lit.kind = .string then
      replaceTrees 1 [.literal lit]
      return lit
    else fail
  | _ => fail

def literal : Parse Unit := do
  match ← remaining with
  | .literal lit :: _ => replaceTrees 1 [.literal lit]
  | .ident w :: _ => if w = "true" ∨ w = "false" then replaceTrees 1 [.ident w] else fail
  | .punct '-' _ :: .literal lit :: _ =>
    if lit.kind = .int ∨ lit.kind = .float then
      replaceTrees 2 [.punct '-' false, .literal lit]
    else fail
  | _ => fail

/-! ## Groups -/

/-- Reads the trees of a list, all of them, and gives what was taken. -/
def readAll {α : Type} (p : Parse α) (trees : List TokenTree) : Option (α × List TokenTree) :=
  match p.run ⟨trees, []⟩ with
  | some (a, s) => if s.rest.isEmpty then some (a, s.taken.reverse) else none
  | none => none

def group {α : Type} (d : Delimiter) (p : Parse α) : Parse α := do
  match ← remaining with
  | .group e trees :: _ =>
    if d = e then
      match readAll p trees with
      | some (a, taken) =>
        replaceTrees 1 [.group d taken]
        return a
      | none => fail
    else fail
  | _ => fail

/-- A group of any content, kept as it is. -/
def anyGroup : Parse (Delimiter × List TokenTree) := do
  match ← remaining with
  | .group d trees :: _ =>
    replaceTrees 1 [.group d trees]
    return (d, trees)
  | _ => fail

/-- All trees that are left, kept as they are. -/
def everything : Parse Unit where
  run s := some ((), ⟨[], s.rest.reverse ++ s.taken⟩)
  leaves := by
    rintro s _ ⟨⟩
    exact List.nil_suffix

/-! ## Combinations -/

/-- The result of a reader and what it took. -/
def captured {α : Type} (p : Parse α) : Parse (α × List TokenTree) where
  run s :=
    match p.run ⟨s.rest, []⟩ with
    | some (a, t) => some ((a, t.taken.reverse), ⟨t.rest, t.taken ++ s.taken⟩)
    | none => none
  leaves := by
    intro s r h
    split at h
    · rename_i hp
      cases h
      exact p.leaves _ _ hp
    · cases h

/-- Keeps the trees just as they are written, if the reader accepts them. -/
def verbatim {α : Type} (p : Parse α) : Parse α where
  run s :=
    match p.run ⟨s.rest, []⟩ with
    | some (a, t) =>
      let count := s.rest.length - t.rest.length
      some (a, ⟨t.rest, (s.rest.take count).reverse ++ s.taken⟩)
    | none => none
  leaves := by
    intro s r h
    split at h
    · rename_i hp
      cases h
      exact (p.leaves ⟨s.rest, []⟩ _ hp :)
    · cases h

/-- The result of a reader that takes nothing, or nothing if it fails. -/
def ahead {α : Type} (p : Parse α) : Parse (Option α) where
  run s :=
    match p.run s with
    | some (a, _) => some (some a, s)
    | none => some (none, s)
  leaves := by
    intro s r h
    split at h <;> cases h <;> exact List.suffix_rfl

/-- The first reader, or the second if the first fails. -/
def either {α : Type} (p q : Parse α) : Parse α where
  run s :=
    match p.run s with
    | some found => some found
    | none => q.run s
  leaves := by
    intro s r h
    split at h
    · rename_i hp
      cases h
      exact p.leaves _ _ hp
    · exact q.leaves _ _ h

def optional {α : Type} (look : List TokenTree → Bool) (p : Parse α) : Parse (Option α) := do
  if look (← remaining) then return some (← p) else return none

/-- Reads items until `stop` holds, at most `fuel` of them. -/
def manyUpTo {α : Type} (fuel : Nat) (stop : List TokenTree → Bool) (p : Parse α) :
    Parse (List α) := do
  if stop (← remaining) then return []
  match fuel with
  | 0 => fail
  | fuel + 1 =>
    let a ← p
    let rest ← manyUpTo fuel stop p
    return a :: rest

/-- Reads items until `stop` holds. -/
def many {α : Type} (stop : List TokenTree → Bool) (p : Parse α) : Parse (List α) := do
  manyUpTo ((← remaining).length + 1) stop p

/-- Reads items with an operator between them, and possibly after the last, until `stop` holds.
Each item comes with whether an operator follows it. -/
def separatedUpTo {α : Type} (fuel : Nat) (op : String) (stop : List TokenTree → Bool)
    (p : Parse α) : Parse (List α) := do
  if stop (← remaining) then return []
  match fuel with
  | 0 => fail
  | fuel + 1 =>
    let a ← p
    if stop (← remaining) then return [a]
    operator op
    let rest ← separatedUpTo fuel op stop p
    return a :: rest

def separated {α : Type} (op : String) (stop : List TokenTree → Bool) (p : Parse α) :
    Parse (List α) := do
  separatedUpTo ((← remaining).length + 1) op stop p

/-- Items between commas up to the end of a group. -/
def commaList {α : Type} (p : Parse α) : Parse (List α) := separated "," List.isEmpty p

/-- Reads items as long as an operator follows. An item may be missing after an operator if
`stop` holds there. -/
def joinedUpTo {α : Type} (fuel : Nat) (op : String) (stop : List TokenTree → Bool)
    (p : Parse α) : Parse (List α) := do
  if stop (← remaining) then return []
  match fuel with
  | 0 => fail
  | fuel + 1 =>
    let a ← p
    if ← operator? op then
      let rest ← joinedUpTo fuel op stop p
      return a :: rest
    else return [a]

def joined {α : Type} (op : String) (stop : List TokenTree → Bool) (p : Parse α) :
    Parse (List α) := do
  joinedUpTo ((← remaining).length + 1) op stop p

end RpcStubs.Idl
