/-!
# Paths

A path is a text of names between slashes. It is kept as it is written, and compared by its
components.
-/

namespace RpcStubs

structure Path where
  text : String
  deriving DecidableEq, Repr

/-- A part of a path that matters for comparison. -/
inductive Component where
  | root
  | current
  | parent
  | name (text : String)
  deriving DecidableEq, Repr

namespace Component

/-- Names come last, in the order of their texts. -/
def cmp : Component → Component → Ordering
  | root, root => .eq
  | root, _ => .lt
  | current, root => .gt
  | current, current => .eq
  | current, _ => .lt
  | parent, name _ => .lt
  | parent, parent => .eq
  | parent, _ => .gt
  | name a, name b => compare a b
  | name _, _ => .gt

end Component

namespace Path

/-- The texts between slashes, empty ones included. -/
def pieces (p : Path) : List (List Char) := p.text.toList.splitOn '/'

def isAbsolute (p : Path) : Bool := p.text.toList.head? == some '/'

/-- A piece behind the first. Empty pieces and single dots mean nothing there. -/
def laterComponent? (piece : List Char) : Option Component :=
  if piece.isEmpty || piece = ['.'] then none
  else if piece = ['.', '.'] then some .parent
  else some (.name (String.ofList piece))

/-- The first piece of a path that does not begin with a slash. -/
def firstComponent? (piece : List Char) : Option Component :=
  if piece = ['.'] then some .current else laterComponent? piece

def components (p : Path) : List Component :=
  match p.pieces with
  | [] => []
  | first :: rest =>
    let begin : List Component := if p.isAbsolute then [.root] else (firstComponent? first).toList
    begin ++ rest.filterMap laterComponent?

/-- Paths with the same components are the same place. -/
def SamePlace (p q : Path) : Prop := p.components = q.components

instance (p q : Path) : Decidable (SamePlace p q) :=
  inferInstanceAs (Decidable (p.components = q.components))

/-- Order of lists of components, the shorter first. -/
def cmpComponents : List Component → List Component → Ordering
  | [], [] => .eq
  | [], _ :: _ => .lt
  | _ :: _, [] => .gt
  | a :: as, b :: bs => (a.cmp b).then (cmpComponents as bs)

def cmp (p q : Path) : Ordering := cmpComponents p.components q.components

/-- A path below another. An absolute one replaces it. Nothing but a slash is put between them,
and none after a slash or an empty path. -/
def join (p : Path) (child : String) : Path :=
  if child.toList.head? = some '/' then ⟨child⟩
  else if p.text.isEmpty || p.text.toList.getLast? = some '/' then ⟨p.text ++ child⟩
  else ⟨p.text ++ "/" ++ child⟩

/-- The last name. A path that ends with two dots or is a root has none. -/
def fileName? (p : Path) : Option String :=
  match p.components.getLast? with
  | some (.name text) => some text
  | _ => none

/-- The parts of a name before and after its last dot. A name that has no other dot than a first
one has no second part. -/
def splitName (name : String) : String × Option String :=
  let reversed := name.toList.reverse
  let after := reversed.takeWhile (· != '.')
  match reversed.drop after.length with
  | [] => (name, none)
  | [_] => (name, none)
  | _ :: before => (String.ofList before.reverse, some (String.ofList after.reverse))

def stem? (p : Path) : Option String := p.fileName?.map (fun name => (splitName name).1)

def extension? (p : Path) : Option String := p.fileName?.bind (fun name => (splitName name).2)

/-- A reversed text without the slashes and single dots that it begins with. A lone slash is
kept. -/
def dropSlashes : List Char → List Char
  | ['/'] => ['/']
  | '/' :: rest => dropSlashes rest
  | '.' :: '/' :: rest => dropSlashes ('/' :: rest)
  | cs => cs
termination_by cs => cs.length

/-- The path without its last component. A root and an empty path have none. -/
def parent? (p : Path) : Option Path :=
  match p.components.getLast? with
  | none => none
  | some .root => none
  | some _ =>
    let shown := dropSlashes p.text.toList.reverse
    some ⟨String.ofList (dropSlashes (shown.dropWhile (· != '/'))).reverse⟩

end Path

end RpcStubs
