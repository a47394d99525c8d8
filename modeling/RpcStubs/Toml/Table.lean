import RpcStubs.Json.Value

/-!
# Tables of a configuration text

A table may be opened by a header, by a dotted key, or because a header names a table inside of
it. It depends on this whether it may be opened again.
-/

namespace RpcStubs.Toml

open Json (Value)

mutual

/-- A table that was not opened by a header of its own is implicit. Dotted keys open dotted
tables. -/
inductive Table where
  | mk (implicit dotted : Bool) (items : List (String × Item))

inductive Item where
  | value (v : Value)
  | table (t : Table)
  /-- Tables with the same header, the latest first. -/
  | tables (ts : List Table)

end

namespace Table

def implicit : Table → Bool
  | mk implicit _ _ => implicit

def dotted : Table → Bool
  | mk _ dotted _ => dotted

def items : Table → List (String × Item)
  | mk _ _ items => items

def empty : Table := mk false false []

/-- The same table with a header of its own. -/
def withHeader : Table → Table
  | mk _ dotted items => mk false dotted items

def get? (t : Table) (name : String) : Option Item :=
  (t.items.find? (·.1 == name)).map (·.2)

/-- The items with one of them replaced, or added at the end. -/
def setItem (name : String) (item : Item) : List (String × Item) → List (String × Item)
  | [] => [(name, item)]
  | (other, old) :: items =>
    if other = name then (name, item) :: items else (other, old) :: setItem name item items

def set (t : Table) (name : String) (item : Item) : Table :=
  mk t.implicit t.dotted (setItem name item t.items)

def remove (t : Table) (name : String) : Table :=
  mk t.implicit t.dotted (t.items.filter (·.1 != name))

/-- Changes the table at the end of a way through tables, and gives what the change gives.
Missing tables are opened on the way. A dotted key does not lead through a table that has a
header. -/
def change {α : Type} (dotted : Bool) (f : Table → Option (α × Table)) :
    List String → Table → Option (α × Table)
  | [], t => f t
  | name :: names, t =>
    match t.get? name with
    | none =>
      (change dotted f names (mk true dotted [])).map (fun (a, c) => (a, t.set name (.table c)))
    | some (.value _) => none
    | some (.tables []) => none
    | some (.tables (last :: earlier)) =>
      (change dotted f names last).map (fun (a, c) => (a, t.set name (.tables (c :: earlier))))
    | some (.table child) =>
      if dotted && !child.implicit then none
      else (change dotted f names child).map (fun (a, c) => (a, t.set name (.table c)))

/-- Adds a value under a key that is not there yet. -/
def add (name : String) (v : Value) (t : Table) : Option Table :=
  match t.get? name with
  | some _ => none
  | none => some (t.set name (.value v))

/-- Adds a value under a key that may be dotted. A dotted key adds to a dotted table. -/
def insert (path : List String) (name : String) (v : Value) (t : Table) : Option Table :=
  let added := t.change true
    (fun t => if t.dotted = path.isEmpty then none else (t.add name v).map (Unit.unit, ·)) path
  added.map (·.2)

mutual

def toValue : Table → Value
  | mk _ _ items => .object (itemValues items)

def itemValues : List (String × Item) → List (String × Value)
  | [] => []
  | (name, item) :: items => (name, itemValue item) :: itemValues items

def itemValue : Item → Value
  | .value v => v
  | .table t => t.toValue
  | .tables ts => .array (tableValues ts).reverse

def tableValues : List Table → List Value
  | [] => []
  | t :: ts => t.toValue :: tableValues ts

end

end Table

/-! ## The table of the last header -/

/-- All tables, and the one that is being filled. -/
structure Draft where
  root : Table
  current : Table
  /-- Where the current table belongs, and whether it is one of several. -/
  path : List String
  several : Bool

namespace Draft

def empty : Draft := ⟨.empty, .empty, [], false⟩

/-- The table with the current one in its place. -/
def place (d : Draft) (name : String) (t : Table) : Option Table :=
  match t.get? name with
  | none => some (t.set name (if d.several then .tables [d.current] else .table d.current))
  | some (.tables ts) =>
    if d.several then some (t.set name (.tables (d.current :: ts))) else none
  | some (.table old) =>
    if !d.several && old.implicit then some (t.set name (.table d.current)) else none
  | some (.value _) => none

/-- All tables once the current one is in its place. -/
def finish (d : Draft) : Option Table :=
  match d.path.getLast? with
  | none => some d.current
  | some name =>
    let placed := d.root.change false
      (fun t => (d.place name t).map (Unit.unit, ·)) d.path.dropLast
    placed.map (·.2)

/-- The table of a header in the table around it, which is left without it. One that is implicit
and not dotted is filled further. -/
def takeTable (name : String) (t : Table) : Option (Table × Table) :=
  match t.get? name with
  | none => some (.empty, t)
  | some (.table old) =>
    if old.implicit && !old.dotted then some (old.withHeader, t.remove name) else none
  | some _ => none

def openTable (path : List String) (name : String) (d : Draft) : Option Draft := do
  let root ← d.finish
  let (table, root) ← root.change false (takeTable name) path
  return ⟨root, table, path ++ [name], false⟩

/-- Are there other tables with the same header, or nothing? -/
def admitsElement (name : String) (t : Table) : Bool :=
  match t.get? name with
  | none => true
  | some (.tables _) => true
  | some _ => false

/-- Opens another table of a header with double brackets. -/
def openElement (path : List String) (name : String) (d : Draft) : Option Draft := do
  let root ← d.finish
  let (_, root) ← root.change false
    (fun t => if admitsElement name t then some (Unit.unit, t) else none) path
  return ⟨root, .empty, path ++ [name], true⟩

def insert (path : List String) (name : String) (v : Value) (d : Draft) : Option Draft := do
  let table ← d.current.insert path name v
  return { d with current := table }

end Draft

end RpcStubs.Toml
