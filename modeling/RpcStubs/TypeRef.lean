import RpcStubs.Text.Segments
import RpcStubs.Text.Words

/-!
# Type references

A type as a declaration names it: a path, possibly qualified, and its generic arguments in
order.
-/

namespace RpcStubs

structure TypeRef where
  name : String
  args : List TypeRef
  deriving Repr

namespace TypeRef

instance : Inhabited TypeRef := ⟨⟨"", []⟩⟩

mutual

def decEq : (a b : TypeRef) → Decidable (a = b)
  | ⟨m, as⟩, ⟨n, bs⟩ =>
    if hn : m = n then
      match decEqArgs as bs with
      | isTrue h => isTrue (by rw [hn, h])
      | isFalse h => isFalse (fun e => h (congrArg TypeRef.args e))
    else isFalse (fun e => hn (congrArg TypeRef.name e))

def decEqArgs : (as bs : List TypeRef) → Decidable (as = bs)
  | [], [] => isTrue rfl
  | [], _ :: _ => isFalse (by simp)
  | _ :: _, [] => isFalse (by simp)
  | a :: as, b :: bs =>
    match decEq a b, decEqArgs as bs with
    | isTrue h, isTrue hs => isTrue (by rw [h, hs])
    | isFalse h, _ => isFalse (fun e => h (List.cons.inj e).1)
    | _, isFalse hs => isFalse (fun e => hs (List.cons.inj e).2)

end

instance : DecidableEq TypeRef := decEq

def named (name : String) : TypeRef := ⟨name, []⟩

/-- Base name of the asynchronous stream type. -/
def streamName : String := "Stream"

/-- Stands for absent requests and responses. -/
def unit : TypeRef := named "()"

def streamOf (element : TypeRef) : TypeRef := ⟨streamName, [element]⟩

def isUnit (t : TypeRef) : Bool := t.name == "()" && t.args.isEmpty

/-- Last segment of the path. -/
def baseName (t : TypeRef) : String := String.ofList (Text.baseSegment t.name.toList)

/-- The element type of a stream. A stream has exactly one argument. -/
def streamElement? (t : TypeRef) : Option TypeRef :=
  match t.args with
  | [element] => if t.baseName = streamName then some element else none
  | _ => none

/-- The path in one capitalized word, without its arguments. -/
def pathWord (name : String) : String :=
  String.join ((Text.nameSegments name).map Text.pascalCase)

mutual

/-- A name for the structure of the type: the arguments' names, then the path. So a vector of
strings is `StringVec`. -/
def canonicalName : TypeRef → String
  | ⟨name, args⟩ => canonicalArgs args ++ pathWord name

def canonicalArgs : List TypeRef → String
  | [] => ""
  | t :: ts => canonicalName t ++ canonicalArgs ts

end

mutual

/-- The type as source text. -/
def display : TypeRef → String
  | ⟨name, []⟩ => name
  | ⟨name, t :: ts⟩ => name ++ "<" ++ display t ++ displayRest ts ++ ">"

def displayRest : List TypeRef → String
  | [] => ""
  | t :: ts => ", " ++ display t ++ displayRest ts

end

mutual

/-- Order by path, then by the arguments from left to right. -/
def cmp : TypeRef → TypeRef → Ordering
  | ⟨m, as⟩, ⟨n, bs⟩ => (compare m n).then (cmpArgs as bs)

def cmpArgs : List TypeRef → List TypeRef → Ordering
  | [], [] => .eq
  | [], _ :: _ => .lt
  | _ :: _, [] => .gt
  | a :: as, b :: bs => (cmp a b).then (cmpArgs as bs)

end

/-- Of equal neighbours only the first is kept. -/
def dropRepeats : List TypeRef → List TypeRef
  | [] => []
  | [t] => [t]
  | t :: u :: ts => if t = u then dropRepeats (t :: ts) else t :: dropRepeats (u :: ts)
termination_by ts => ts.length

/-- The types of a list in increasing order, each once. -/
def sorted (types : List TypeRef) : List TypeRef :=
  dropRepeats (types.mergeSort (fun a b => (cmp a b).isLE))

end TypeRef

end RpcStubs
