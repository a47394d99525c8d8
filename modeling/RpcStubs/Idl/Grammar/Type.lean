import RpcStubs.Idl.Grammar.Path

/-!
# Types
-/

namespace RpcStubs.Idl

namespace Grammar

/-- A type by its trees, once they are known. -/
abbrev TypeForm := List TokenTree → TypeSyntax

/-- The bounds of a trait object, one of which is a trait. -/
def objectBounds (g : Grammar) (plus : Bool) : Parse Unit := do
  let bounds ← g.bounds plus false true
  if bounds.any (·.isTrait) then return else fail

def result (g : Grammar) (plus : Bool) : Parse (Option TypeSyntax) := do
  if ← operator? "->" then
    let type ← g.type plus
    return some type
  else return none

/-- The name of a calling convention, or nothing. -/
def convention : Parse Unit := do
  if ← word? "extern" then
    if nextIsString (← remaining) then
      let _ ← stringLiteral

/-! ## Function pointers -/

/-- A parameter of a function pointer, with or without a name. -/
def pointerParam (g : Grammar) (first : Bool) : Parse Unit := do
  let isMutSelf := fun (ts : List TokenTree) =>
    first && nextIsWord "mut" ts && nextIsWord "self" (ts.drop 1)
  let mutable := isMutSelf (← remaining)
  if mutable then word "mut"
  let ts ← remaining
  let next := ts.drop 1
  let named := (nextIsIdent ts || nextIsWord "_" ts || first && nextIsWord "self" ts) &&
    nextIs ":" next && !nextIs "::" next
  let isSelf := named && nextIsWord "self" ts
  if named then
    let _ ← anyWord
    operator ":"
  if !isSelf && isMutSelf (← remaining) then
    word "mut"
    word "self"
  else if mutable && !named then word "self"
  else
    let _ ← g.type true

def isVariadic (ts : List TokenTree) : Bool :=
  nextIs "..." ts ||
    (nextIsIdent ts || nextIsWord "_" ts) && nextIs ":" (ts.drop 1) && nextIs "..." (ts.drop 2)

def pointerParams (g : Grammar) (first : Bool) : Nat → Parse Unit
  | 0 => fail
  | fuel + 1 => do
    if ← atEnd then return
    let _ ← g.outerAttributes
    if isVariadic (← remaining) then
      if !nextIs "..." (← remaining) then
        let _ ← anyWord
        operator ":"
      operator "..."
      let _ ← operator? ","
    else
      g.pointerParam first
      if ← atEnd then return
      operator ","
      g.pointerParams false fuel

def functionPointer (g : Grammar) : Parse Unit := do
  let _ ← word? "unsafe"
  convention
  word "fn"
  group .paren (do g.pointerParams true ((← remaining).length + 1))
  let _ ← g.result false

/-! ## Parentheses -/

/-- Further bounds after a plus. -/
def moreBounds (g : Grammar) : Nat → Parse Unit
  | 0 => return
  | fuel + 1 => do
    if ← operator? "+" then
      let _ ← g.bound false true
      g.moreBounds fuel

/-- What parentheses around something of a type stand for. -/
inductive ParenForm where
  | unit
  | tuple
  | object
  | nested (type : TypeSyntax)

/-- The inside of parentheses that do not begin with a question mark. -/
def parenBody (g : Grammar) : Parse ParenForm := do
  let ts ← remaining
  if ts.isEmpty then return .unit
  else if nextIsLifetime ts then
    let (_, trees) ← captured (g.objectBounds true)
    return .nested (.other trees)
  else if nextIs "?" ts then
    let _ ← g.traitBound true
    return .object
  else
    let first ← g.type true
    if ← operator? "," then
      let _ ← commaList (g.type true)
      return .tuple
    else return .nested first

def parenType (g : Grammar) (plus : Bool) : Parse TypeForm := do
  match ← group .paren g.parenBody with
  | .unit => return .unit
  | .tuple => return .other
  | .object =>
    g.moreBounds (← remaining).length
    return .other
  | .nested type =>
    match type with
    | .path .. =>
      if plus && nextIs "+" (← remaining) then
        g.moreBounds (← remaining).length
        return .other
      else return .paren type
    | _ => return .paren type

/-! ## All types -/

/-- Bounds that follow the path of a bare trait object. -/
def bareBounds (g : Grammar) (plus : Bool) : Nat → Parse Unit
  | 0 => return
  | fuel + 1 => do
    if plus && nextIs "+" (← remaining) then
      operator "+"
      if startsBound (← remaining) then
        let _ ← g.bound false true
        g.bareBounds plus fuel

def startsPath (ts : List TokenTree) : Bool :=
  nextIsIdent ts || nextIsAnyWord ["super", "self", "Self", "crate"] ts

/-- A type that begins with a path. -/
def pathType (g : Grammar) (plus bound : Bool) : Parse TypeForm := do
  match ← g.qualifiedPath false with
  | none => return .other
  | some path =>
    let ts ← remaining
    if nextIs "!" ts && !nextIs "!=" ts && path.isPlain then
      operator "!"
      let _ ← anyGroup
      return .other
    else if bound || plus && nextIs "+" ts then
      g.bareBounds plus ts.length
      return .other
    else return .path path

def opaqueType (g : Grammar) (plus : Bool) : Parse TypeForm := do
  word "impl"
  let bounds ← g.bounds plus true true
  if bounds.any (fun b => b.isTrait || b.isVerbatim) then
    return .bounded (bounds.filterMap BoundForm.path?)
  else fail

/-- A binder in front of a path or a function pointer. Is there one? -/
def typeBinder (g : Grammar) : Parse Bool := do
  if nextIsWord "for" (← remaining) then
    g.binder
    let ts ← remaining
    if startsPath ts || nextIsAnyWord ["fn", "unsafe", "extern"] ts then return true else fail
  else return false

def typeForm (g : Grammar) (plus : Bool) : Parse TypeForm := do
  let bound ← g.typeBinder
  let ts ← remaining
  if nextIsGroup .paren ts then g.parenType plus
  else if nextIsAnyWord ["fn", "unsafe", "extern"] ts then
    g.functionPointer
    return .other
  else if startsPath ts || nextIs "::" ts || nextIs "<" ts then g.pathType plus bound
  else if nextIsWord "dyn" ts then
    word "dyn"
    let _ ← operator? "*"
    g.objectBounds plus
    return .other
  else if nextIsGroup .bracket ts then
    group .bracket (do
      let _ ← g.type true
      if ← operator? ";" then
        let _ ← g.expr true)
    return .other
  else if nextIs "*" ts then
    operator "*"
    let isConst ← word? "const"
    if !isConst then word "mut"
    let _ ← g.type false
    return .other
  else if nextIs "&" ts then
    operator "&"
    let _ ← lifetime?
    let _ ← word? "mut"
    let _ ← g.type false
    return .other
  else if nextIs "!" ts then
    operator "!"
    return .other
  else if nextIsWord "impl" ts then g.opaqueType plus
  else if nextIsWord "_" ts then
    word "_"
    return .other
  else if nextIsLifetime ts then
    g.objectBounds true
    return .other
  else fail

def typeSyntax (g : Grammar) (plus : Bool) : Parse TypeSyntax := do
  let (form, trees) ← captured (g.typeForm plus)
  return form trees

end Grammar

end RpcStubs.Idl
