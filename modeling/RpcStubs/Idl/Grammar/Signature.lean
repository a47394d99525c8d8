import RpcStubs.Idl.Grammar.Pattern
import RpcStubs.Idl.Grammar.Type

/-!
# Function signatures
-/

namespace RpcStubs.Idl

namespace Grammar

/-- Does a signature follow? May a function be marked as safe? -/
def startsSignature (allowSafe : Bool) (ts : List TokenTree) : Bool :=
  let skip := fun (w : String) (ts : List TokenTree) => if nextIsWord w ts then ts.drop 1 else ts
  let ts := skip "async" (skip "const" ts)
  let ts := if allowSafe then skip "safe" ts else ts
  let ts := skip "unsafe" ts
  let ts :=
    if nextIsWord "extern" ts then
      if nextIsString (ts.drop 1) then ts.drop 2 else ts.drop 1
    else ts
  nextIsWord "fn" ts

/-- The object that a method belongs to. -/
def receiver (g : Grammar) : Parse Unit := do
  let byRef ← operator? "&"
  if byRef then
    let _ ← lifetime?
  let _ ← word? "mut"
  word "self"
  if !byRef then
    if ← operator? ":" then
      let _ ← g.type true

/-- An argument of a signature. -/
inductive ArgForm where
  | receiver
  | param (param : ParamSyntax)
  | variadic

/-- An argument. One that looks like a generic type alone has no name. -/
def argForm (g : Grammar) : Parse ArgForm := do
  match ← ahead g.receiver with
  | some _ =>
    g.receiver
    return .receiver
  | none =>
    let ts ← remaining
    if nextIsIdent ts && nextIs "<" (ts.drop 1) then
      let type ← g.type true
      return .param ⟨.other [.ident "_"], type⟩
    else
      let (form, trees) ← captured g.pattern
      let pattern : PatternSyntax :=
        match form with
        | .name name => .name name
        | _ => .other trees
      operator ":"
      if ← operator? "..." then return .variadic
      let type ← g.type true
      return .param ⟨pattern, type⟩

/-- An argument, or the dots that stand for more of them. -/
def argOrDots (g : Grammar) : Parse ArgForm := do
  if ← operator? "..." then return .variadic else g.argForm

/-- The parameters of a signature without its receiver, which comes first if there is one. -/
def argForms (g : Grammar) (first : Bool) : Nat → Parse (List ParamSyntax)
  | 0 => fail
  | fuel + 1 => do
    if ← atEnd then return []
    let _ ← g.outerAttributes
    match ← g.argOrDots with
    | .variadic =>
      let _ ← operator? ","
      return []
    | .receiver =>
      if !first then fail
      if ← atEnd then return []
      operator ","
      g.argForms false fuel
    | .param param =>
      if ← atEnd then return [param]
      operator ","
      let rest ← g.argForms false fuel
      return param :: rest

/-- The words in front of the name of a function. Is it asynchronous? -/
def functionMarks (allowSafe : Bool) : Parse Bool := do
  let _ ← word? "const"
  let isAsync ← word? "async"
  if allowSafe then
    let _ ← word? "safe"
  let _ ← word? "unsafe"
  convention
  word "fn"
  return isAsync

def signature (g : Grammar) (allowSafe : Bool) : Parse SignatureSyntax := do
  let isAsync ← functionMarks allowSafe
  let name ← ident
  g.generics
  let params ← group .paren (do g.argForms true ((← remaining).length + 1))
  let output ← g.result true
  g.whereClause
  return ⟨name, isAsync, params, output⟩

end Grammar

end RpcStubs.Idl
