import RpcStubs.Idl.Grammar.Basic

/-!
# Paths, generic arguments, bounds and generic parameters
-/

namespace RpcStubs.Idl

/-- The last segment of a path gets parenthesized arguments. -/
def PathSyntax.parenthesizeLast (p : PathSyntax) : PathSyntax :=
  match p.segments.getLast? with
  | some last => .mk p.absolute (p.segments.dropLast ++ [.mk last.name .parenthesized])
  | none => p

def PathSyntax.lastIsPlain (p : PathSyntax) : Bool :=
  match p.segments.getLast? with
  | some last => last.isPlain
  | none => false

/-! ## Generic arguments as they are printed -/

/-- An argument as it is printed, and whether a comma follows it. -/
structure ArgPiece where
  arg : ArgSyntax
  trees : List TokenTree
  comma : Bool

namespace ArgPiece

def isLifetime (p : ArgPiece) : Bool :=
  match p.arg with
  | .lifetime => true
  | _ => false

def print (p : ArgPiece) : List TokenTree :=
  if p.comma then p.trees ++ [.punct ',' false] else p.trees

/-- Arguments one after the other, with a comma where one is missing. -/
def printSeparated (separated : Bool) : List ArgPiece → List TokenTree
  | [] => []
  | p :: ps =>
    (if separated then [] else [.punct ',' false]) ++ p.print ++ printSeparated p.comma ps

/-- Lifetimes are printed before all other arguments. -/
def printAll (pieces : List ArgPiece) : List TokenTree :=
  let lifetimes := pieces.filter isLifetime
  let others := pieces.filter (!isLifetime ·)
  let separated :=
    match lifetimes.getLast? with
    | some p => p.comma
    | none => true
  lifetimes.flatMap print ++ printSeparated separated others

end ArgPiece

/-! ## Bounds -/

inductive BoundForm where
  | lifetime
  | trait (path : PathSyntax)
  /-- A list of captured parameters. -/
  | capture
  /-- A bound that is kept as it is written. -/
  | verbatim

namespace BoundForm

def path? : BoundForm → Option PathSyntax
  | trait path => some path
  | _ => none

def isTrait : BoundForm → Bool
  | trait _ => true
  | _ => false

def isVerbatim : BoundForm → Bool
  | verbatim => true
  | _ => false

end BoundForm

/-- May another bound follow a plus? -/
def startsBound (ts : List TokenTree) : Bool :=
  (nextWord? ts).isSome || nextIs "::" ts || nextIs "?" ts || nextIsLifetime ts ||
    nextIsGroup .paren ts

/-- A parameter that an opaque type captures. -/
def capturedParam : Parse Unit := do
  let ts ← remaining
  if nextIsLifetime ts then lifetime
  else if nextIsIdent ts || nextIsWord "Self" ts then
    let _ ← anyWord
  else fail

def captureList : Parse Unit := do
  word "use"
  operator "<"
  let _ ← separated "," (nextIs ">") capturedParam
  operator ">"

namespace Grammar

/-- The arguments of a function trait: types between parentheses and an optional result. -/
def functionInputs (g : Grammar) : Parse Unit := do
  let _ ← group .paren (commaList (g.type true))
  if ← operator? "->" then
    let _ ← g.type false

/-- The mark of a constant bound. Is there one? -/
def constMark (allowConst : Bool) : Parse Bool := do
  let ts ← remaining
  let isConst := nextIsGroup .bracket ts || nextIsWord "const" ts
  if isConst && !allowConst then fail
  if nextIsGroup .bracket ts then
    group .bracket (word "const")
  else if nextIsWord "const" ts then
    word "const"
  return isConst

/-- The path of a trait, with the arguments of a function trait. -/
def traitPath (g : Grammar) : Parse PathSyntax := do
  let path ← g.path false
  let ts ← remaining
  if path.lastIsPlain &&
      (nextIsGroup .paren ts || nextIs "::" ts && nextIsGroup .paren (ts.drop 2)) then
    let _ ← operator? "::"
    g.functionInputs
    return path.parenthesizeLast
  else return path

/-- A trait, and whether its bound is constant. -/
def traitBound (g : Grammar) (allowConst : Bool) : Parse (Bool × PathSyntax) := do
  let (bound, binder) ← aside (optional (nextIsWord "for") g.binder)
  let isConst ← constMark allowConst
  let maybe ← operator? "?"
  keep binder
  let _ ← optional (fun ts => maybe && bound.isNone && nextIsWord "for" ts) g.binder
  let path ← g.traitPath
  return (isConst, path)

def bound (g : Grammar) (allowCapture allowConst : Bool) : Parse BoundForm := do
  let ts ← remaining
  if nextIsLifetime ts then
    lifetime
    return .lifetime
  else if nextIsWord "use" ts then
    captureList
    if allowCapture then return .capture else fail
  else
    let read :=
      if nextIsGroup .paren ts then group .paren (g.traitBound allowConst)
      else g.traitBound allowConst
    match ← ahead read with
    | some (true, _) =>
      let _ ← verbatim read
      return .verbatim
    | _ =>
      let (_, path) ← read
      return .trait path

/-- Bounds joined by a plus, which may also end them. -/
def boundsUpTo (g : Grammar) (plus allowCapture allowConst : Bool) : Nat → Parse (List BoundForm)
  | 0 => fail
  | fuel + 1 => do
    let first ← g.bound allowCapture allowConst
    if plus && nextIs "+" (← remaining) then
      operator "+"
      let ts ← remaining
      if startsBound ts || allowConst && nextIsGroup .bracket ts then
        let rest ← g.boundsUpTo plus allowCapture allowConst fuel
        return first :: rest
      else return [first]
    else return [first]

def bounds (g : Grammar) (plus allowCapture allowConst : Bool) : Parse (List BoundForm) := do
  g.boundsUpTo plus allowCapture allowConst ((← remaining).length + 1)

/-- Bounds after a colon, up to where `stop` holds. -/
def boundsUntil (g : Grammar) (stop : List TokenTree → Bool) : Parse Unit := do
  let _ ← joined "+" stop (g.bound false true)

/-! ## Paths -/

/-- A constant as a generic argument. -/
def constArgument (g : Grammar) : Parse Unit := do
  let ts ← remaining
  if nextIsLiteral ts then literal
  else if nextIsIdent ts then
    let _ ← ident
  else
    let _ ← g.body

def genericArgument (g : Grammar) : Parse ArgSyntax := do
  let ts ← remaining
  if nextIsLifetime ts && !nextIs "+" (skipTree ts) then
    lifetime
    return .lifetime
  else if nextIsLiteral ts || nextIsGroup .brace ts then
    g.constArgument
    return .other
  else
    let type ← g.type true
    match type with
    | .path (.mk false [.mk name _]) _ =>
      let ts ← remaining
      if nextIs "=" ts then
        operator "="
        let ts ← remaining
        if nextIsLiteral ts || nextIsGroup .brace ts then
          g.constArgument
          return .other
        else
          let value ← g.type true
          return .assoc name value
      else if nextIs ":" ts then
        operator ":"
        g.boundsUntil (nextIsAny [",", ">"])
        return .other
      else return .type type
    | _ => return .type type

def argPieces (g : Grammar) : Nat → Parse (List ArgPiece)
  | 0 => fail
  | fuel + 1 => do
    if nextIs ">" (← remaining) then return []
    let (arg, trees) ← aside g.genericArgument
    if nextIs ">" (← remaining) then return [⟨arg, trees, false⟩]
    let _ ← aside (operator ",")
    let rest ← g.argPieces fuel
    return ⟨arg, trees, true⟩ :: rest

/-- Arguments between angle brackets. -/
def angledArgs (g : Grammar) : Parse (List ArgSyntax) := do
  let _ ← operator? "::"
  operator "<"
  let pieces ← g.argPieces ((← remaining).length + 1)
  keep (ArgPiece.printAll pieces)
  operator ">"
  return pieces.map ArgPiece.arg

def startsArgs (exprStyle : Bool) (ts : List TokenTree) : Bool :=
  !exprStyle && nextIs "<" ts && !nextIs "<=" ts && !nextIs "<<=" ts ||
    nextIs "::" ts && nextIs "<" (ts.drop 2)

def segmentArgs (g : Grammar) (exprStyle : Bool) : Parse SegmentArgs := do
  if startsArgs exprStyle (← remaining) then
    let args ← g.angledArgs
    return .angled args
  else return .none

def segment (g : Grammar) (exprStyle : Bool) : Parse SegmentSyntax := do
  let ts ← remaining
  if nextIsAnyWord ["super", "self", "crate", "try"] ts then
    let name ← anyWord
    return .mk name .none
  else if nextIsIdent ts || nextIsWord "Self" ts then
    let name ← anyWord
    let args ← g.segmentArgs exprStyle
    return .mk name args
  else fail

/-- The segments after the first, as long as two colons and no parenthesis follow. -/
def moreSegments (g : Grammar) (exprStyle : Bool) : Nat → Parse (List SegmentSyntax)
  | 0 => return []
  | fuel + 1 => do
    let ts ← remaining
    if nextIs "::" ts && !nextIsGroup .paren (ts.drop 2) then
      operator "::"
      let first ← g.segment exprStyle
      let rest ← g.moreSegments exprStyle fuel
      return first :: rest
    else return []

/-- A path whose arguments may follow each segment. -/
def genericPath (g : Grammar) (exprStyle : Bool) : Parse PathSyntax := do
  let absolute ← operator? "::"
  let first ← g.segment exprStyle
  let rest ← g.moreSegments exprStyle (← remaining).length
  return .mk absolute (first :: rest)

/-- Segments joined by two colons. -/
def qualifiedSegments (g : Grammar) (exprStyle : Bool) : Nat → Parse Unit
  | 0 => fail
  | fuel + 1 => do
    let _ ← g.segment exprStyle
    if ← operator? "::" then g.qualifiedSegments exprStyle fuel

/-- A path, or none if it begins with a type between angle brackets. -/
def qualifiedPath (g : Grammar) (exprStyle : Bool) : Parse (Option PathSyntax) := do
  if ← operator? "<" then
    let _ ← g.type true
    if ← word? "as" then
      let _ ← g.path false
    operator ">"
    operator "::"
    g.qualifiedSegments exprStyle (← remaining).length
    return none
  else
    let path ← g.path exprStyle
    return some path

/-! ## Generic parameters -/

def genericParam (g : Grammar) : Parse Unit := do
  let _ ← g.outerAttributes
  let ts ← remaining
  if nextIsLifetime ts then
    lifetime
    if ← operator? ":" then
      let _ ← joined "+" (fun ts => ts.isEmpty || nextIsAny [",", ">"] ts) lifetime
  else if nextIsIdent ts then
    let _ ← ident
    if ← operator? ":" then
      g.boundsUntil (fun ts => ts.isEmpty || nextIsAny [",", ">", "="] ts)
    if ← operator? "=" then
      let _ ← g.type true
  else if nextIsWord "const" ts then
    word "const"
    let _ ← ident
    operator ":"
    let _ ← g.type true
    if ← operator? "=" then
      g.constArgument
  else word "_"

/-- Parameters between angle brackets, or nothing. -/
def generics (g : Grammar) : Parse Unit := do
  if ← operator? "<" then
    let _ ← separated "," (nextIs ">") g.genericParam
    operator ">"

def lifetimeBinder (g : Grammar) : Parse Unit := do
  word "for"
  operator "<"
  let _ ← separated "," (nextIs ">") g.genericParam
  operator ">"

/-- Do generic parameters follow, rather than a type between angle brackets? -/
def startsGenerics (ts : List TokenTree) : Bool :=
  let inner := ts.drop 1
  let next := skipTree inner
  nextIs "<" ts &&
    (nextIs ">" inner || nextIs "#" inner ||
      (nextIsLifetime inner || nextIsIdent inner) &&
        (nextIs ":" next && !nextIs "::" next || nextIsAny [",", ">", "="] next) ||
      nextIsWord "const" inner)

/-- Where a list of predicates ends. -/
def endsPredicates (ts : List TokenTree) : Bool :=
  ts.isEmpty || nextIsGroup .brace ts || nextIsAny [",", ";", "="] ts ||
    nextIs ":" ts && !nextIs "::" ts

def wherePredicate (g : Grammar) : Parse Unit := do
  let ts ← remaining
  if nextIsLifetime ts && nextIs ":" (skipTree ts) then
    lifetime
    operator ":"
    let _ ← joined "+"
      (fun ts => endsPredicates ts || nextIs ":" ts) lifetime
  else
    let _ ← optional (nextIsWord "for") g.binder
    let _ ← g.type true
    operator ":"
    g.boundsUntil endsPredicates

/-- A where clause, or nothing. -/
def whereClause (g : Grammar) : Parse Unit := do
  if ← word? "where" then
    if startsGenerics (← remaining) then fail
    let _ ← joined "," endsPredicates g.wherePredicate

end Grammar

end RpcStubs.Idl
