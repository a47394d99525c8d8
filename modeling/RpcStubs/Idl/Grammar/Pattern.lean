import RpcStubs.Idl.Grammar.Path

/-!
# Patterns
-/

namespace RpcStubs.Idl

namespace Grammar

/-! ## Ranges -/

/-- The dots of a range. Three dots are read as an inclusive range. -/
def rangeLimits : Parse Unit := do
  let ts ← remaining
  if nextIs "..=" ts then operator "..="
  else if nextIs "..." ts then replaceTrees 3 (operatorTrees "..=".toList)
  else operator ".."

/-- The dots of a range that may have no end. -/
def isHalfOpen (ts : List TokenTree) : Bool :=
  nextIs ".." ts && !nextIs "..=" ts && !nextIs "..." ts

/-- A literal, a path or a block, as an end of a range. -/
def rangeBound (g : Grammar) : Parse Unit := do
  let ts ← remaining
  if nextIsLiteral ts then literal
  else if nextIsWord "const" ts then
    word "const"
    let _ ← g.body
  else if nextIsIdent ts || nextIs "::" ts || nextIs "<" ts ||
      nextIsAnyWord ["self", "Self", "super", "crate"] ts then
    let _ ← g.qualifiedPath true
  else fail

/-- Does a range end here without a bound? -/
def endsRange (ts : List TokenTree) : Bool :=
  ts.isEmpty || nextIsAny ["|", "=", ",", ";"] ts || nextIs ":" ts && !nextIs "::" ts ||
    nextIsWord "if" ts

/-- The dots of a range and what follows them. Is there an end? -/
def rangeTail (g : Grammar) : Parse Bool := do
  let halfOpen := isHalfOpen (← remaining)
  rangeLimits
  if endsRange (← remaining) then
    if halfOpen then return false else fail
  else
    g.rangeBound
    return true

/-- A range if dots follow its beginning. -/
def rangeAfter (g : Grammar) : Parse PatternForm := do
  if nextIs ".." (← remaining) then
    if ← g.rangeTail then return .other else return .openRange
  else return .other

/-! ## Records, tuples and names -/

/-- The name or number of a field. Is it a name? -/
def member : Parse Bool := do
  if nextIsIdent (← remaining) then
    let _ ← ident
    return true
  else
    index
    return false

/-- A field of a record pattern. -/
def fieldPattern (g : Grammar) : Parse Unit := do
  let boxed ← word? "box"
  let byRef ← word? "ref"
  let isMut ← word? "mut"
  if boxed || byRef || isMut then
    let _ ← ident
  else
    let named ← member
    if !named || nextIs ":" (← remaining) then
      operator ":"
      let _ ← g.patterns

def fieldPatterns (g : Grammar) : Nat → Parse Unit
  | 0 => fail
  | fuel + 1 => do
    if ← atEnd then return
    let _ ← g.outerAttributes
    if ← operator? ".." then
      return
    g.fieldPattern
    if ← atEnd then return
    operator ","
    g.fieldPatterns fuel

/-- A pattern that begins with a path. -/
def pathPattern (g : Grammar) : Parse PatternForm := do
  let path ← g.qualifiedPath true
  let ts ← remaining
  let plain :=
    match path with
    | some path => path.isPlain
    | none => false
  if plain && nextIs "!" ts && !nextIs "!=" ts then
    operator "!"
    let _ ← anyGroup
    return .other
  else if nextIsGroup .brace ts then
    group .brace (do g.fieldPatterns ((← remaining).length + 1))
    return .other
  else if nextIsGroup .paren ts then
    let _ ← group .paren (commaList g.patterns)
    return .other
  else g.rangeAfter

/-- A name, with what modifies it and possibly a pattern for the same value. -/
def namePattern (g : Grammar) : Parse PatternForm := do
  let _ ← word? "ref"
  let _ ← word? "mut"
  let name ← if nextIsWord "self" (← remaining) then anyWord else ident
  if ← operator? "@" then
    let _ ← g.pattern
  return .name name

def startsPathPattern (ts : List TokenTree) : Bool :=
  let next := ts.drop 1
  nextIsIdent ts &&
      (nextIs "::" next || nextIs "!" next || nextIsGroup .brace next ||
        nextIsGroup .paren next || nextIs ".." next) ||
    nextIsWord "self" ts && nextIs "::" next || nextIs "::" ts || nextIs "<" ts ||
    nextIsAnyWord ["Self", "super", "crate"] ts

/-- A pattern without alternatives. -/
def singlePattern (g : Grammar) : Parse PatternForm := do
  let ts ← remaining
  if startsPathPattern ts then g.pathPattern
  else if nextIsWord "_" ts then
    word "_"
    return .other
  else if nextIsWord "box" ts then
    word "box"
    let _ ← g.pattern
    return .other
  else if nextIs "-" ts || nextIsLiteral ts || nextIsWord "const" ts then
    g.rangeBound
    g.rangeAfter
  else if nextIsAnyWord ["ref", "mut", "self"] ts || nextIsIdent ts then g.namePattern
  else if nextIs "&" ts then
    operator "&"
    let _ ← word? "mut"
    let _ ← g.pattern
    return .other
  else if nextIsGroup .paren ts then
    let _ ← group .paren (commaList g.patterns)
    return .other
  else if nextIsGroup .bracket ts then
    let elems ← group .bracket (commaList g.patterns)
    if elems.contains .openRange then fail
    return .other
  else if nextIs ".." ts && !nextIs "..." ts then
    if isHalfOpen ts && endsRange (ts.drop 2) then
      operator ".."
      return .rest
    else
      let _ ← g.rangeTail
      return .openRange
  else fail

/-! ## Alternatives -/

def morePatterns (g : Grammar) : Nat → Parse Bool
  | 0 => return false
  | fuel + 1 => do
    let ts ← remaining
    if nextIs "|" ts && !nextIs "||" ts && !nextIs "|=" ts then
      operator "|"
      let _ ← g.pattern
      let _ ← g.morePatterns fuel
      return true
    else return false

/-- Patterns between bars, with or without a bar in front. -/
def alternatives (g : Grammar) : Parse PatternForm := do
  let leading ← operator? "|"
  let first ← g.pattern
  let more ← g.morePatterns (← remaining).length
  if leading || more then return .other else return first

end Grammar

end RpcStubs.Idl
