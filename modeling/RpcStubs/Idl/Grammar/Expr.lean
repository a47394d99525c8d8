import RpcStubs.Idl.Grammar.Pattern
import RpcStubs.Idl.Grammar.Type

/-!
# Expressions

Only what the grammar of statements and of operators depends on is known of an expression once
it is read.
-/

namespace RpcStubs.Idl

namespace Grammar

/-! ## Operators -/

/-- Binary operators, longer ones first where one begins with another. -/
def binaryOperators : List (String × Precedence) := [
  ("+=", .assign), ("-=", .assign), ("*=", .assign), ("/=", .assign), ("%=", .assign),
  ("^=", .assign), ("&=", .assign), ("|=", .assign), ("<<=", .assign), (">>=", .assign),
  ("&&", .and), ("||", .or), ("<<", .shift), (">>", .shift), ("==", .compare),
  ("<=", .compare), ("!=", .compare), (">=", .compare), ("+", .sum), ("-", .sum),
  ("*", .product), ("/", .product), ("%", .product), ("^", .bitXor), ("&", .bitAnd),
  ("|", .bitOr), ("<", .compare), (">", .compare)]

def binaryOperator? (ts : List TokenTree) : Option (String × Precedence) :=
  binaryOperators.find? (fun (op, _) => nextIs op ts)

def isAssignment (ts : List TokenTree) : Bool := nextIs "=" ts && !nextIs "=>" ts

/-- How tightly the next operator binds. -/
def nextPrecedence (ts : List TokenTree) : Precedence :=
  match binaryOperator? ts with
  | some (_, precedence) => precedence
  | none =>
    if isAssignment ts then .assign
    else if nextIs ".." ts then .range
    else if nextIsWord "as" ts then .cast
    else .jump

/-- Operators that bind more tightly than the one before the operand. -/
def tighterOperators (g : Grammar) (struct : Bool) (p : Precedence) :
    Nat → ExprForm → Parse Unit
  | 0, _ => fail
  | fuel + 1, operand => do
    let ts ← remaining
    let next := nextPrecedence ts
    if p.rank < next.rank || p = .assign && next = .assign then
      let operand ← g.operators struct next operand
      if (← remaining).length < ts.length then
        g.tighterOperators struct p fuel operand

/-- The right operand of an operator. -/
def rightOperand (g : Grammar) (struct : Bool) (p : Precedence) : Parse Unit := do
  let operand ← g.unary struct
  g.tighterOperators struct p ((← remaining).length + 1) operand

/-- Does a range end here without an upper bound? -/
def endsRangeExpr (struct : Bool) (ts : List TokenTree) : Bool :=
  ts.isEmpty || nextIs "," ts || nextIs ";" ts || nextIs "." ts && !nextIs ".." ts ||
    nextIs "?" ts || nextIs "=>" ts || !struct && nextIsGroup .brace ts || nextIs "=" ts ||
    nextIsAny ["+", "/", "%", "^", ">"] ts || nextIs "<=" ts || nextIs "!=" ts ||
    nextIs "-=" ts || nextIs "*=" ts || nextIs "&=" ts || nextIs "|=" ts || nextIs "<<=" ts ||
    nextIsWord "as" ts

/-- The dots of a range and its end. -/
def rangeExprTail (g : Grammar) (struct : Bool) : Parse Unit := do
  let ts ← remaining
  if nextIs "..=" ts then
    operator "..="
    g.rightOperand struct .range
  else if nextIs "..." ts then fail
  else
    operator ".."
    if !endsRangeExpr struct (← remaining) then g.rightOperand struct .range

/-- No postfix operator may follow a cast. -/
def checkCast : Parse Unit := do
  let ts ← remaining
  if nextIs "." ts && !nextIs ".." ts || nextIs "?" ts || nextIsGroup .bracket ts ||
      nextIsGroup .paren ts then fail

/-- The operators that follow an operand and bind at least as tightly as `base`. -/
def operatorsUpTo (g : Grammar) (struct : Bool) (base : Precedence) :
    Nat → ExprForm → Parse ExprForm
  | 0, _ => fail
  | fuel + 1, operand => do
    let ts ← remaining
    if operand = .range then return operand
    match binaryOperator? ts with
    | some (op, p) =>
      if p.rank < base.rank then return operand
      if p = .compare && operand = .comparison then fail
      operator op
      g.rightOperand struct p
      g.operatorsUpTo struct base fuel (if p = .compare then .comparison else .other)
    | none =>
      if base.rank ≤ Precedence.assign.rank && isAssignment ts then
        operator "="
        g.rightOperand struct .assign
        g.operatorsUpTo struct base fuel .other
      else if base.rank ≤ Precedence.range.rank && nextIs ".." ts then
        g.rangeExprTail struct
        return .range
      else if base.rank ≤ Precedence.cast.rank && nextIsWord "as" ts then
        word "as"
        let _ ← g.type false
        checkCast
        g.operatorsUpTo struct base fuel .other
      else return operand

def operatorsAfter (g : Grammar) (struct : Bool) (base : Precedence) (operand : ExprForm) :
    Parse ExprForm := do
  g.operatorsUpTo struct base ((← remaining).length + 1) operand

def exprSyntax (g : Grammar) (struct : Bool) : Parse ExprForm := do
  let operand ← g.unary struct
  g.operatorsAfter struct .jump operand

/-! ## Postfix operators -/

/-- The field numbers in a number with points, and whether it ends with a point. -/
def splitNumbers (text : List Char) : List (List Char) × Bool :=
  let parts := text.splitOn '.'
  if parts.getLast? = some [] then (parts.dropLast, true) else (parts, false)

def joinNumbers : List TokenTree → List TokenTree
  | [] => []
  | [t] => [t]
  | t :: ts => t :: .punct '.' false :: joinNumbers ts

/-- Two field numbers that look like a number with a point. Does a field still have to follow? -/
def splitIndex : Parse Bool := do
  match ← remaining with
  | .literal ⟨.float, text⟩ :: _ =>
    let (parts, dangling) := splitNumbers text.toList
    match parts.mapM fieldNumber? with
    | some numbers =>
      replaceTrees 1 (joinNumbers numbers ++ if dangling then [.punct '.' false] else [])
      return dangling
    | none => fail
  | _ => return true

def callArgs (g : Grammar) : Parse Unit := do
  let _ ← group .paren (commaList (g.expr true))

/-- What follows the point of a field access or method call. -/
def afterPoint (g : Grammar) : Parse Unit := do
  if ← splitIndex then
    if nextIsWord "await" (← remaining) then word "await"
    else
      let named ← member
      if named then
        if nextIs "::" (← remaining) then
          let _ ← g.angledArgs
          g.callArgs
        else if nextIsGroup .paren (← remaining) then g.callArgs

def postfixUpTo (g : Grammar) : Nat → ExprForm → Parse ExprForm
  | 0, form => return form
  | fuel + 1, form => do
    let ts ← remaining
    if nextIsGroup .paren ts then
      g.callArgs
      g.postfixUpTo fuel .other
    else if nextIs "." ts && !nextIs ".." ts && form ≠ .range then
      operator "."
      g.afterPoint
      g.postfixUpTo fuel .other
    else if nextIsGroup .bracket ts then
      group .bracket (do let _ ← g.expr true)
      g.postfixUpTo fuel .other
    else if nextIs "?" ts && form ≠ .range then
      operator "?"
      g.postfixUpTo fuel .other
    else return form

def postfixAfter (g : Grammar) (form : ExprForm) : Parse ExprForm := do
  g.postfixUpTo (← remaining).length form

/-! ## Conditions and blocks -/

/-- The branches of a condition, from the word that begins it. -/
def ifChain (g : Grammar) : Nat → Parse Unit
  | 0 => fail
  | fuel + 1 => do
    word "if"
    let _ ← g.expr false
    g.block
    if ← word? "else" then
      if nextIsWord "if" (← remaining) then g.ifChain fuel else g.block

def ifExpr (g : Grammar) : Parse Unit := do g.ifChain (← remaining).length

def whileExpr (g : Grammar) : Parse Unit := do
  word "while"
  let _ ← g.expr false
  let _ ← g.body

def forExpr (g : Grammar) : Parse Unit := do
  word "for"
  let _ ← g.patterns
  word "in"
  let _ ← g.expr false
  let _ ← g.body

def loopExpr (g : Grammar) : Parse Unit := do
  word "loop"
  let _ ← g.body

/-- The label of a loop or block. -/
def label : Parse Unit := do
  lifetime
  operator ":"

/-- A loop or block behind its label. -/
def labelled (g : Grammar) : Parse Unit := do
  label
  let ts ← remaining
  if nextIsWord "while" ts then g.whileExpr
  else if nextIsWord "for" ts then g.forExpr
  else if nextIsWord "loop" ts then g.loopExpr
  else
    let _ ← g.body

/-- Is it a binder of lifetimes, rather than a loop? -/
def startsBinder (ts : List TokenTree) : Bool :=
  nextIsWord "for" ts && nextIs "<" (ts.drop 1) &&
    (nextIsLifetime (ts.drop 2) || nextIs ">" (ts.drop 2))

/-! ## Choices -/

/-- A case of a match. A comma has to follow it, unless it ends with a block. -/
def arm (g : Grammar) : Parse Unit := do
  let _ ← g.outerAttributes
  let _ ← g.patterns
  if ← word? "if" then
    let _ ← g.expr true
  operator "=>"
  let form ← g.early
  let comma ← operator? ","
  let last ← atEnd
  if !comma && !last && form ≠ .blockLike then fail

def matchExpr (g : Grammar) : Parse Unit := do
  word "match"
  let _ ← g.expr false
  group .brace (do
    let _ ← g.innerAttributes
    let _ ← many List.isEmpty g.arm)

/-- How an expression that ends with a block is read, if there is one. -/
def blockLike? (g : Grammar) (ts : List TokenTree) : Option (Parse Unit) :=
  let next := ts.drop 1
  if nextIsWord "if" ts then some g.ifExpr
  else if nextIsWord "while" ts then some g.whileExpr
  else if nextIsWord "for" ts && !startsBinder ts then some g.forExpr
  else if nextIsWord "loop" ts then some g.loopExpr
  else if nextIsWord "match" ts then some g.matchExpr
  else if nextIsWord "try" ts && nextIsGroup .brace next then
    some (do
      word "try"
      g.block)
  else if nextIsWord "unsafe" ts || nextIsWord "const" ts && nextIsGroup .brace next then
    some (do
      let _ ← anyWord
      let _ ← g.body)
  else if nextIsGroup .brace ts then
    some (do let _ ← g.body)
  else if nextIsLifetime ts then some g.labelled
  else none

/-- Where a statement begins, an expression that ends with a block is complete, unless a point or
question mark follows. -/
def earlyExpr (g : Grammar) : Parse ExprForm := do
  let _ ← g.outerAttributes
  match g.blockLike? (← remaining) with
  | none =>
    let operand ← g.unary true
    g.operatorsAfter true .jump operand
  | some read =>
    read
    let ts ← remaining
    if nextIs "." ts && !nextIs ".." ts || nextIs "?" ts then
      let form ← g.postfixAfter .blockLike
      g.operatorsAfter true .jump form
    else return .blockLike

/-! ## Closures -/

def startsClosure (ts : List TokenTree) : Bool :=
  let next := ts.drop 1
  nextIs "|" ts || nextIsWord "move" ts || startsBinder ts ||
    nextIsWord "const" ts && !nextIsGroup .brace next || nextIsWord "static" ts ||
    nextIsWord "async" ts && (nextIs "|" next || nextIsWord "move" next)

def closureParam (g : Grammar) : Parse Unit := do
  let _ ← g.outerAttributes
  let _ ← g.pattern
  if ← operator? ":" then
    let _ ← g.type true

def closure (g : Grammar) (struct : Bool) : Parse Unit := do
  let _ ← optional (nextIsWord "for") g.binder
  let _ ← word? "const"
  let _ ← word? "static"
  let _ ← word? "async"
  let _ ← word? "move"
  operator "|"
  let _ ← separated "," (nextIs "|") g.closureParam
  operator "|"
  if nextIs "->" (← remaining) then
    let _ ← g.result true
    g.block
  else
    let _ ← g.expr struct

/-! ## Records, lists and jumps -/

def fieldValue (g : Grammar) : Parse Unit := do
  let _ ← g.outerAttributes
  let named ← member
  if !named || nextIs ":" (← remaining) then
    operator ":"
    let _ ← g.expr true

def fieldValues (g : Grammar) : Nat → Parse Unit
  | 0 => fail
  | fuel + 1 => do
    if ← atEnd then return
    if ← operator? ".." then
      if !(← atEnd) then
        let _ ← g.expr true
      return
    g.fieldValue
    if ← atEnd then return
    operator ","
    g.fieldValues fuel

/-- A path, a macro call or a record literal. -/
def pathExpr (g : Grammar) (struct : Bool) : Parse ExprForm := do
  let path ← g.qualifiedPath true
  let ts ← remaining
  let plain :=
    match path with
    | some path => path.isPlain
    | none => false
  if plain && nextIs "!" ts && !nextIs "!=" ts then
    operator "!"
    let (d, _) ← anyGroup
    return if d = .brace then .bracedMacro else .other
  else if struct && nextIsGroup .brace ts then
    group .brace (do g.fieldValues ((← remaining).length + 1))
    return .other
  else return .other

def arrayExpr (g : Grammar) : Parse Unit :=
  group .bracket (do
    if ← atEnd then return
    let _ ← g.expr true
    if ← operator? ";" then
      let _ ← g.expr true
    else if !(← atEnd) then
      operator ","
      let _ ← commaList (g.expr true))

/-- May an expression follow a jump? -/
def beginsExpr (ts : List TokenTree) : Bool :=
  (nextWord? ts).isSome && !nextIsWord "as" ts || nextIsGroup .paren ts ||
    nextIsGroup .bracket ts || nextIsGroup .brace ts || nextIsLiteral ts ||
    nextIs "!" ts && !nextIs "!=" ts || nextIs "-" ts && !nextIs "-=" ts && !nextIs "->" ts ||
    nextIs "*" ts && !nextIs "*=" ts || nextIs "|" ts && !nextIs "|=" ts ||
    nextIs "&" ts && !nextIs "&=" ts || nextIs ".." ts ||
    nextIs "<" ts && !nextIs "<=" ts && !nextIs "<<=" ts || nextIs "::" ts ||
    nextIsLifetime ts || nextIs "#" ts

def jumpValue (g : Grammar) (struct : Bool) : Parse Unit := do
  let ts ← remaining
  if beginsExpr ts && (struct || !nextIsGroup .brace ts) then
    let _ ← g.expr struct

def jump (g : Grammar) (struct : Bool) : Parse Unit := do
  let ts ← remaining
  if nextIsWord "break" ts then
    word "break"
    let labelled ← lifetime?
    if labelled && nextIs ":" (← remaining) then fail
    g.jumpValue struct
  else if nextIsWord "continue" ts then
    word "continue"
    let _ ← lifetime?
  else if nextIsWord "become" ts then
    word "become"
    let _ ← g.expr true
  else
    let _ ← anyWord
    g.jumpValue struct

def letExpr (g : Grammar) (struct : Bool) : Parse Unit := do
  word "let"
  let _ ← g.patterns
  operator "="
  let operand ← g.unary struct
  let _ ← g.operators struct .compare operand

/-! ## Operands -/

/-- An expression without operators. -/
def atom (g : Grammar) (struct : Bool) : Parse ExprForm := do
  let ts ← remaining
  let next := ts.drop 1
  if nextIsLiteral ts then
    literal
    return .other
  else if nextIsWord "async" ts &&
      (nextIsGroup .brace next || nextIsWord "move" next && nextIsGroup .brace (ts.drop 2)) then
    word "async"
    let _ ← word? "move"
    g.block
    return .other
  else if nextIsWord "try" ts && nextIsGroup .brace next then
    word "try"
    g.block
    return .blockLike
  else if startsClosure ts then
    g.closure struct
    return .other
  else if nextIsWord "builtin" ts && nextIs "#" next then
    word "builtin"
    operator "#"
    let _ ← anyWord
    group .paren everything
    return .other
  else if startsPath ts || nextIs "::" ts || nextIs "<" ts ||
      nextIsWord "try" ts && (nextIs "!" next || nextIs "::" next) then g.pathExpr struct
  else if nextIsGroup .paren ts then
    let _ ← group .paren (commaList (g.expr true))
    return .other
  else if nextIsAnyWord ["break", "continue", "return", "become", "yield"] ts then
    g.jump struct
    return .other
  else if nextIsGroup .bracket ts then
    g.arrayExpr
    return .other
  else if nextIsWord "let" ts then
    g.letExpr struct
    return .other
  else if nextIs ".." ts then
    g.rangeExprTail struct
    return .range
  else if nextIsWord "_" ts then
    word "_"
    return .other
  else
    match g.blockLike? ts with
    | some read =>
      read
      return .blockLike
    | none => fail

/-- An operand with the operators before and after it. -/
def unaryExpr (g : Grammar) (struct : Bool) : Parse ExprForm := do
  let attrs ← g.outerAttributes
  let ts ← remaining
  if nextIs "&" ts then
    operator "&"
    let ts ← remaining
    let raw := nextIsWord "raw" ts && nextIsAnyWord ["mut", "const"] (ts.drop 1)
    if raw then word "raw"
    let isMut ← word? "mut"
    if raw && !isMut then word "const"
    let _ ← g.unary struct
    return .other
  else if nextIsAny ["*", "!", "-"] ts then
    if nextIs "*" ts then operator "*" else if nextIs "!" ts then operator "!" else operator "-"
    let _ ← g.unary struct
    return .other
  else
    let form ← g.atom struct
    let form ← g.postfixAfter form
    if form = .range && !attrs.isEmpty then fail
    return form

end Grammar

end RpcStubs.Idl
