import RpcStubs.Idl.Grammar.Expr
import RpcStubs.Idl.Grammar.Item

/-!
# Statements
-/

namespace RpcStubs.Idl

namespace Grammar

/-- Does a function follow, after what marks it? -/
def startsFunction (ts : List TokenTree) : Bool := nextIsAnyWord ["unsafe", "extern", "fn"] ts

/-- Does an item follow, rather than an expression? Macro calls are not looked at. -/
def startsItem (ts : List TokenTree) : Bool :=
  let next := ts.drop 1
  let third := ts.drop 2
  nextIsAnyWord ["pub", "extern", "use", "fn", "mod", "type", "struct", "enum", "trait", "impl",
      "macro"] ts ||
    nextIsWord "crate" ts && !nextIs "::" next ||
    nextIsWord "static" ts && (nextIsWord "mut" next || nextIsIdent next) ||
    nextIsWord "const" ts &&
      !(nextIsGroup .brace next || nextIsWord "static" next ||
        nextIsWord "async" next && !startsFunction third || nextIsWord "move" next ||
        nextIs "|" next) ||
    nextIsWord "unsafe" ts && !nextIsGroup .brace next ||
    nextIsWord "async" ts && startsFunction next ||
    nextIsWord "union" ts && nextIsIdent next ||
    nextIsWord "auto" ts && nextIsWord "trait" next ||
    nextIsWord "default" ts && nextIsAnyWord ["unsafe", "impl"] next

/-- How a macro call stands among statements. -/
inductive MacroPlace where
  | item
  | statement
  | none
  deriving DecidableEq

def macroPlace (afterPath : List TokenTree) : MacroPlace :=
  let next := afterPath.drop 1
  let third := afterPath.drop 2
  if nextIs "!" afterPath then
    if nextIsIdent next || nextIsWord "try" next then .item
    else if nextIsGroup .brace next && !(nextIs "." third || nextIs "?" third) then .statement
    else .none
  else .none

/-- Did what was taken last end with a brace? -/
def endsWithBrace : Parse Bool where
  run s :=
    match s.taken with
    | .group .brace _ :: _ => some (true, s)
    | _ => some (false, s)
  leaves := by
    intro s r h
    split at h <;> cases h <;> exact List.suffix_rfl

def localStatement (g : Grammar) : Parse Unit := do
  word "let"
  let _ ← g.pattern
  if ← operator? ":" then
    let _ ← g.type true
  if ← operator? "=" then
    let _ ← g.expr true
    let closed ← endsWithBrace
    if !closed && nextIsWord "else" (← remaining) then
      word "else"
      g.block
  operator ";"

/-- Does a semicolon have to follow the statement, unless it is the last? -/
def statement (g : Grammar) : Parse Bool := do
  let attrs ← g.outerAttributes
  let afterPath ← ahead (do
    let _ ← modPath
    remaining)
  let place :=
    match afterPath with
    | some rest => macroPlace rest
    | none => .none
  let ts ← remaining
  if place = .statement then
    let _ ← modPath
    operator "!"
    let _ ← anyGroup
    let _ ← operator? ";"
    return false
  else if nextIsWord "let" ts then
    g.localStatement
    return false
  else if startsItem ts || place = .item then
    let _ ← g.itemAfter attrs
    return false
  else
    let form ← g.early
    if ← operator? ";" then return false
    else return form ≠ .blockLike && form ≠ .bracedMacro

def statementsUpTo (g : Grammar) : Nat → Parse Unit
  | 0 => fail
  | fuel + 1 => do
    if ← operator? ";" then g.statementsUpTo fuel
    else if ← atEnd then return
    else
      let pending ← g.statement
      if pending then
        if !(← atEnd) then fail
      else g.statementsUpTo fuel

def statementList (g : Grammar) : Parse Unit := do
  g.statementsUpTo ((← remaining).length + 1)

end Grammar

end RpcStubs.Idl
