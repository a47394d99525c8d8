import RpcStubs.Idl.Literal
import RpcStubs.Idl.Parse
import RpcStubs.Idl.Syntax

/-!
# The grammar as a table of readers

Types, expressions, patterns, statements and items contain each other. Each is read by a function
of a table that holds the readers of their parts, and the table of a depth is made from the one
below it. No part is nested deeper than there are trees.
-/

namespace RpcStubs.Idl

/-- What an expression is, as far as its surroundings ask for it. -/
inductive ExprForm where
  | range
  /-- It ends with a block and needs no semicolon. -/
  | blockLike
  /-- A macro call with braces. -/
  | bracedMacro
  | comparison
  | other
  deriving DecidableEq, Repr

/-- What a pattern is, as far as its surroundings ask for it. -/
inductive PatternForm where
  | name (name : String)
  /-- Two dots that stand for what is left out. -/
  | rest
  /-- A range without a beginning or an end. -/
  | openRange
  | other
  deriving DecidableEq, Repr

/-- How tightly an operator binds. -/
inductive Precedence where
  | jump
  | assign
  | range
  | or
  | and
  | let
  | compare
  | bitOr
  | bitXor
  | bitAnd
  | shift
  | sum
  | product
  | cast
  deriving DecidableEq, Repr

def Precedence.rank : Precedence → Nat
  | jump => 0
  | assign => 1
  | range => 2
  | or => 3
  | and => 4
  | «let» => 5
  | compare => 6
  | bitOr => 7
  | bitXor => 8
  | bitAnd => 9
  | shift => 10
  | sum => 11
  | product => 12
  | cast => 13

/-- Readers of the parts that are contained in each other. -/
structure Grammar where
  /-- A type. May bounds be joined by a plus? -/
  type : Bool → Parse TypeSyntax
  /-- A path with arguments. Do arguments follow two colons only, as in expressions? -/
  path : Bool → Parse PathSyntax
  /-- A binder of lifetimes in front of a type or bound. -/
  binder : Parse Unit
  /-- An expression. May it be a record literal? -/
  expr : Bool → Parse ExprForm
  /-- An expression without binary operators. -/
  unary : Bool → Parse ExprForm
  /-- The operators that follow an operand and bind at least as tightly as given. -/
  operators : Bool → Precedence → ExprForm → Parse ExprForm
  /-- An expression where a statement begins, or the body of a match arm. -/
  early : Parse ExprForm
  /-- A pattern without alternatives. -/
  pattern : Parse PatternForm
  /-- Alternatives of patterns. -/
  patterns : Parse PatternForm
  /-- The statements up to the end of a block. -/
  statements : Parse Unit
  item : Parse ItemSyntax
  /-- What is imported. May a path begin at the root? -/
  useTree : Bool → Parse Unit

/-- The table that reads nothing. -/
def Grammar.empty : Grammar where
  type _ := fail
  path _ := fail
  binder := fail
  expr _ := fail
  unary _ := fail
  operators _ _ _ := fail
  early := fail
  pattern := fail
  patterns := fail
  statements := fail
  item := fail
  useTree _ := fail

/-- Keeps trees that were taken without being kept. -/
def keep (trees : List TokenTree) : Parse Unit := replaceTrees 0 trees

/-- The result of a reader and what it took, which is not kept yet. -/
def aside {α : Type} (p : Parse α) : Parse (α × List TokenTree) where
  run s :=
    match p.run ⟨s.rest, []⟩ with
    | some (a, t) => some ((a, t.taken.reverse), ⟨t.rest, s.taken⟩)
    | none => none
  leaves := by
    intro s r h
    split at h
    · rename_i hp
      cases h
      exact p.leaves _ _ hp
    · cases h

/-! ## Field numbers -/

/-- The value of digits in a radix. Underscores are left out. -/
def digitsValue? (radix : Nat) : List Char → Nat → Option Nat
  | [], value => some value
  | c :: cs, value =>
    if c = '_' then digitsValue? radix cs value
    else
      match hexValue? c with
      | some d => if d < radix then digitsValue? radix cs (radix * value + d) else none
      | none => none

/-- The value of a whole number without a suffix. -/
def wholeNumber? (text : List Char) : Option Nat :=
  match text with
  | '0' :: 'x' :: cs => digitsValue? 16 cs 0
  | '0' :: 'o' :: cs => digitsValue? 8 cs 0
  | '0' :: 'b' :: cs => digitsValue? 2 cs 0
  | cs => digitsValue? 10 cs 0

/-- A field number is printed in decimal digits. -/
def fieldNumber? (text : List Char) : Option TokenTree :=
  match wholeNumber? text with
  | some n => if n < Nat.pow 2 32 then some (.literal ⟨.int, toString n⟩) else none
  | none => none

/-- The number of a field. -/
def index : Parse Unit := do
  match ← remaining with
  | .literal ⟨.int, text⟩ :: _ =>
    match fieldNumber? text.toList with
    | some number => replaceTrees 1 [number]
    | none => fail
  | _ => fail

/-! ## Plain paths and attributes -/

def startsModSegment (ts : List TokenTree) : Bool :=
  nextIsIdent ts || nextIsAnyWord ["super", "self", "Self", "crate"] ts

def modSegments : Nat → Parse (List SegmentSyntax)
  | 0 => fail
  | fuel + 1 => do
    if startsModSegment (← remaining) then
      let name ← anyWord
      if ← operator? "::" then
        let rest ← modSegments fuel
        return .mk name .none :: rest
      else return [.mk name .none]
    else fail

/-- A path without arguments. -/
def modPath : Parse PathSyntax := do
  let absolute ← operator? "::"
  let segments ← modSegments (← remaining).length
  return .mk absolute segments

/-- A value that is one literal. -/
def loneLiteral : Parse (Option String) := do
  let value :=
    match ← remaining with
    | [.literal lit] => lit.stringValue?
    | _ => none
  literal
  if ← atEnd then return value else fail

namespace Grammar

/-- The inside of an attribute's brackets. -/
def attributeBody (g : Grammar) : Parse Attribute := do
  let path ←
    if nextIsWord "unsafe" (← remaining) then
      word "unsafe"
      pure (some "unsafe")
    else
      let path ← modPath
      pure path.ident?
  let ts ← remaining
  if nextIsGroup .paren ts || nextIsGroup .bracket ts || nextIsGroup .brace ts then
    let (_, args) ← anyGroup
    return ⟨path, .list args⟩
  else if nextIs "=" ts && !nextIs "==" ts && !nextIs "=>" ts then
    operator "="
    let value ← either loneLiteral (do
      let ts ← remaining
      if nextIs "#" ts && nextIsGroup .bracket (skipTree ts) then fail
      let _ ← g.expr true
      return none)
    return ⟨path, .value value⟩
  else return ⟨path, .path⟩

def outerAttribute (g : Grammar) : Parse Attribute := do
  operator "#"
  group .bracket g.attributeBody

def innerAttribute (g : Grammar) : Parse Attribute := do
  operator "#"
  operator "!"
  group .bracket g.attributeBody

def outerAttributes (g : Grammar) : Parse (List Attribute) :=
  many (!nextIs "#" ·) g.outerAttribute

def innerAttributes (g : Grammar) : Parse (List Attribute) :=
  many (fun ts => !(nextIs "#" ts && nextIs "!" (skipTree ts))) g.innerAttribute

/-- A block that begins with inner attributes. -/
def body (g : Grammar) : Parse (List Attribute) :=
  group .brace (do
    let attrs ← g.innerAttributes
    g.statements
    return attrs)

/-- A block without inner attributes. -/
def block (g : Grammar) : Parse Unit := group .brace g.statements

end Grammar

end RpcStubs.Idl
