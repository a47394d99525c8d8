import RpcStubs.Idl.Grammar.Signature

/-!
# Items
-/

namespace RpcStubs.Idl

namespace Grammar

/-! ## Visibility -/

/-- The word that makes an item visible, with the place to which it is. Is there one? -/
def visibility : Parse Bool := do
  if ← word? "pub" then
    match ← remaining with
    | .group .paren [.ident w] :: _ =>
      if ["crate", "self", "super"].contains w then
        group .paren (word w)
    | .group .paren (.ident "in" :: _) :: _ =>
      group .paren (do
        word "in"
        let _ ← modPath)
    | _ => return true
    return true
  else return false

/-! ## Fields -/

/-- A named field. One without a name may hold the fields of a nested record. -/
def namedFieldWith (g : Grammar) (nested : Parse Unit) : Parse Unit := do
  let _ ← g.outerAttributes
  let _ ← visibility
  let unnamed := nextIsWord "_" (← remaining)
  let _ ← if unnamed then anyWord else ident
  operator ":"
  let ts ← remaining
  if unnamed && (nextIsWord "struct" ts ||
      nextIsWord "union" ts && nextIsGroup .brace (ts.drop 1)) then
    let _ ← anyWord
    nested
  else
    let _ ← g.type true

/-- Named fields between braces, nested at most `fuel` deep. -/
def namedFieldsUpTo (g : Grammar) : Nat → Parse Unit
  | 0 => fail
  | fuel + 1 => do
    let _ ← group .brace (commaList (g.namedFieldWith (g.namedFieldsUpTo fuel)))

def namedFields (g : Grammar) : Parse Unit := do
  g.namedFieldsUpTo (TokenTree.sizeOf (← remaining) + 1)

def unnamedField (g : Grammar) : Parse Unit := do
  let _ ← g.outerAttributes
  let _ ← visibility
  let _ ← g.type true

def unnamedFields (g : Grammar) : Parse Unit := do
  let _ ← group .paren (commaList g.unnamedField)

/-- What follows the name and the parameters of a record. -/
def recordBody (g : Grammar) : Parse Unit := do
  let constrained := nextIsWord "where" (← remaining)
  g.whereClause
  let ts ← remaining
  if !constrained && nextIsGroup .paren ts then
    g.unnamedFields
    g.whereClause
    operator ";"
  else if nextIsGroup .brace ts then g.namedFields
  else operator ";"

def variant (g : Grammar) : Parse Unit := do
  let _ ← g.outerAttributes
  let _ ← visibility
  let _ ← ident
  let ts ← remaining
  if nextIsGroup .brace ts then g.namedFields
  else if nextIsGroup .paren ts then g.unnamedFields
  if ← operator? "=" then
    let _ ← g.expr true

/-! ## Imports -/

def renamed : Parse Unit := do
  if ← word? "as" then
    if nextIsWord "_" (← remaining) then word "_"
    else
      let _ ← ident

def useMember (g : Grammar) (root : Bool) : Parse Unit := do
  let absolute ← if root then operator? "::" else pure false
  g.useTree (root && !absolute)

/-- What is imported. May a path in braces begin at the root? -/
def useTreeSyntax (g : Grammar) (root : Bool) : Parse Unit := do
  let ts ← remaining
  if nextIsIdent ts || nextIsAnyWord ["self", "super", "crate", "try"] ts then
    let _ ← anyWord
    if ← operator? "::" then g.useTree false
    else renamed
  else if nextIs "*" ts then operator "*"
  else
    let _ ← group .brace (commaList (g.useMember root))

def useItem (g : Grammar) : Parse Unit := do
  word "use"
  let absolute ← operator? "::"
  g.useTree (!absolute)
  operator ";"

/-! ## Constants, types and macros -/

def constantItem (g : Grammar) : Parse Unit := do
  word "const"
  if nextIsWord "_" (← remaining) then word "_"
  else
    let _ ← ident
  g.generics
  operator ":"
  let _ ← g.type true
  if ← operator? "=" then
    let _ ← g.expr true
  g.whereClause
  operator ";"

def staticItem (g : Grammar) : Parse Unit := do
  word "static"
  let _ ← word? "mut"
  let _ ← ident
  if ← operator? "=" then
    let _ ← g.expr true
  else
    operator ":"
    let _ ← g.type true
    if ← operator? "=" then
      let _ ← g.expr true
  operator ";"

/-- Where the constraints of a type stand. -/
structure WherePlace where
  before : Bool
  after : Bool

/-- A type with a name. Its definition is given if it has one and no bounds. -/
def typeItem (g : Grammar) (place : WherePlace) : Parse (String × Bool) := do
  word "type"
  let name ← ident
  g.generics
  let stop := fun (ts : List TokenTree) => nextIsWord "where" ts || nextIsAny ["=", ";"] ts
  let bounded ← operator? ":"
  if bounded then
    let _ ← separated "+" stop (g.bound true true)
  let constrained := place.before && nextIsWord "where" (← remaining)
  if place.before then g.whereClause
  let defined ← operator? "="
  if defined then
    let _ ← g.type true
  if place.after && !constrained then g.whereClause
  operator ";"
  return (name, defined && !bounded)

/-- A macro call as an item. A semicolon follows it, unless it has braces. -/
def macroItem (named : Bool) : Parse Unit := do
  let _ ← modPath
  operator "!"
  if named then
    let ts ← remaining
    if nextIsWord "try" ts || nextIsIdent ts then
      let _ ← anyWord
  let (d, _) ← anyGroup
  if d ≠ .brace then operator ";"

def startsMacro (ts : List TokenTree) : Bool :=
  nextIsIdent ts || nextIsAnyWord ["self", "super", "crate"] ts || nextIs "::" ts

/-- A macro defined by its rules. -/
def macroDefinition : Parse Unit := do
  word "macro"
  let _ ← ident
  if nextIsGroup .paren (← remaining) then
    let _ ← anyGroup
  if nextIsGroup .brace (← remaining) then
    let _ ← anyGroup
  else fail

/-! ## Functions -/

/-- A body, or a semicolon instead of it. The inner attributes are given if there is a body. -/
def optionalBody (g : Grammar) : Parse (Option (List Attribute)) := do
  if ← operator? ";" then return none
  else
    let attrs ← g.body
    return some attrs

/-! ## Members -/

/-- A member of a trait. Only a plain method is given. -/
def traitMember (g : Grammar) : Parse (Option MethodSyntax) := do
  let attrs ← g.outerAttributes
  let visible ← visibility
  let default ← word? "default"
  let ts ← remaining
  if startsSignature false ts then
    let signature ← g.signature false
    let inner ← g.optionalBody
    if visible || default then return none
    else return some ⟨attrs ++ inner.getD [], signature⟩
  else if nextIsWord "const" ts then
    g.constantItem
    return none
  else if nextIsWord "type" ts then
    let _ ← g.typeItem ⟨false, true⟩
    return none
  else if !visible && !default && startsMacro ts then
    macroItem false
    return none
  else fail

def implMember (g : Grammar) : Parse Unit := do
  let _ ← g.outerAttributes
  let visible ← visibility
  let default := nextIsWord "default" (← remaining) && !nextIs "!" ((← remaining).drop 1)
  if default then word "default"
  let ts ← remaining
  if startsSignature false ts then
    let _ ← g.signature false
    let _ ← g.optionalBody
  else if nextIsWord "const" ts then g.constantItem
  else if nextIsWord "type" ts then
    let _ ← g.typeItem ⟨false, true⟩
  else if !visible && !default && startsMacro ts then macroItem false
  else fail

def foreignMember (g : Grammar) : Parse Unit := do
  let _ ← g.outerAttributes
  let visible ← visibility
  let ts ← remaining
  if startsSignature true ts then
    let _ ← g.signature true
    let _ ← g.optionalBody
  else if nextIsWord "static" ts ||
      nextIsAnyWord ["unsafe", "safe"] ts && nextIsWord "static" (ts.drop 1) then
    if !nextIsWord "static" ts then
      let _ ← anyWord
    word "static"
    let _ ← word? "mut"
    let _ ← ident
    operator ":"
    let _ ← g.type true
    if ← operator? "=" then
      let _ ← g.expr true
    operator ";"
  else if nextIsWord "type" ts then
    let _ ← g.typeItem ⟨true, true⟩
  else if !visible && startsMacro ts then macroItem false
  else fail

/-! ## Traits, implementations and blocks of foreign items -/

def supertraits (g : Grammar) : Parse Unit := do
  if ← operator? ":" then
    let _ ← separated "+"
      (fun ts => nextIsWord "where" ts || nextIsGroup .brace ts) (g.bound false true)

/-- A trait from its supertraits on. -/
def traitBody (g : Grammar) (name : String) (attrs : List Attribute) : Parse ItemSyntax := do
  g.supertraits
  g.whereClause
  group .brace (do
    let inner ← g.innerAttributes
    let members ← many List.isEmpty g.traitMember
    return .trait name (attrs ++ inner) (members.filterMap id))

/-- A trait, or a name for bounds. -/
def traitItem (g : Grammar) (attrs : List Attribute) : Parse ItemSyntax := do
  let marked := nextIsAnyWord ["unsafe", "auto"] (← remaining)
  let _ ← word? "unsafe"
  let _ ← word? "auto"
  word "trait"
  let name ← ident
  g.generics
  if !marked && nextIs "=" (← remaining) then
    operator "="
    let _ ← separated "+" (fun ts => nextIsWord "where" ts || nextIs ";" ts) (g.bound false true)
    g.whereClause
    operator ";"
    return .other
  else g.traitBody name attrs

def implItem (g : Grammar) : Parse Unit := do
  let _ ← word? "default"
  let _ ← word? "unsafe"
  word "impl"
  if startsGenerics (← remaining) then g.generics
  let ts ← remaining
  if nextIs "?" ts && nextIsWord "const" (ts.drop 1) then operator "?"
  let _ ← word? "const"
  let ts ← remaining
  if nextIs "!" ts && !nextIsGroup .brace (ts.drop 1) then operator "!"
  let _ ← g.type true
  if ← word? "for" then
    let _ ← g.type true
  g.whereClause
  group .brace (do
    let _ ← g.innerAttributes
    let _ ← many List.isEmpty g.implMember)

def foreignBlock (g : Grammar) : Parse Unit := do
  let _ ← word? "unsafe"
  convention
  group .brace (do
    let _ ← g.innerAttributes
    let _ ← many List.isEmpty g.foreignMember)

def externCrate : Parse Unit := do
  word "extern"
  word "crate"
  if nextIsWord "self" (← remaining) then word "self"
  else
    let _ ← ident
  renamed
  operator ";"

def moduleName : Parse String := do
  if nextIsWord "try" (← remaining) then anyWord else ident

/-- A module of this file, or of another one. -/
def moduleItem (g : Grammar) : Parse ItemSyntax := do
  let _ ← word? "unsafe"
  word "mod"
  let name ← moduleName
  if ← operator? ";" then return .other
  else
    group .brace (do
      let _ ← g.innerAttributes
      let items ← many List.isEmpty g.item
      return .module name items)

/-! ## All items -/

/-- A function. One without a body is no declaration. -/
def functionItem (g : Grammar) (attrs : List Attribute) : Parse ItemSyntax := do
  let signature ← g.signature false
  match ← g.optionalBody with
  | some inner => return .plain .function signature.name (attrs ++ inner)
  | none => return .other

/-- An item from its visibility on. -/
def itemAfter (g : Grammar) (attrs : List Attribute) : Parse ItemSyntax := do
  let visible ← visibility
  let ts ← remaining
  let next := ts.drop 1
  if startsSignature false ts then g.functionItem attrs
  else if nextIsWord "extern" ts then
    if nextIsWord "crate" next then externCrate
    else if visible then fail
    else g.foreignBlock
    return .other
  else if nextIsWord "use" ts then
    g.useItem
    return .other
  else if nextIsWord "static" ts then
    g.staticItem
    return .other
  else if nextIsWord "const" ts then
    g.constantItem
    return .other
  else if nextIsWord "unsafe" ts then
    if nextIsWord "trait" next || nextIsWord "auto" next && nextIsWord "trait" (ts.drop 2) then
      g.traitItem attrs
    else if nextIsWord "impl" next then
      g.implItem
      return .other
    else if nextIsWord "extern" next && !visible then
      g.foreignBlock
      return .other
    else if nextIsWord "mod" next then g.moduleItem
    else fail
  else if nextIsWord "mod" ts then g.moduleItem
  else if nextIsWord "type" ts then
    let (name, defined) ← g.typeItem ⟨true, false⟩
    return if defined then .plain .other name attrs else .other
  else if nextIsWord "struct" ts then
    word "struct"
    let name ← ident
    g.generics
    g.recordBody
    return .plain .record name attrs
  else if nextIsWord "enum" ts then
    word "enum"
    let name ← ident
    g.generics
    g.whereClause
    let _ ← group .brace (commaList g.variant)
    return .plain .enumeration name attrs
  else if nextIsWord "union" ts && nextIsIdent next then
    word "union"
    let name ← ident
    g.generics
    g.whereClause
    g.namedFields
    return .plain .other name attrs
  else if nextIsWord "trait" ts || nextIsWord "auto" ts && nextIsWord "trait" next then
    g.traitItem attrs
  else if nextIsWord "impl" ts || nextIsWord "default" ts && !nextIs "!" next then
    g.implItem
    return .other
  else if nextIsWord "macro" ts then
    macroDefinition
    return .other
  else if !visible && startsMacro ts then
    macroItem true
    return .other
  else fail

def itemSyntax (g : Grammar) : Parse ItemSyntax := do
  let attrs ← g.outerAttributes
  g.itemAfter attrs

end Grammar

end RpcStubs.Idl
