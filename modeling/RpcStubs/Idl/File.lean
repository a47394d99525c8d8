import RpcStubs.Idl.Grammar.Statement
import RpcStubs.Idl.Lexer

/-!
# Declaration files
-/

namespace RpcStubs.Idl

/-- The table whose parts are read by the given one. -/
def Grammar.deeper (g : Grammar) : Grammar where
  type := g.typeSyntax
  path := g.genericPath
  binder := g.lifetimeBinder
  expr := g.exprSyntax
  unary := g.unaryExpr
  operators := g.operatorsAfter
  early := g.earlyExpr
  pattern := g.singlePattern
  patterns := g.alternatives
  statements := g.statementList
  item := g.itemSyntax
  useTree := g.useTreeSyntax

/-- The table that reads parts which are nested at most `depth` deep. -/
def Grammar.ofDepth (depth : Nat) : Grammar := depth.repeat Grammar.deeper .empty

/-- All items of a file, behind its own attributes. -/
def Grammar.file (g : Grammar) : Parse (List ItemSyntax) := do
  let _ ← g.innerAttributes
  many List.isEmpty g.item

/-- No tree opens more than a few parts that contain each other. -/
def nestingBound (trees : List TokenTree) : Nat := 8 * TokenTree.sizeOf trees + 16

/-- The items of a list of trees. -/
def parseItems (trees : List TokenTree) : Option (List ItemSyntax) :=
  (readAll (Grammar.ofDepth (nestingBound trees)).file trees).map Prod.fst

/-- The items of a source text. -/
def parseFile (source : String) : Option (List ItemSyntax) := (fileTrees source).bind parseItems

end RpcStubs.Idl
