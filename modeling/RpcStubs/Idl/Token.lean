/-!
# Token trees of declaration files

A file is a sequence of token trees: identifiers, punctuation characters, literals, and groups
between delimiters. A punctuation character remembers whether it is joined to the next one.
-/

namespace RpcStubs.Idl

inductive Delimiter where
  | paren
  | bracket
  | brace
  deriving DecidableEq, Repr

inductive LiteralKind where
  | string
  | byteString
  | cString
  | byte
  | char
  | float
  | int
  deriving DecidableEq, Repr

/-- A literal as it is written. -/
structure Literal where
  kind : LiteralKind
  text : String
  deriving DecidableEq, Repr

inductive TokenTree where
  | ident (text : String)
  | punct (c : Char) (joint : Bool)
  | literal (lit : Literal)
  | group (delimiter : Delimiter) (trees : List TokenTree)
  deriving Repr

namespace TokenTree

mutual

/-- One space stands between two trees, unless the first is joined to the second. There is none
next to a parenthesis or bracket, and one inside of each brace. -/
def text : TokenTree → String
  | ident text => text
  | punct c _ => String.singleton c
  | literal lit => lit.text
  | group .paren trees => "(" ++ textOf trees ++ ")"
  | group .bracket trees => "[" ++ textOf trees ++ "]"
  | group .brace [] => "\x7b \x7d"
  | group .brace trees => "\x7b " ++ textOf trees ++ " \x7d"

def textOf : List TokenTree → String
  | [] => ""
  | [t] => t.text
  | punct c true :: ts => String.singleton c ++ textOf ts
  | t :: ts => t.text ++ " " ++ textOf ts

end

mutual

/-- Number of trees, those inside of groups included. -/
def size : TokenTree → Nat
  | group _ trees => 1 + sizeOf trees
  | _ => 1

def sizeOf : List TokenTree → Nat
  | [] => 0
  | t :: ts => t.size + sizeOf ts

end

end TokenTree

end RpcStubs.Idl
