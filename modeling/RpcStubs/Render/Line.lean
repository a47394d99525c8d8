/-!
# Lines of source text

A line is a list of pieces. A piece that defines a type, or that takes or names a type of another
file of the package, is marked as such.
-/

namespace RpcStubs

/-- A part of a line of source text. -/
inductive Piece where
  | text (text : String)
  /-- The file defines a trait. -/
  | trait (name : String)
  /-- The file defines a struct. -/
  | struct (name : String)
  /-- The file imports types from the module of a sibling. -/
  | uses (module : String) (names : List String)
  /-- A type of a sibling, by its name alone. -/
  | named (name : String)
  /-- A type of a sibling, by its path. -/
  | byPath (module name : String)
  deriving DecidableEq, Repr

namespace Piece

/-- One name stands alone, any other number of them between braces. -/
def nameList : List String → String
  | [name] => name
  | names => "\x7b" ++ ", ".intercalate names ++ "\x7d"

def shown : Piece → String
  | text t => t
  | trait name => "pub trait " ++ name
  | struct name => "pub struct " ++ name
  | uses module names => "use super::" ++ module ++ "::" ++ nameList names ++ ";"
  | named name => name
  | byPath module name => "super::" ++ module ++ "::" ++ name

end Piece

/-- A line, without its indentation. -/
abbrev Line := List Piece

def Line.shown (line : Line) : String := String.join (line.map Piece.shown)

end RpcStubs
