import RpcStubs.Text.Words

/-!
# Generated files

A file belongs to a package and is written to a module named after the type it defines.
-/

namespace RpcStubs

structure FileId where
  package : String
  name : String
  /-- File stem. -/
  module : String
  deriving DecidableEq, Repr

/-- The file of a type, in the module that its name spells in snake case. -/
def FileId.of (package name : String) : FileId := ⟨package, name, Text.snakeCase name⟩

end RpcStubs
