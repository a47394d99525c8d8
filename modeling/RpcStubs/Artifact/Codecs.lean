import RpcStubs.Artifact.Basic

/-!
# Codec bindings of a descriptor

Every type other than unit has one binding. Types that share a canonical name are numbered in
the order in which they are first met.
-/

namespace RpcStubs

/-- The bindings made so far, in order. -/
abbrev CodecTable := List CodecBinding

namespace CodecTable

/-- The bindings of a canonical name, in order. -/
def ofName (table : CodecTable) (canonical : String) : List CodecBinding :=
  table.filter (·.canonicalName = canonical)

/-- The name of the next binding after `count` others with the same canonical name. -/
def identOf (canonical : String) (count : Nat) : String :=
  if count = 0 then Text.snakeCase canonical ++ "_codec"
  else Text.snakeCase canonical ++ "_" ++ toString (count + 1) ++ "_codec"

/-- The codec of a type, and the table with its binding. -/
def bind (table : CodecTable) (type : TypeRef) : CodecRef × CodecTable :=
  if type.isUnit then (.unit, table)
  else
    let canonical := type.canonicalName
    let known := table.ofName canonical
    match known.find? (·.type = type) with
    | some binding => (.binding binding.ident, table)
    | none =>
      let ident := identOf canonical known.length
      (.binding ident, table ++ [⟨ident, canonical, type⟩])

end CodecTable

end RpcStubs
