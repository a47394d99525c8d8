import RpcStubs.FileTree

/-!
# Changes between trees
-/

namespace RpcStubs

/-- A step from one tree to another. -/
inductive Change where
  | makeDirectory (place : Place)
  | writeFile (place : Place) (content : ByteArray)
  | remove (place : Place) (wasDirectory : Bool)

namespace FileTree

/-- How an entry of the later tree differs from what was there before. -/
def changeAt? (before : FileTree) : Place × Entry → Option Change
  | (place, .directory) => if (before.get? place).isSome then none else some (.makeDirectory place)
  | (place, .file content) =>
    match before.get? place with
    | some (.file old) => if old.data = content.data then none else some (.writeFile place content)
    | _ => some (.writeFile place content)

/-- An entry of the earlier tree that is gone. -/
def removalAt? (after : FileTree) : Place × Entry → Option Change
  | (place, entry) =>
    if (after.get? place).isSome then none else some (.remove place entry.isDirectory)

/-- The steps from one tree to another. What a directory holds is removed before it, and made
after it. -/
def changes (before after : FileTree) : List Change :=
  (before.entries.filterMap after.removalAt?).reverse
    ++ after.entries.filterMap before.changeAt?

end FileTree

end RpcStubs
