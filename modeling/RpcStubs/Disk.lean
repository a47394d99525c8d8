import RpcStubs.Error
import RpcStubs.FileTree

/-!
# Actions on files

An action may fail, and what it has changed before stays changed.
-/

namespace RpcStubs

abbrev Disk := ExceptT Error (StateM FileTree)

namespace Disk

/-- The files as they are. -/
def files : Disk FileTree := get

/-- A change of the files that may be refused. -/
def change (f : FileTree → Except OsError FileTree) : Disk Unit := do
  match f (← files) with
  | .ok tree => set tree
  | .error e => throw (.io e.message)

/-- The result of an action and the files after it. -/
def after {α : Type} (action : Disk α) (tree : FileTree) : Except Error α × FileTree :=
  action.run tree

end Disk

end RpcStubs
