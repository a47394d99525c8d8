import RpcStubs.Error
import RpcStubs.Path

/-!
# Reports

What a run has generated, and what it could not generate.
-/

namespace RpcStubs

/-- Something that produced no output. -/
structure Failure where
  /-- The name of the declaration, or the path of a file that could not be read. -/
  source : String
  error : Error
  deriving DecidableEq, Repr

structure Report where
  /-- All files written, module indexes included. -/
  generated : List Path
  failures : List Failure
  /-- The declared names of the services. -/
  services : List String
  deriving DecidableEq, Repr

namespace Report

def empty : Report := ⟨[], [], []⟩

def isSuccess (r : Report) : Bool := r.failures.isEmpty

def fail (r : Report) (source : String) (error : Error) : Report :=
  { r with failures := r.failures ++ [⟨source, error⟩] }

end Report

end RpcStubs
