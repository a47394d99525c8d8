import RpcStubs.Disk

/-!
# Programs

A program takes arguments, may change files, and ends with a status.
-/

namespace RpcStubs

/-- How a program ended. -/
inductive ExitStatus where
  | code (n : Nat)
  | signal (n : Nat)
  deriving DecidableEq, Repr

namespace ExitStatus

def success : ExitStatus := code 0

def signalName : Nat → String
  | 1 => " (SIGHUP)"
  | 2 => " (SIGINT)"
  | 3 => " (SIGQUIT)"
  | 6 => " (SIGABRT)"
  | 9 => " (SIGKILL)"
  | 10 => " (SIGUSR1)"
  | 11 => " (SIGSEGV)"
  | 12 => " (SIGUSR2)"
  | 13 => " (SIGPIPE)"
  | 14 => " (SIGALRM)"
  | 15 => " (SIGTERM)"
  | _ => ""

def message : ExitStatus → String
  | code n => "exit status: " ++ toString n
  | signal n => "signal: " ++ toString n ++ signalName n

end ExitStatus

/-- What a program does with its arguments and the files. -/
abbrev Program := List String → FileTree → ExitStatus × FileTree

/-- The programs that can be started, by name. -/
abbrev Programs := String → Option Program

namespace Programs

/-- No program can be started. -/
def none : Programs := fun _ => Option.none

def hasNul (text : String) : Bool := text.toList.contains '\x00'

/-- Why a program that is not known cannot be started. A name with a slash is the path of a file,
and no file of the tree may be run. -/
def startError (tree : FileTree) (name : String) (args : List String) : String :=
  if hasNul name || args.any hasNul then "nul byte found in provided data"
  else if name.toList.contains '/' then
    match tree.find ⟨name⟩ with
    | .ok _ => OsError.notPermitted.message
    | .error e => e.message
  else OsError.notFound.message

/-- Starts a program and waits for it to succeed. -/
def start (programs : Programs) (name : String) (args : List String) : Disk Unit := do
  match programs name with
  | .none =>
    throw (.formatter ("failed to start " ++ name ++ ": " ++ startError (← Disk.files) name args))
  | some run =>
    let (status, tree) := run args (← Disk.files)
    set tree
    if status ≠ .success then throw (.formatter status.message)

/-- Runs a command over files, unless there are none. -/
def format (programs : Programs) (command : List String) (files : List Path) : Disk Unit := do
  match command with
  | [] => throw (.formatter "formatter command is empty")
  | name :: args => if !files.isEmpty then programs.start name (args ++ files.map Path.text)

end Programs

/-- Formats files with a command. Nothing is done if there is none. -/
def formatFiles (programs : Programs) (command : List String) (files : List Path) : Disk Unit :=
  if command.isEmpty then return else programs.format command files

end RpcStubs
