import RpcStubs.Shell.Syntax
import RpcStubs.Shell.Utility

/-!
# Running scripts
-/

namespace RpcStubs.Shell

/-- What a script can see and change. -/
structure Env where
  tree : FileTree
  /-- The name of the script, which is its argument of number zero. -/
  name : String
  args : List String
  bindings : List (String × String)
  /-- The code with which the last command ended. -/
  code : Nat

/-- The number of the process in which a script runs. -/
def processId : String := "4711"

namespace Env

def value (env : Env) (name : String) : String :=
  if name = "@" || name = "*" then " ".intercalate env.args
  else if name = "#" then toString env.args.length
  else if name = "$" then processId
  else if name = "?" then toString env.code
  else if name = "0" then env.name
  else
    match name.toNat? with
    | some n => (env.args[n - 1]?).getD ""
    | none => ((env.bindings.find? (·.1 == name)).map (·.2)).getD ""

def assign (env : Env) (name value : String) : Env :=
  { env with bindings := (name, value) :: env.bindings.filter (·.1 != name) }

end Env

/-! ## Expansion -/

/-- Words that are complete, in reverse, and one that may go on. -/
structure Fields where
  done : List String
  current : Option String

namespace Fields

def add (f : Fields) (s : String) : Fields := { f with current := some (f.current.getD "" ++ s) }

def close (f : Fields) : Fields := ⟨f.current.toList ++ f.done, none⟩

/-- Adds words, the first of which goes on with the current one. -/
def addAll (f : Fields) : List String → Fields
  | [] => f
  | s :: ss => ss.foldl (fun f s => f.close.add s) (f.add s)

def toList (f : Fields) : List String := f.close.done.reverse

end Fields

def isBlank (c : Char) : Bool := c = ' ' || c = '\t' || c = '\n'

/-- The parts of a text between blanks. -/
def split (s : String) : List String :=
  ((s.toList.splitOnP isBlank).filter (!·.isEmpty)).map String.ofList

def expandSegment (env : Env) (f : Fields) : Segment → Fields
  | .text s => f.add s
  | .value name true => if name = "@" then f.addAll env.args else f.add (env.value name)
  | .value name false =>
    let value := env.value name
    let f := if (value.toList.head?.map isBlank).getD false then f.close else f
    let f := f.addAll (split value)
    if (value.toList.getLast?.map isBlank).getD false then f.close else f

def expand (env : Env) (w : Word) : List String := (w.foldl (expandSegment env) ⟨[], none⟩).toList

/-! ## Commands -/

/-- The state after a command, what it printed, and the status if it ended the script. -/
structure Result where
  env : Env
  text : String
  ended : Option ExitStatus

def Result.withCode (env : Env) (text : String) (code : Nat) : Result :=
  ⟨{ env with code := code }, text, none⟩

def signalNumber? (name : String) : Option Nat :=
  let table : List (String × Nat) :=
    [("HUP", 1), ("INT", 2), ("QUIT", 3), ("ABRT", 6), ("KILL", 9), ("SEGV", 11), ("TERM", 15)]
  match name.toNat? with
  | some n => some n
  | none => (table.find? (fun (short, _) => short == name || "SIG" ++ short == name)).map (·.2)

/-- Sends a signal. Only the script itself can be hit. -/
def kill (env : Env) (args : List String) : Result :=
  let (signal, targets) :=
    match args with
    | "-s" :: name :: rest => (signalNumber? name, rest)
    | first :: rest =>
      match first.toList with
      | '-' :: name => (signalNumber? (String.ofList name), rest)
      | _ => (some 15, args)
    | [] => (none, [])
  match signal with
  | none => .withCode env "" 2
  | some n =>
    if n = 0 then .withCode env "" 0
    else if targets.contains processId then ⟨env, "", some (.signal n)⟩
    else .withCode env "" 1

/-- A command by its words, with the input it reads. -/
def runWords (env : Env) (input : String) : List String → Result
  | [] => .withCode env "" 0
  | name :: args =>
    if name = "exit" then
      let code :=
        match args with
        | [] => env.code
        | n :: _ => n.toNat?.getD 2
      ⟨env, "", some (.code (code % 256))⟩
    else if name = "kill" then kill env args
    else if name = ":" || name = "set" then .withCode env "" 0
    else if name = "shift" then
      if env.args.isEmpty then .withCode env "" 1
      else .withCode { env with args := env.args.drop 1 } "" 0
    else
      match utility? name with
      | some run =>
        let printed := run args input env.tree
        .withCode { env with tree := printed.tree } printed.text printed.code
      | none => .withCode env "" 127

/-- Splits off assignments in front of a command. -/
def assignment? : Word → Option (String × Word)
  | .text s :: rest =>
    let name := s.toList.takeWhile isNameChar
    match s.toList.drop name.length with
    | '=' :: value =>
      if (name.head?.map isNameStart).getD false then
        some (String.ofList name, .text (String.ofList value) :: rest)
      else none
    | _ => none
  | _ => none

def runAssignments (env : Env) : List Word → Env × List Word
  | [] => (env, [])
  | w :: ws =>
    match assignment? w with
    | some (name, value) => runAssignments (env.assign name ("".intercalate (expand env value))) ws
    | none => (env, w :: ws)

/-- The input of a command after its redirections. A file that cannot be read is a failure. -/
def inputOf (env : Env) (input : String) : List Redirect → Option String
  | [] => some input
  | r :: rs =>
    if r.kind = .input then
      match env.tree.read ⟨"".intercalate (expand env r.target)⟩ with
      | .ok text => inputOf env text rs
      | .error _ => none
    else inputOf env input rs

/-- Opens the files that a command writes to. The last one gets what it prints. -/
def openOutputs (env : Env) : List Redirect → Option Path → Option (Env × Option Path)
  | [], target => some (env, target)
  | r :: rs, target =>
    let path : Path := ⟨"".intercalate (expand env r.target)⟩
    match r.kind with
    | .output =>
      if path.text = "/dev/null" then openOutputs env rs (some path)
      else
        match env.tree.write path "" with
        | .ok tree => openOutputs { env with tree := tree } rs (some path)
        | .error _ => none
    | .append =>
      if path.text = "/dev/null" then openOutputs env rs (some path)
      else
        match touchFile env.tree path with
        | .ok tree => openOutputs { env with tree := tree } rs (some path)
        | .error _ => none
    | _ => openOutputs env rs target

/-- Adds text to the end of a file. -/
def appendTo (tree : FileTree) (path : Path) (text : String) : FileTree :=
  match tree.readBytes path with
  | .error _ => tree
  | .ok old =>
    match tree.writeBytes path (old ++ text.toUTF8) with
    | .ok tree => tree
    | .error _ => tree

def runSimple (env : Env) (input : String) (words : List Word) (redirects : List Redirect) :
    Result :=
  let (env, words) := runAssignments env words
  let words := words.flatMap (expand env)
  match inputOf env input redirects with
  | none => .withCode env "" 1
  | some input =>
    match openOutputs env redirects none with
    | none => .withCode env "" 1
    | some (env, target) =>
      let result := runWords env input words
      match target with
      | none => result
      | some path =>
        let tree := appendTo result.env.tree path result.text
        { result with env := { result.env with tree := tree }, text := "" }

/-- Runs a body once for each value of a variable. -/
def runEach (body : Env → Result) (name : String) (env : Env) : List String → Result
  | [] => ⟨env, "", none⟩
  | value :: values =>
    let r := body (env.assign name value)
    match r.ended with
    | some _ => r
    | none =>
      let s := runEach body name r.env values
      { s with text := r.text ++ s.text }

/-- Runs a command on an input. -/
def run (env : Env) (input : String) : Command → Result
  | .simple words redirects => runSimple env input words redirects
  | .skip => ⟨env, "", none⟩
  | .sequence first second =>
    let r := run env input first
    match r.ended with
    | some _ => r
    | none =>
      let s := run r.env input second
      { s with text := r.text ++ s.text }
  | .both first second =>
    let r := run env input first
    match r.ended with
    | some _ => r
    | none =>
      if r.env.code = 0 then
        let s := run r.env input second
        { s with text := r.text ++ s.text }
      else r
  | .either first second =>
    let r := run env input first
    match r.ended with
    | some _ => r
    | none =>
      if r.env.code = 0 then r
      else
        let s := run r.env input second
        { s with text := r.text ++ s.text }
  | .negate command =>
    let r := run env input command
    { r with env := { r.env with code := if r.env.code = 0 then 1 else 0 } }
  | .pipe first second =>
    let r := run env input first
    run { r.env with code := env.code } r.text second
  | .condition test yes no =>
    let r := run env input test
    match r.ended with
    | some _ => r
    | none =>
      let s :=
        if r.env.code = 0 then run r.env input yes else run { r.env with code := 0 } input no
      { s with text := r.text ++ s.text }
  | .loop name words body =>
    let values :=
      match words with
      | some ws => ws.flatMap (expand env)
      | none => env.args
    runEach (fun env => run env input body) name { env with code := 0 } values

/-! ## Programs -/

/-- Runs a script with the name and the arguments that follow it. -/
def runScript (script : String) (args : List String) (tree : FileTree) : ExitStatus × FileTree :=
  match parse? script with
  | none => (.code 2, tree)
  | some command =>
    let env : Env := ⟨tree, args.headD "sh", args.tail, [], 0⟩
    let r := run env "" command
    (r.ended.getD (.code r.env.code), r.env.tree)

/-- Runs the script that follows `-c`, or the one in a file. -/
def shell : Program := fun args tree =>
  match args with
  | "-c" :: script :: args => runScript script args tree
  | "-ec" :: script :: args => runScript script args tree
  | path :: args =>
    match tree.read ⟨path⟩ with
    | .ok script => runScript script (path :: args) tree
    | .error _ => (.code 127, tree)
  | [] => (.success, tree)

/-- A utility as a program without input. -/
def programOf (u : Utility) : Program := fun args tree =>
  let printed := u args "" tree
  (.code printed.code, printed.tree)

/-- Directories in which programs are found. -/
def programDirs : List String := ["/bin/", "/usr/bin/"]

/-- The name of a program without the directory it is found in. -/
def programName (name : String) : String :=
  match programDirs.find? (fun dir => dir.toList.isPrefixOf name.toList) with
  | some dir => String.ofList (name.toList.drop dir.length)
  | none => name

/-- The utilities and the shell itself. -/
def programs : Programs := fun name =>
  let name := programName name
  if name = "sh" then some shell else (utility? name).map programOf

end RpcStubs.Shell
