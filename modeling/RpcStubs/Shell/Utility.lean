import RpcStubs.Program

/-!
# Utilities

Small programs that read and write text.
-/

namespace RpcStubs.Shell

/-- What a utility prints, its exit code, and the files after it. -/
structure Printed where
  text : String
  code : Nat
  tree : FileTree

/-- A utility takes its arguments and its input. -/
abbrev Utility := List String → String → FileTree → Printed

def silent (code : Nat) : Utility := fun _ _ tree => ⟨"", code, tree⟩

/-- Escapes by a backslash in printed text. -/
def unescape : List Char → List Char
  | '\\' :: 'n' :: cs => '\n' :: unescape cs
  | '\\' :: 't' :: cs => '\t' :: unescape cs
  | '\\' :: 'r' :: cs => '\r' :: unescape cs
  | '\\' :: '\\' :: cs => '\\' :: unescape cs
  | c :: cs => c :: unescape cs
  | [] => []

def echo : Utility := fun args _ tree =>
  let (newline, args) :=
    match args with
    | "-n" :: rest => ("", rest)
    | args => ("\n", args)
  ⟨String.ofList (unescape (" ".intercalate args).toList) ++ newline, 0, tree⟩

/-- Fills the places of a format once, and gives the arguments that are left. -/
def fill : List Char → List String → List Char × List String
  | '%' :: '%' :: cs, args =>
    let (text, args) := fill cs args
    ('%' :: text, args)
  | '%' :: c :: cs, args =>
    if c = 's' || c = 'd' || c = 'b' then
      let missing := if c = 'd' then "0" else ""
      let (text, rest) := fill cs args.tail
      ((args.headD missing).toList ++ text, rest)
    else
      let (text, args) := fill cs args
      ('%' :: c :: text, args)
  | c :: cs, args =>
    let (text, args) := fill cs args
    (c :: text, args)
  | [], args => ([], args)

/-- Fills a format as often as there are arguments for. -/
def fillAll (format : List Char) : Nat → List String → List Char
  | 0, _ => []
  | fuel + 1, args =>
    let (text, rest) := fill format args
    if rest.isEmpty || rest.length = args.length then text else text ++ fillAll format fuel rest

def printf : Utility := fun args _ tree =>
  match args with
  | [] => ⟨"", 2, tree⟩
  | format :: args =>
    ⟨String.ofList (fillAll (unescape format.toList) (args.length + 1) args), 0, tree⟩

def cat : Utility := fun args input tree =>
  if args.isEmpty then ⟨input, 0, tree⟩
  else
    args.foldl
      (fun p arg =>
        if arg = "-" then { p with text := p.text ++ input }
        else
          match tree.read ⟨arg⟩ with
          | .ok text => { p with text := p.text ++ text }
          | .error _ => { p with code := 1 })
      ⟨"", 0, tree⟩

/-- Changes the files for each argument that is no option. -/
def onEach (change : FileTree → Path → Except OsError FileTree) : Utility := fun args _ tree =>
  (args.filter (fun arg => arg.toList.head? != some '-')).foldl
    (fun p arg =>
      match change p.tree ⟨arg⟩ with
      | .ok tree => { p with tree := tree }
      | .error _ => { p with code := 1 })
    ⟨"", 0, tree⟩

/-- Makes a file unless there is something. -/
def touchFile (tree : FileTree) (p : Path) : Except OsError FileTree :=
  match tree.find p with
  | .ok _ => .ok tree
  | .error _ => tree.write p ""

def removeFile (recursive force : Bool) (tree : FileTree) (p : Path) : Except OsError FileTree :=
  match tree.find p with
  | .ok (place, entry) =>
    if entry.isDirectory && !recursive then .error .isDirectory else .ok (tree.remove place)
  | .error e => if force then .ok tree else .error e

def hasOption (c : Char) (args : List String) : Bool :=
  args.any (fun arg => arg.toList.head? == some '-' && arg.toList.contains c)

def rm : Utility := fun args input tree =>
  onEach (removeFile (hasOption 'r' args) (hasOption 'f' args)) args input tree

def mkdir : Utility := fun args input tree =>
  let make := if hasOption 'p' args then FileTree.makeDirectories else FileTree.makeDirectory
  onEach make args input tree

/-- Where a file goes that is copied to a path, which may be a directory. -/
def destination (tree : FileTree) (source target : Path) : Path :=
  if tree.isDirectory target then target.join (source.fileName?.getD "") else target

/-- Copies a file, and removes it afterwards if it is moved. -/
def copy (move : Bool) : Utility := fun args _ tree =>
  match args.filter (fun arg => arg.toList.head? != some '-') with
  | [source, target] =>
    match tree.find ⟨source⟩ with
    | .ok (place, .file content) =>
      match tree.writeBytes (destination tree ⟨source⟩ ⟨target⟩) content with
      | .ok after => ⟨"", 0, if move then after.remove place else after⟩
      | .error _ => ⟨"", 1, tree⟩
    | _ => ⟨"", 1, tree⟩
  | _ => ⟨"", 1, tree⟩

/-! ## Tests -/

def compareNumbers (a b : String) (f : Int → Int → Bool) : Bool :=
  match a.toInt?, b.toInt? with
  | some m, some n => f m n
  | _, _ => false

def holds (tree : FileTree) : List String → Bool
  | [] => false
  | "!" :: args => !holds tree args
  | [s] => !s.isEmpty
  | ["-n", s] => !s.isEmpty
  | ["-z", s] => s.isEmpty
  | ["-f", p] => tree.isFile ⟨p⟩
  | ["-d", p] => tree.isDirectory ⟨p⟩
  | ["-e", p] => tree.isFile ⟨p⟩ || tree.isDirectory ⟨p⟩
  | ["-s", p] =>
    match tree.readBytes ⟨p⟩ with
    | .ok content => content.size != 0
    | .error _ => false
  | [a, "=", b] => a == b
  | [a, "!=", b] => a != b
  | [a, "-eq", b] => compareNumbers a b (· == ·)
  | [a, "-ne", b] => compareNumbers a b (· != ·)
  | [a, "-lt", b] => compareNumbers a b (· < ·)
  | [a, "-le", b] => compareNumbers a b (· ≤ ·)
  | [a, "-gt", b] => compareNumbers a b (· > ·)
  | [a, "-ge", b] => compareNumbers a b (· ≥ ·)
  | _ => false

def test : Utility := fun args _ tree => ⟨"", if holds tree args then 0 else 1, tree⟩

/-- The test between brackets. -/
def bracket : Utility := fun args input tree =>
  if args.getLast? = some "]" then test args.dropLast input tree else ⟨"", 2, tree⟩

def utilities : List (String × Utility) := [
  ("true", silent 0), ("false", silent 1), ("echo", echo), ("printf", printf), ("cat", cat),
  ("touch", onEach touchFile), ("rm", rm), ("mkdir", mkdir), ("cp", copy false),
  ("mv", copy true), ("test", test), ("[", bracket)]

def utility? (name : String) : Option Utility :=
  (utilities.find? (·.1 == name)).map (·.2)

end RpcStubs.Shell
