import RpcStubs.Path

/-!
# Trees of files

Files and directories by the names on their way from the root, seen from a working directory.
Each operation fails for the same reasons for which an operating system refuses it.
-/

namespace RpcStubs

/-- The names from the root to a place. -/
abbrev Place := List String

inductive Entry where
  | directory
  | file (content : ByteArray)

namespace Entry

def isDirectory : Entry → Bool
  | directory => true
  | file _ => false

def isFile : Entry → Bool
  | directory => false
  | file _ => true

end Entry

structure FileTree where
  /-- Everything below the root, in the order of places. -/
  entries : List (Place × Entry)
  /-- Where relative paths begin. -/
  cwd : Place

/-- Why an operation on a path is refused. -/
inductive OsError where
  | notFound
  | notDirectory
  | isDirectory
  | fileExists
  | nameTooLong
  | notPermitted
  | nulInPath
  | invalidText
  deriving DecidableEq, Repr

def OsError.message : OsError → String
  | notFound => "No such file or directory (os error 2)"
  | notDirectory => "Not a directory (os error 20)"
  | isDirectory => "Is a directory (os error 21)"
  | fileExists => "File exists (os error 17)"
  | nameTooLong => "File name too long (os error 36)"
  | notPermitted => "Permission denied (os error 13)"
  | nulInPath => "file name contained an unexpected NUL byte"
  | invalidText => "stream did not contain valid UTF-8"

namespace FileTree

/-- Order of places: a directory comes before what it holds, and names are in increasing
order. -/
def cmpPlace : Place → Place → Ordering
  | [], [] => .eq
  | [], _ :: _ => .lt
  | _ :: _, [] => .gt
  | a :: as, b :: bs => (compare a b).then (cmpPlace as bs)

/-- The root is a directory that is always there. -/
def get? (t : FileTree) (place : Place) : Option Entry :=
  if place.isEmpty then some .directory else (t.entries.find? (·.1 == place)).map (·.2)

def setEntry (place : Place) (entry : Entry) : List (Place × Entry) → List (Place × Entry)
  | [] => [(place, entry)]
  | (other, old) :: rest =>
    match cmpPlace place other with
    | .lt => (place, entry) :: (other, old) :: rest
    | .eq => (place, entry) :: rest
    | .gt => (other, old) :: setEntry place entry rest

def set (t : FileTree) (place : Place) (entry : Entry) : FileTree :=
  { t with entries := setEntry place entry t.entries }

/-- Removes what is at a place and below it. -/
def remove (t : FileTree) (place : Place) : FileTree :=
  { t with entries := t.entries.filter (fun (other, _) => !place.isPrefixOf other) }

/-- The path that leads from the root to a place. -/
def pathOf (place : Place) : Path := ⟨"/" ++ "/".intercalate place⟩

/-! ## Finding places -/

/-- Where a path leads. -/
inductive Target where
  | present (place : Place) (entry : Entry)
  /-- Nothing is there, but the directory around it exists. -/
  | vacant (place : Place) (slash : Bool)

/-- One step on the way, from a directory. -/
def enter (t : FileTree) (place : Place) (piece : List Char) : Except OsError Target :=
  if piece.isEmpty || piece = ['.'] then .ok (.present place .directory)
  else if piece = ['.', '.'] then .ok (.present place.dropLast .directory)
  else
    let name := String.ofList piece
    if 255 < name.utf8ByteSize then .error .nameTooLong
    else
      let child := place ++ [name]
      match t.get? child with
      | some entry => .ok (.present child entry)
      | none => .ok (.vacant child false)

/-- The rest of a way. Only slashes may follow what is missing. -/
def follow (t : FileTree) : Target → List (List Char) → Except OsError Target
  | target, [] => .ok target
  | .present place .directory, piece :: pieces =>
    match t.enter place piece with
    | .ok target => follow t target pieces
    | .error e => .error e
  | .present _ (.file _), _ :: _ => .error .notDirectory
  | .vacant place _, piece :: pieces =>
    if piece.isEmpty then follow t (.vacant place true) pieces else .error .notFound

def resolve (t : FileTree) (p : Path) : Except OsError Target :=
  if p.text.toList.contains '\x00' then .error .nulInPath
  else if p.text.isEmpty then .error .notFound
  else if 4096 ≤ p.text.utf8ByteSize then .error .nameTooLong
  else
    match t.get? t.cwd with
    | none => .error .notFound
    | some entry =>
      let start : Target := if p.isAbsolute then .present [] .directory else .present t.cwd entry
      t.follow start p.pieces

/-- What is at the end of a path. -/
def find (t : FileTree) (p : Path) : Except OsError (Place × Entry) :=
  match t.resolve p with
  | .ok (.present place entry) => .ok (place, entry)
  | .ok (.vacant ..) => .error .notFound
  | .error e => .error e

def isDirectory (t : FileTree) (p : Path) : Bool :=
  match t.find p with
  | .ok (_, entry) => entry.isDirectory
  | .error _ => false

def isFile (t : FileTree) (p : Path) : Bool :=
  match t.find p with
  | .ok (_, entry) => entry.isFile
  | .error _ => false

/-- The path from the root, without detours. -/
def canonical (t : FileTree) (p : Path) : Except OsError Path :=
  (t.find p).map (fun (place, _) => pathOf place)

/-! ## Reading and writing -/

def readBytes (t : FileTree) (p : Path) : Except OsError ByteArray :=
  match t.find p with
  | .ok (_, .file content) => .ok content
  | .ok (_, .directory) => .error .isDirectory
  | .error e => .error e

/-- The text of a file. -/
def read (t : FileTree) (p : Path) : Except OsError String :=
  match t.readBytes p with
  | .error e => .error e
  | .ok content =>
    match String.fromUTF8? content with
    | some text => .ok text
    | none => .error .invalidText

/-- Replaces the content of a file, or makes a new one in a directory that exists. -/
def writeBytes (t : FileTree) (p : Path) (content : ByteArray) : Except OsError FileTree :=
  match t.resolve p with
  | .ok (.present place (.file _)) => .ok (t.set place (.file content))
  | .ok (.present _ .directory) => .error .isDirectory
  | .ok (.vacant place false) => .ok (t.set place (.file content))
  | .ok (.vacant _ true) => .error .isDirectory
  | .error e => .error e

def write (t : FileTree) (p : Path) (text : String) : Except OsError FileTree :=
  t.writeBytes p text.toUTF8

/-- Makes a directory in one that exists. -/
def makeDirectory (t : FileTree) (p : Path) : Except OsError FileTree :=
  match t.resolve p with
  | .ok (.present ..) => .error .fileExists
  | .ok (.vacant place _) => .ok (t.set place .directory)
  | .error e => .error e

/-- The tree as it is if the directory exists, else the error. -/
def unlessDirectory (t : FileTree) (p : Path) (e : OsError) : Except OsError FileTree :=
  if t.isDirectory p then .ok t else .error e

/-- Makes a directory and those above it, of which there are at most `fuel`. -/
def makeDirectoriesUpTo : Nat → FileTree → Path → Except OsError FileTree
  | 0, _, _ => .error .notFound
  | fuel + 1, t, p =>
    if p.text.isEmpty then .ok t
    else
      match t.makeDirectory p with
      | .ok t => .ok t
      | .error .notFound =>
        match p.parent? with
        | none => .error .notFound
        | some parent =>
          match makeDirectoriesUpTo fuel t parent with
          | .error e => .error e
          | .ok t =>
            match t.makeDirectory p with
            | .ok t => .ok t
            | .error e => t.unlessDirectory p e
      | .error e => t.unlessDirectory p e

/-- Makes a directory and all that are missing above it. -/
def makeDirectories (t : FileTree) (p : Path) : Except OsError FileTree :=
  makeDirectoriesUpTo (p.components.length + 1) t p

/-! ## Walking -/

/-- The files below a place, each by its names from there. A directory is walked before what
follows it. -/
def filesBelow (t : FileTree) (place : Place) : List Place :=
  t.entries.filterMap (fun (other, entry) =>
    if entry.isFile && place.isPrefixOf other && place.length < other.length then
      some (other.drop place.length)
    else none)

/-- The files below a directory, as paths that begin with its own. -/
def walk (t : FileTree) (p : Path) : List Path :=
  match t.find p with
  | .ok (place, .directory) => (t.filesBelow place).map (·.foldl Path.join p)
  | _ => []

/-- A tree that holds nothing but a directory, which is also the working directory. -/
def ofRoot (root : Place) : FileTree where
  entries := (List.range root.length).map (fun n => (root.take (n + 1), .directory))
  cwd := root

/-- The same tree, seen from another directory. -/
def within (t : FileTree) (p : Path) : Option FileTree :=
  match t.find p with
  | .ok (place, .directory) => some { t with cwd := place }
  | _ => none

end FileTree

end RpcStubs
