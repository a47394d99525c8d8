/-!
# Scripts

The part of the shell's language that formatter commands need: lists of commands with
redirections and pipes, conditions, and loops over words.
-/

namespace RpcStubs.Shell

/-! ## Words -/

/-- A piece of a word. -/
inductive Segment where
  | text (s : String)
  /-- The value of a variable. Unless it is quoted, it is split at blanks. -/
  | value (name : String) (quoted : Bool)
  deriving DecidableEq, Repr

abbrev Word := List Segment

inductive Token where
  | word (w : Word)
  | operator (op : String)
  deriving DecidableEq, Repr

/-- A reserved word counts only if it is not quoted. -/
def Token.isWord (text : String) : Token → Bool
  | word [.text s] => s == text
  | _ => false

def isNameStart (c : Char) : Bool := c.isAlpha || c = '_'

def isNameChar (c : Char) : Bool := c.isAlphanum || c = '_'

/-- The name of a variable behind its dollar sign. -/
def variableName? (cs : List Char) : Option (String × List Char) :=
  match cs with
  | '{' :: rest =>
    let name := rest.takeWhile (· != '}')
    match rest.drop name.length with
    | _ :: after => if name.isEmpty then none else some (String.ofList name, after)
    | [] => none
  | c :: rest =>
    if "@*#$?0123456789".toList.contains c then some (String.singleton c, rest)
    else if isNameStart c then
      let name := cs.takeWhile isNameChar
      some (String.ofList name, cs.drop name.length)
    else none
  | [] => none

def addText (s : String) : Word → Word
  | .text t :: w => .text (s ++ t) :: w
  | w => .text s :: w

/-- The inside of double quotes, and what follows them. -/
def quotedWord : Nat → List Char → Option (Word × List Char)
  | 0, _ => none
  | _, [] => none
  | fuel + 1, c :: cs =>
    if c = '"' then some ([.text ""], cs)
    else if c = '\\' then
      match cs with
      | d :: rest =>
        if ['$', '`', '"', '\\'].contains d then
          (quotedWord fuel rest).map (fun (w, r) => (addText (String.singleton d) w, r))
        else if d = '\n' then quotedWord fuel rest
        else
          (quotedWord fuel rest).map (fun (w, r) => (addText (String.ofList ['\\', d]) w, r))
      | [] => none
    else if c = '$' then
      match variableName? cs with
      | some (name, rest) =>
        (quotedWord fuel rest).map (fun (w, r) => (.value name true :: w, r))
      | none => (quotedWord fuel cs).map (fun (w, r) => (addText "$" w, r))
    else (quotedWord fuel cs).map (fun (w, r) => (addText (String.singleton c) w, r))

/-- Characters that end a word. -/
def endsWord (c : Char) : Bool := " \t\n;&|<>()".toList.contains c

/-- A word up to its end, and what follows. -/
def word? : Nat → List Char → Option (Word × List Char)
  | 0, _ => none
  | _, [] => some ([], [])
  | fuel + 1, c :: cs =>
    if endsWord c then some ([], c :: cs)
    else if c = '\'' then
      let text := cs.takeWhile (· != '\'')
      match cs.drop text.length with
      | _ :: rest => (word? fuel rest).map (fun (w, r) => (.text (String.ofList text) :: w, r))
      | [] => none
    else if c = '"' then
      match quotedWord fuel cs with
      | some (inner, rest) => (word? fuel rest).map (fun (w, r) => (inner ++ w, r))
      | none => none
    else if c = '\\' then
      match cs with
      | '\n' :: rest => word? fuel rest
      | d :: rest => (word? fuel rest).map (fun (w, r) => (.text (String.singleton d) :: w, r))
      | [] => some ([.text "\\"], [])
    else if c = '$' then
      match variableName? cs with
      | some (name, rest) => (word? fuel rest).map (fun (w, r) => (.value name false :: w, r))
      | none => (word? fuel cs).map (fun (w, r) => (addText "$" w, r))
    else (word? fuel cs).map (fun (w, r) => (addText (String.singleton c) w, r))

/-! ## Tokens -/

/-- Operators, longer ones first. -/
def operators : List String := ["&&", "||", ">>", ">&", ";", "&", "|", "<", ">", "(", ")", "\n"]

def operator? (cs : List Char) : Option (String × List Char) :=
  match operators.find? (fun op => op.toList.isPrefixOf cs) with
  | some op => some (op, cs.drop op.length)
  | none => none

def tokensUpTo : Nat → List Char → Option (List Token)
  | 0, _ => none
  | _, [] => some []
  | fuel + 1, c :: cs =>
    if c = ' ' || c = '\t' then tokensUpTo fuel cs
    else if c = '#' then tokensUpTo fuel (cs.dropWhile (· != '\n'))
    else
      match operator? (c :: cs) with
      | some (op, rest) => (tokensUpTo fuel rest).map (.operator op :: ·)
      | none =>
        match word? fuel (c :: cs) with
        | some (w, rest) => (tokensUpTo fuel rest).map (.word w :: ·)
        | none => none

def tokens (script : String) : Option (List Token) :=
  tokensUpTo (2 * script.length + 2) script.toList

/-! ## Commands -/

inductive RedirectKind where
  | output
  | append
  | input
  | ignored
  deriving DecidableEq, Repr

structure Redirect where
  kind : RedirectKind
  target : Word
  deriving DecidableEq, Repr

inductive Command where
  | simple (words : List Word) (redirects : List Redirect)
  | skip
  | sequence (first second : Command)
  | both (first second : Command)
  | either (first second : Command)
  | negate (command : Command)
  | pipe (first second : Command)
  | condition (test yes no : Command)
  /-- A loop over words, or over all arguments. -/
  | loop (name : String) (words : Option (List Word)) (body : Command)
  deriving Repr

abbrev Parse := StateT (List Token) Option

def fail {α : Type} : Parse α := fun _ => none

def nextIsOperator (op : String) : Parse Bool := do
  return (← get).head? == some (.operator op)

def nextIsWord (text : String) : Parse Bool := do
  match (← get).head? with
  | some t => return t.isWord text
  | none => return false

def drop : Parse Unit := modify (·.drop 1)

def operator (op : String) : Parse Unit := do
  if ← nextIsOperator op then drop else fail

def reserved (text : String) : Parse Unit := do
  if ← nextIsWord text then drop else fail

def newlines : Parse Unit :=
  modify (·.dropWhile (· == .operator "\n"))

/-- Separators between commands. -/
def separators : Parse Unit :=
  modify (·.dropWhile (fun t => t == .operator "\n" || t == .operator ";" || t == .operator "&"))

def takeWord : Parse Word := do
  match ← get with
  | .word w :: rest =>
    set rest
    return w
  | _ => fail

/-- Words that end a list of commands. -/
def closers : List String := ["then", "elif", "else", "fi", "do", "done", "\x7d"]

def atCloser : Parse Bool := do
  match ← get with
  | [] => return true
  | t :: _ => return closers.any t.isWord || t == .operator ")"

/-- Words of a loop up to a separator. -/
def wordsUpTo : Nat → Parse (List Word)
  | 0 => return []
  | fuel + 1 => do
    match ← get with
    | .word w :: rest =>
      set rest
      let ws ← wordsUpTo fuel
      return w :: ws
    | _ => return []

/-- The number of a stream before a redirection, such as `2` in `2>`. Only standard output is
redirected. -/
def isErrorStream : Word → Bool
  | [.text s] => s == "2"
  | _ => false

/-- The words and redirections of a simple command. -/
def partsUpTo : Nat → Parse (List Word × List Redirect)
  | 0 => fail
  | fuel + 1 => do
    match ← get with
    | .word w :: .operator op :: .word target :: rest =>
      if isErrorStream w && (op = ">" || op = ">>" || op = ">&") then
        set rest
        partsUpTo fuel
      else
        set (.operator op :: .word target :: rest)
        let (ws, rs) ← partsUpTo fuel
        return (w :: ws, rs)
    | .word w :: rest =>
      set rest
      let (ws, rs) ← partsUpTo fuel
      return (w :: ws, rs)
    | .operator op :: .word target :: rest =>
      let kind? : Option RedirectKind :=
        if op = ">" then some .output
        else if op = ">>" then some .append
        else if op = "<" then some .input
        else if op = ">&" then some .ignored
        else none
      match kind? with
      | some kind =>
        set rest
        let (ws, rs) ← partsUpTo fuel
        return (ws, ⟨kind, target⟩ :: rs)
      | none => return ([], [])
    | _ => return ([], [])

def simpleCommand : Parse Command := do
  let (words, redirects) ← partsUpTo ((← get).length + 1)
  if words.isEmpty && redirects.isEmpty then fail
  return .simple words redirects

def nameOf? : Word → Option String
  | [.text s] => some s
  | _ => none

/-- The readers of lists and of single commands, nested at most so deep. -/
structure Readers where
  list : Parse Command
  command : Parse Command

def ifTail (r : Readers) : Nat → Parse Command
  | 0 => fail
  | fuel + 1 => do
    let test ← r.list
    reserved "then"
    let yes ← r.list
    if ← nextIsWord "elif" then
      drop
      let no ← ifTail r fuel
      return .condition test yes no
    else if ← nextIsWord "else" then
      drop
      let no ← r.list
      reserved "fi"
      return .condition test yes no
    else
      reserved "fi"
      return .condition test yes .skip

def forTail (r : Readers) : Parse Command := do
  match nameOf? (← takeWord) with
  | none => fail
  | some name =>
    newlines
    let words ←
      if ← nextIsWord "in" then do
        drop
        let words ← wordsUpTo (← get).length
        pure (some words)
      else pure none
    separators
    reserved "do"
    let body ← r.list
    reserved "done"
    return .loop name words body

def commandWith (r : Readers) : Parse Command := do
  if ← nextIsWord "if" then
    drop
    ifTail r ((← get).length + 1)
  else if ← nextIsWord "for" then
    drop
    forTail r
  else if ← nextIsWord "\x7b" then
    drop
    let body ← r.list
    reserved "\x7d"
    return body
  else if ← nextIsOperator "(" then
    drop
    let body ← r.list
    operator ")"
    return body
  else if ← nextIsWord "!" then
    drop
    let c ← r.command
    return .negate c
  else simpleCommand

def pipeline (r : Readers) : Nat → Parse Command
  | 0 => fail
  | fuel + 1 => do
    let first ← commandWith r
    if ← nextIsOperator "|" then
      drop
      newlines
      let second ← pipeline r fuel
      return .pipe first second
    else return first

/-- Commands joined by conditions, from left to right. -/
def conditionals (r : Readers) : Nat → Command → Parse Command
  | 0, first => return first
  | fuel + 1, first => do
    if ← nextIsOperator "&&" then
      drop
      newlines
      let second ← pipeline r ((← get).length + 1)
      conditionals r fuel (.both first second)
    else if ← nextIsOperator "||" then
      drop
      newlines
      let second ← pipeline r ((← get).length + 1)
      conditionals r fuel (.either first second)
    else return first

def listWith (r : Readers) : Nat → Parse Command
  | 0 => fail
  | fuel + 1 => do
    separators
    if ← atCloser then return .skip
    let first ← pipeline r ((← get).length + 1)
    let first ← conditionals r (← get).length first
    let rest ← listWith r fuel
    return .sequence first rest

def readers : Nat → Readers
  | 0 => ⟨fail, fail⟩
  | depth + 1 =>
    let inner := readers depth
    { list := do listWith inner ((← get).length + 1)
      command := commandWith inner }

/-- The commands of a script, if it is well formed. -/
def parse? (script : String) : Option Command := do
  let ts ← tokens script
  let (command, rest) ← (readers (ts.length + 1)).list ts
  if rest.isEmpty then some command else none

end RpcStubs.Shell
