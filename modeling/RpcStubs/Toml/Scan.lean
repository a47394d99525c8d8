/-!
# Scanning a configuration text
-/

namespace RpcStubs.Toml

/-- A scanner takes characters from the front of a text. -/
abbrev Scan := StateT (List Char) Option

def fail {α : Type} : Scan α := fun _ => none

def peek : Scan (Option Char) := do return (← get).head?

def atEnd : Scan Bool := do return (← get).isEmpty

def drop (count : Nat) : Scan Unit := modify (·.drop count)

/-- Does the text go on with these characters? -/
def nextIs (cs : List Char) : Scan Bool := do return cs.isPrefixOf (← get)

/-- Takes these characters if they come next. -/
def accept (cs : List Char) : Scan Bool := do
  if ← nextIs cs then
    drop cs.length
    return true
  else return false

def expect (cs : List Char) : Scan Unit := do
  if ← accept cs then return else fail

/-- Takes the longest run of characters of a class. -/
def takeWhile (p : Char → Bool) : Scan (List Char) := fun cs =>
  some (cs.takeWhile p, cs.dropWhile p)

/-! ## Blanks and comments -/

def isBlank (c : Char) : Bool := c = ' ' || c = '\t'

def blanks : Scan Unit := do
  let _ ← takeWhile isBlank

/-- Characters that may stand in a line. -/
def isLineChar (c : Char) : Bool := c = '\t' || (0x20 ≤ c.toNat && c.toNat ≠ 0x7f)

def comment : Scan Unit := do
  if ← accept ['#'] then
    let _ ← takeWhile isLineChar

/-- Takes the end of a line, if it comes next. -/
def newline? : Scan Bool := do
  if ← accept ['\n'] then return true else accept ['\r', '\n']

/-- What may follow on a line: blanks and a comment, and the end of the line or text. -/
def lineEnd : Scan Unit := do
  blanks
  comment
  if ← newline? then return
  else if ← atEnd then return
  else fail

/-- Blanks, comments and ends of lines, at most `fuel` lines of them. -/
def blankLines : Nat → Scan Unit
  | 0 => return
  | fuel + 1 => do
    blanks
    comment
    if ← newline? then blankLines fuel

def allBlanks : Scan Unit := do blankLines ((← get).length + 1)

end RpcStubs.Toml
