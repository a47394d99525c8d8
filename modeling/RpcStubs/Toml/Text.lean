import RpcStubs.Toml.Scan

/-!
# Strings and keys of a configuration text
-/

namespace RpcStubs.Toml

/-! ## Escapes -/

def hexValue? (c : Char) : Option Nat :=
  if '0' ≤ c ∧ c ≤ '9' then some (c.toNat - '0'.toNat)
  else if 'a' ≤ c ∧ c ≤ 'f' then some (10 + c.toNat - 'a'.toNat)
  else if 'A' ≤ c ∧ c ≤ 'F' then some (10 + c.toNat - 'A'.toNat)
  else none

/-- The value of exactly `count` hexadecimal digits. -/
def hexDigits (count : Nat) : Scan Nat := fun cs =>
  let digits := cs.take count
  if digits.length < count then none
  else
    (digits.mapM hexValue?).map (fun values =>
      (values.foldl (fun n d => 16 * n + d) 0, cs.drop count))

/-- The character of a code point, which must not be a surrogate. -/
def scalar (n : Nat) : Scan Char :=
  if n < 0xd800 ∨ (0xdfff < n ∧ n ≤ 0x10ffff) then return Char.ofNat n else fail

/-- What follows a backslash. -/
def escape : Scan Char := do
  match ← peek with
  | none => fail
  | some c =>
    drop 1
    if c = 'b' then return '\x08'
    else if c = 't' then return '\t'
    else if c = 'n' then return '\n'
    else if c = 'f' then return '\x0c'
    else if c = 'r' then return '\r'
    else if c = '"' then return '"'
    else if c = '\\' then return '\\'
    else if c = 'u' then scalar (← hexDigits 4)
    else if c = 'U' then scalar (← hexDigits 8)
    else fail

/-! ## Strings on one line -/

/-- The characters of a string up to its closing quote, of which there are at most `fuel`. -/
def basicChars : Nat → Scan (List Char)
  | 0 => fail
  | fuel + 1 => do
    match ← peek with
    | none => fail
    | some c =>
      drop 1
      if c = '"' then return []
      else if c = '\\' then
        let d ← escape
        let rest ← basicChars fuel
        return d :: rest
      else if isLineChar c then
        let rest ← basicChars fuel
        return c :: rest
      else fail

/-- A string behind its opening quote. -/
def basicString : Scan String := do
  return String.ofList (← basicChars ((← get).length + 1))

/-- A string without escapes, behind its opening quote. -/
def literalString : Scan String := do
  let chars ← takeWhile (fun c => isLineChar c && c != '\'')
  expect ['\'']
  return String.ofList chars

/-! ## Strings over several lines -/

/-- Blanks and ends of lines behind a backslash at the end of a line. -/
def skipBreaks : Nat → Scan Unit
  | 0 => return
  | fuel + 1 => do
    blanks
    if ← newline? then skipBreaks fuel

/-- A backslash at the end of a line. Does one come next? It is taken with what it skips. -/
def lineBreak? : Scan Bool := fun cs =>
  match (do
      blanks
      newline? : Scan Bool) cs with
  | some (true, _) => ((skipBreaks (cs.length + 1)).map (fun _ => true)) cs
  | _ => some (false, cs)

/-- Up to two quotes may stand before the three that close a string. -/
def closing? (quote : Char) : Scan (Option (List Char)) := do
  let three := [quote, quote, quote]
  if ← accept (quote :: quote :: three) then return some [quote, quote]
  else if ← accept (quote :: three) then return some [quote]
  else if ← accept three then return some []
  else return none

/-- The characters of a string of several lines. An end of a line is read as a line feed. -/
def multilineChars (escapes : Bool) (quote : Char) : Nat → Scan (List Char)
  | 0 => fail
  | fuel + 1 => do
    match ← closing? quote with
    | some quotes => return quotes
    | none =>
      if ← newline? then
        let rest ← multilineChars escapes quote fuel
        return '\n' :: rest
      else
        match ← peek with
        | none => fail
        | some c =>
          drop 1
          if c = '\\' && escapes then
            if ← lineBreak? then multilineChars escapes quote fuel
            else
              let d ← escape
              let rest ← multilineChars escapes quote fuel
              return d :: rest
          else if isLineChar c then
            let rest ← multilineChars escapes quote fuel
            return c :: rest
          else fail

/-- A string of several lines behind its opening quotes. An end of a line there is left out. -/
def multilineString (escapes : Bool) (quote : Char) : Scan String := do
  let _ ← newline?
  return String.ofList (← multilineChars escapes quote ((← get).length + 1))

/-- Any string, of which the first quote comes next. -/
def string : Scan String := do
  if ← accept ['"', '"', '"'] then multilineString true '"'
  else if ← accept ['"'] then basicString
  else if ← accept ['\'', '\'', '\''] then multilineString false '\''
  else
    expect ['\'']
    literalString

/-! ## Keys -/

def isKeyChar (c : Char) : Bool := c.isAlphanum || c = '_' || c = '-'

/-- A key without dots. -/
def simpleKey : Scan String := do
  if ← accept ['"'] then basicString
  else if ← accept ['\''] then literalString
  else
    let chars ← takeWhile isKeyChar
    if chars.isEmpty then fail else return String.ofList chars

/-- Nesting that a text may not reach. -/
def depthLimit : Nat := 80

/-- Keys between dots, with blanks around them. -/
def keysUpTo : Nat → Scan (List String)
  | 0 => fail
  | fuel + 1 => do
    blanks
    let first ← simpleKey
    blanks
    if ← accept ['.'] then
      let rest ← keysUpTo fuel
      return first :: rest
    else return [first]

/-- A key as the tables on its way and its last part. -/
def key : Scan (List String × String) := do
  let keys ← keysUpTo ((← get).length + 1)
  if depthLimit ≤ keys.length then fail
  match keys.getLast? with
  | some last => return (keys.dropLast, last)
  | none => fail

end RpcStubs.Toml
