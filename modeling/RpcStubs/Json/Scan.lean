import RpcStubs.Decimal.Shortest
import RpcStubs.Json.Fault

/-!
# Scanning a document text
-/

namespace RpcStubs.Json

/-- A scanner takes characters from the front of a text. -/
abbrev Scan := StateT (List Char) (Except Fault)

def fault {α : Type} (cause : Cause) : Scan α := fun cs => .error ⟨cause, cs.length⟩

def isBlank (c : Char) : Bool := c = ' ' || c = '\n' || c = '\t' || c = '\r'

/-- The next character that is no blank. Blanks are taken, the character is not. -/
def peek : Scan (Option Char) := fun cs =>
  let rest := cs.dropWhile isBlank
  .ok (rest.head?, rest)

/-- The next character, blank or not, which is not taken. -/
def peekRaw : Scan (Option Char) := fun cs => .ok (cs.head?, cs)

/-- Takes a character. -/
def next : Scan (Option Char) := fun cs =>
  match cs with
  | c :: rest => .ok (some c, rest)
  | [] => .ok (none, [])

def drop : Scan Unit := do
  let _ ← next

/-- The letters that are left of a word. -/
def word : List Char → Scan Unit
  | [] => return
  | c :: cs => do
    match ← next with
    | none => fault .endInValue
    | some d => if c = d then word cs else fault .expectedIdent

/-! ## Strings -/

def hexValue? (c : Char) : Option Nat :=
  if '0' ≤ c ∧ c ≤ '9' then some (c.toNat - '0'.toNat)
  else if 'a' ≤ c ∧ c ≤ 'f' then some (10 + c.toNat - 'a'.toNat)
  else if 'A' ≤ c ∧ c ≤ 'F' then some (10 + c.toNat - 'A'.toNat)
  else none

/-- The value of four hexadecimal digits. -/
def hexValue4? (a b c d : Char) : Option Nat := do
  let a ← hexValue? a
  let b ← hexValue? b
  let c ← hexValue? c
  let d ← hexValue? d
  return 4096 * a + 256 * b + 16 * c + d

/-- The digits of a `\u` escape. A text of less than four bytes is too short. -/
def hexEscape : Scan Nat := fun cs =>
  let bytes := (cs.take 4).foldl (fun n c => n + c.utf8Size) 0
  if bytes < 4 then .error ⟨.endInString, 0⟩
  else
    match cs with
    | a :: b :: c :: d :: rest =>
      match hexValue4? a b c d with
      | some n => .ok (n, rest)
      | none => .error ⟨.invalidEscape, rest.length⟩
    | _ => .error ⟨.invalidEscape, 0⟩

def isHighSurrogate (n : Nat) : Bool := 0xd800 ≤ n && n ≤ 0xdbff

def isLowSurrogate (n : Nat) : Bool := 0xdc00 ≤ n && n ≤ 0xdfff

/-- Takes an expected character inside of a pair of surrogates. -/
def pairChar (c : Char) : Scan Unit := do
  match ← next with
  | none => fault .endInString
  | some d => if c = d then return else fault .endOfHexEscape

/-- The character of a `\u` escape, or of two of them. -/
def unicodeEscape : Scan Char := do
  let high ← hexEscape
  if isLowSurrogate high then fault .loneSurrogate
  else if isHighSurrogate high then
    pairChar '\\'
    pairChar 'u'
    let low ← hexEscape
    if isLowSurrogate low then
      return Char.ofNat (0x10000 + 0x400 * (high - 0xd800) + (low - 0xdc00))
    else fault .loneSurrogate
  else return Char.ofNat high

/-- The character that a letter after a backslash stands for. -/
def simpleEscape? (c : Char) : Option Char :=
  if c = '"' then some '"'
  else if c = '\\' then some '\\'
  else if c = '/' then some '/'
  else if c = 'b' then some '\x08'
  else if c = 'f' then some '\x0c'
  else if c = 'n' then some '\n'
  else if c = 'r' then some '\r'
  else if c = 't' then some '\t'
  else none

/-- What follows a backslash. -/
def escape : Scan Char := do
  match ← next with
  | none => fault .endInString
  | some c =>
    if c = 'u' then unicodeEscape
    else
      match simpleEscape? c with
      | some d => return d
      | none => fault .invalidEscape

/-- The characters of a string up to its closing quote, of which there are at most `fuel`. -/
def stringChars (escape : Scan Char) : Nat → Scan (List Char)
  | 0 => fault .endInString
  | fuel + 1 => do
    match ← next with
    | none => fault .endInString
    | some c =>
      if c = '"' then return []
      else if c = '\\' then
        let d ← escape
        let rest ← stringChars escape fuel
        return d :: rest
      else if c.toNat < 0x20 then fault .controlCharacter
      else
        let rest ← stringChars escape fuel
        return c :: rest

/-- A string behind its opening quote. -/
def stringBody : Scan String := do
  let chars ← stringChars escape ((← get).length + 1)
  return String.ofList chars

/-- An escape of which only the spelling matters. -/
def anyEscape : Scan Char := do
  match ← next with
  | none => fault .endInString
  | some c =>
    if c = 'u' then
      let _ ← hexEscape
      return c
    else
      match simpleEscape? c with
      | some d => return d
      | none => fault .invalidEscape

/-- A string of which only the spelling matters, behind its opening quote. -/
def skipString : Scan Unit := do
  let _ ← stringChars anyEscape ((← get).length + 1)

/-! ## Numbers -/

def isDigit (c : Char) : Bool := '0' ≤ c && c ≤ '9'

def digitValue (c : Char) : Nat := c.toNat - '0'.toNat

/-- All digits that come next. -/
def digits : Scan (List Char) := fun cs => .ok (cs.takeWhile isDigit, cs.dropWhile isDigit)

def nextIsExponent : Scan Bool := do
  let c ← peekRaw
  return c = some 'e' || c = some 'E'

/-- Takes a sign. Is it a minus? -/
def sign : Scan Bool := do
  match ← peekRaw with
  | some '+' =>
    drop
    return false
  | some '-' =>
    drop
    return true
  | _ => return false

/-- Decimal digits, collected as long as they fit into 64 bits. -/
structure Significand where
  value : Nat
  /-- Power of ten of the last digit that was collected. -/
  exponent : Int
  full : Bool
  deriving DecidableEq, Repr

/-- Collects a digit before the point. -/
def Significand.integral (s : Significand) (c : Char) : Significand :=
  let value := 10 * s.value + digitValue c
  if s.full || Nat.pow 2 64 ≤ value then { s with exponent := s.exponent + 1, full := true }
  else { s with value := value }

/-- Collects a digit after the point. -/
def Significand.fractional (s : Significand) (c : Char) : Significand :=
  let value := 10 * s.value + digitValue c
  if s.full || Nat.pow 2 64 ≤ value then { s with full := true }
  else { s with value := value, exponent := s.exponent - 1 }

def powerOfTen (n : Nat) : Float := Float.ofScientific 1 false n

/-- Divides by large powers of ten until the exponent is in range. -/
def scaleDown : Nat → Float → Int → Float
  | 0, f, _ => f
  | fuel + 1, f, exponent =>
    if -308 ≤ exponent then f / powerOfTen (-exponent).toNat
    else if f == 0 then f
    else scaleDown fuel (f / powerOfTen 308) (exponent + 308)

/-- The number of a significand and a power of ten, rounded at each step. Nothing is given for a
number that is too large. -/
def scale? (significand : Nat) (exponent : Int) : Option Float :=
  let f := significand.toUInt64.toFloat
  if exponent < 0 then some (scaleDown 8 f exponent)
  else if 308 < exponent then if f == 0 then some f else none
  else
    let g := f * powerOfTen exponent.toNat
    if g.isInf then none else some g

/-- A number by what it is taken for. -/
inductive Number where
  | integer (value : Int)
  | float (value : Float)

/-- Floats have up to 16 places before the point and up to four zeros behind it. -/
def floatStyle : Decimal.Style := ⟨16, 4⟩

def Number.found : Number → Found
  | integer value => .integer (toString value)
  | float value => .float (floatStyle.float value)

def signed (negative : Bool) (f : Float) : Number := .float (if negative then -f else f)

/-- The exponent of a number, from its letter on. -/
def exponentPart (negative : Bool) (s : Significand) : Scan Number := do
  drop
  let down ← sign
  match ← next with
  | none => fault .endInValue
  | some c =>
    if isDigit c then
      let more ← digits
      let exponent := (c :: more).foldl (fun n c => 10 * n + digitValue c) 0
      if Nat.pow 2 31 ≤ exponent then
        if s.value ≠ 0 && !down then fault .numberRange
        else return signed negative 0
      else
        match scale? s.value (if down then s.exponent - exponent else s.exponent + exponent) with
        | some f => return signed negative f
        | none => fault .numberRange
    else fault .invalidNumber

def afterFraction (negative : Bool) (s : Significand) : Scan Number := do
  if ← nextIsExponent then exponentPart negative s
  else
    match scale? s.value s.exponent with
    | some f => return signed negative f
    | none => fault .numberRange

/-- The fraction of a number, from its point on. -/
def fractionPart (negative : Bool) (s : Significand) : Scan Number := do
  drop
  let fraction ← digits
  if fraction.isEmpty then
    match ← peekRaw with
    | some _ => fault .invalidNumber
    | none => fault .endInValue
  else afterFraction negative (fraction.foldl Significand.fractional { s with full := false })

/-- What follows the digits before the point. A number that does not fit into 64 bits is a
float, and so is minus zero. -/
def afterIntegral (negative : Bool) (s : Significand) : Scan Number := do
  if (← peekRaw) = some '.' then fractionPart negative s
  else if (← nextIsExponent) || s.full then afterFraction negative s
  else if !negative then return .integer s.value
  else if 0 < s.value ∧ s.value ≤ Nat.pow 2 63 then return .integer (-s.value)
  else return signed true s.value.toUInt64.toFloat

/-- A number behind its sign. -/
def number (negative : Bool) : Scan Number := do
  match ← next with
  | none => fault .endInValue
  | some c =>
    if c = '0' then
      match ← peekRaw with
      | some d => if isDigit d then fault .invalidNumber else afterIntegral negative ⟨0, 0, false⟩
      | none => afterIntegral negative ⟨0, 0, false⟩
    else if isDigit c then
      let more ← digits
      afterIntegral negative ((c :: more).foldl Significand.integral ⟨0, 0, false⟩)
    else fault .invalidNumber

/-- Digits of which there has to be at least one. -/
def someDigits : Scan Unit := do
  let found ← digits
  if found.isEmpty then fault .invalidNumber

def skipExponent : Scan Unit := do
  if ← nextIsExponent then
    drop
    let _ ← sign
    someDigits

/-- A number of which only the spelling matters, behind its sign. -/
def skipNumber : Scan Unit := do
  match ← next with
  | none => fault .invalidNumber
  | some c =>
    let more ← digits
    if !isDigit c || (c = '0' && !more.isEmpty) then fault .invalidNumber
    else if (← peekRaw) = some '.' then
      drop
      someDigits
      skipExponent
    else skipExponent

end RpcStubs.Json
