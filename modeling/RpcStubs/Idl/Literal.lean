import RpcStubs.Idl.Token
import RpcStubs.Text.IdentChar

/-!
# Spelling of literals

Each reader takes the text that follows and gives what is left after the literal. A string
literal is read by a small machine that goes over it once and gives its value as well.
-/

namespace RpcStubs.Idl

open Text (isIdentStart isIdentContinue)

def hexValue? (c : Char) : Option Nat :=
  if '0' ≤ c ∧ c ≤ '9' then some (c.toNat - '0'.toNat)
  else if 'a' ≤ c ∧ c ≤ 'f' then some (10 + c.toNat - 'a'.toNat)
  else if 'A' ≤ c ∧ c ≤ 'F' then some (10 + c.toNat - 'A'.toNat)
  else none

def isDecimal (c : Char) : Bool := '0' ≤ c && c ≤ '9'

/-- A code point that is a character. -/
def isScalar (n : Nat) : Bool := n < 0xd800 || (0xdfff < n && n ≤ 0x10ffff)

/-! ## Quoted literals -/

/-- What the three kinds of strings admit. -/
structure StringRules where
  /-- Highest first digit of a `\x` escape. -/
  firstHexMax : Nat
  /-- Are there escapes by code point? -/
  unicode : Bool
  ascii : Bool
  nul : Bool

namespace StringRules

def text : StringRules := ⟨7, true, false, true⟩

def bytes : StringRules := ⟨15, false, true, true⟩

def cText : StringRules := ⟨15, true, false, false⟩

def admitsChar (r : StringRules) (c : Char) : Bool :=
  (!r.ascii || c.toNat < 0x80) && (r.nul || c.toNat != 0)

def admitsCode (r : StringRules) (n : Nat) : Bool := isScalar n && (r.nul || n != 0)

end StringRules

/-- Where the reader stands inside a string. -/
inductive StringState where
  | plain
  | carriage
  | escape
  | hexFirst
  | hexSecond (first : Nat)
  | codeOpen
  | code (value digits : Nat)
  /-- After a line continuation: blanks are dropped. -/
  | skip
  | skipCarriage
  deriving DecidableEq, Repr

/-- The effect of one character of a string. -/
inductive StringStep where
  | done
  | goto (state : StringState)
  | emit (c : Char) (state : StringState)
  deriving DecidableEq, Repr

def simpleEscape? (c : Char) : Option Char :=
  if c = 'n' then some '\n'
  else if c = 'r' then some '\r'
  else if c = 't' then some '\t'
  else if c = '\\' then some '\\'
  else if c = '0' then some '\x00'
  else if c = '\'' then some '\''
  else if c = '"' then some '"'
  else none

namespace StringState

def plainStep (r : StringRules) (c : Char) : Option StringStep :=
  if c = '"' then some .done
  else if c = '\r' then some (.goto .carriage)
  else if c = '\\' then some (.goto .escape)
  else if r.admitsChar c then some (.emit c .plain)
  else none

def escapeStep (r : StringRules) (c : Char) : Option StringStep :=
  if c = 'x' then some (.goto .hexFirst)
  else if c = 'u' ∧ r.unicode then some (.goto .codeOpen)
  else if c = '\n' then some (.goto .skip)
  else if c = '\r' then some (.goto .skipCarriage)
  else
    match simpleEscape? c with
    | some d => if r.admitsChar d then some (.emit d .plain) else none
    | none => none

def codeStep (r : StringRules) (value digits : Nat) (c : Char) : Option StringStep :=
  match hexValue? c with
  | some d => if digits = 6 then none else some (.goto (.code (16 * value + d) (digits + 1)))
  | none =>
    if digits = 0 then none
    else if c = '_' then some (.goto (.code value digits))
    else if c = '}' ∧ r.admitsCode value then some (.emit (Char.ofNat value) .plain)
    else none

def step (r : StringRules) (state : StringState) (c : Char) : Option StringStep :=
  match state with
  | plain => plainStep r c
  | carriage => if c = '\n' then some (.emit '\n' .plain) else none
  | escape => escapeStep r c
  | hexFirst =>
    match hexValue? c with
    | some d => if d ≤ r.firstHexMax then some (.goto (.hexSecond d)) else none
    | none => none
  | hexSecond first =>
    match hexValue? c with
    | some d =>
      if r.admitsCode (16 * first + d) then some (.emit (Char.ofNat (16 * first + d)) .plain)
      else none
    | none => none
  | codeOpen => if c = '{' then some (.goto (.code 0 0)) else none
  | code value digits => codeStep r value digits c
  | skip =>
    if c = ' ' ∨ c = '\t' ∨ c = '\n' then some (.goto .skip)
    else if c = '\r' then some (.goto .skipCarriage)
    else plainStep r c
  | skipCarriage => if c = '\n' then some (.goto .skip) else none

end StringState

/-- The value of a string up to its closing quote, and what follows the quote. -/
def readString (r : StringRules) : StringState → List Char → Option (List Char × List Char)
  | _, [] => none
  | state, c :: cs =>
    match state.step r c with
    | none => none
    | some .done => some ([], cs)
    | some (.goto next) => readString r next cs
    | some (.emit d next) => (readString r next cs).map (fun (v, rest) => (d :: v, rest))

/-- The text of a raw string up to a quote with `pounds` number signs. -/
def readRaw (r : StringRules) (pounds : Nat) : List Char → Option (List Char × List Char)
  | [] => none
  | '\r' :: '\n' :: cs =>
    (readRaw r pounds cs).map (fun (v, rest) => ('\r' :: '\n' :: v, rest))
  | c :: cs =>
    if c = '"' ∧ (cs.take pounds).length = pounds ∧ (cs.take pounds).all (· == '#') then
      some ([], cs.drop pounds)
    else if c = '\r' ∨ !r.admitsChar c then none
    else (readRaw r pounds cs).map (fun (v, rest) => (c :: v, rest))

/-- A raw string after its letter: number signs, the text between quotes, number signs. -/
def readRawString (r : StringRules) (cs : List Char) : Option (List Char × List Char) :=
  let pounds := (cs.takeWhile (· == '#')).length
  match cs.drop pounds with
  | '"' :: rest => if pounds ≤ 255 then readRaw r pounds rest else none
  | _ => none

/-- A single character or byte between apostrophes, after the first of them. -/
def readQuotedChar (r : StringRules) : List Char → Option (List Char)
  | '\\' :: 'x' :: a :: b :: '\'' :: rest =>
    match hexValue? a, hexValue? b with
    | some d, some _ => if d ≤ r.firstHexMax then some rest else none
    | _, _ => none
  | '\\' :: 'u' :: '{' :: rest =>
    if r.unicode then
      match readString r (.code 0 0) (rest.takeWhile (· != '}') ++ ['}', '"']),
          rest.dropWhile (· != '}') with
      | some ([_], []), _ :: '\'' :: rest => some rest
      | _, _ => none
    else none
  | '\\' :: c :: '\'' :: rest => (simpleEscape? c).map (fun _ => rest)
  | c :: '\'' :: rest => if c ≠ '\\' ∧ (!r.ascii || c.toNat < 0x80) then some rest else none
  | _ => none

/-! ## Identifiers and suffixes -/

/-- An identifier without a raw mark, and what follows it. -/
def readWord : List Char → Option (List Char × List Char)
  | [] => none
  | c :: cs =>
    if isIdentStart c then some (c :: cs.takeWhile isIdentContinue, cs.dropWhile isIdentContinue)
    else none

/-- What follows a suffix, if there is one. -/
def dropSuffix (cs : List Char) : List Char :=
  match readWord cs with
  | some (_, rest) => rest
  | none => cs

/-! ## Numbers -/

/-- Does a number end here? A suffix is taken along. -/
def endNumber (cs : List Char) : Option (List Char) :=
  match dropSuffix cs with
  | [] => some []
  | c :: rest => if isIdentContinue c then none else some (c :: rest)

/-- Digits with at most one point. Gives whether there was a point and what follows. A point
before another point or an identifier does not belong to the number, which is then no float. -/
def readMantissa (point : Bool) : List Char → Option (Bool × List Char)
  | [] => some (point, [])
  | c :: cs =>
    if isDecimal c || c == '_' then readMantissa point cs
    else if c == '.' && !point then
      match cs with
      | [] => some (true, [])
      | d :: _ => if d == '.' || isIdentStart d then none else readMantissa true cs
    else some (point, c :: cs)

/-- Digits of an exponent with an optional sign before them. Fails without a digit. -/
def readExponent (sign value : Bool) : List Char → Option (List Char)
  | [] => if value then some [] else none
  | c :: cs =>
    if c == '+' || c == '-' then
      if value then some (c :: cs) else if sign then none else readExponent true false cs
    else if isDecimal c then readExponent sign true cs
    else if c == '_' then readExponent sign value cs
    else if value then some (c :: cs)
    else none

/-- The part of a float before its suffix. -/
def readFloatDigits (cs : List Char) : Option (List Char) :=
  match cs with
  | [] => none
  | first :: _ =>
    if isDecimal first then
      match readMantissa false cs with
      | none => none
      | some (point, rest) =>
        match rest with
        | c :: after =>
          if c == 'e' || c == 'E' then
            match readExponent false false after with
            | some rest => some rest
            | none => if point then some (c :: after) else none
          else if point then some rest
          else none
        | [] => if point then some [] else none
    else none

def readFloat (cs : List Char) : Option (List Char) := (readFloatDigits cs).bind endNumber

/-- Digits of a base. Gives whether there was one, and what follows. A decimal digit that the
base does not have makes it no number. -/
def readDigits (base : Nat) (found : Bool) : List Char → Option (Bool × List Char)
  | [] => some (found, [])
  | c :: cs =>
    if c == '_' then
      if !found && base == 10 then none else readDigits base found cs
    else
      match hexValue? c with
      | some d =>
        if d < base then readDigits base true cs
        else if isDecimal c then none
        else some (found, c :: cs)
      | none => some (found, c :: cs)

def readInt (cs : List Char) : Option (List Char) :=
  let (base, digits) :=
    match cs with
    | '0' :: 'x' :: rest => (16, rest)
    | '0' :: 'o' :: rest => (8, rest)
    | '0' :: 'b' :: rest => (2, rest)
    | _ => (10, cs)
  match readDigits base false digits with
  | some (true, rest) => endNumber rest
  | _ => none

/-! ## Any literal -/

/-- The literal that begins here, by its kind and what follows it. -/
def readLiteral (cs : List Char) : Option (LiteralKind × List Char) :=
  let string (kind : LiteralKind) (found : Option (List Char × List Char)) :=
    found.map (fun (_, rest) => (kind, dropSuffix rest))
  let quoted (kind : LiteralKind) (found : Option (List Char)) :=
    found.map (fun rest => (kind, dropSuffix rest))
  match cs with
  | '"' :: rest => string .string (readString .text .plain rest)
  | 'r' :: rest => string .string (readRawString .text rest)
  | 'b' :: '"' :: rest => string .byteString (readString .bytes .plain rest)
  | 'b' :: 'r' :: rest => string .byteString (readRawString .bytes rest)
  | 'c' :: '"' :: rest => string .cString (readString .cText .plain rest)
  | 'c' :: 'r' :: rest => string .cString (readRawString .cText rest)
  | 'b' :: '\'' :: rest => quoted .byte (readQuotedChar .bytes rest)
  | '\'' :: rest => quoted .char (readQuotedChar .text rest)
  | _ =>
    match readFloat cs with
    | some rest => some (.float, rest)
    | none => (readInt cs).map (.int, ·)

namespace Literal

/-- The text between the quotes, with escapes resolved. -/
def stringChars? : List Char → Option (List Char)
  | '"' :: rest => (readString .text .plain rest).map (·.1)
  | 'r' :: rest => (readRawString .text rest).map (·.1)
  | _ => none

/-- The value of a string literal. Its suffix does not count. -/
def stringValue? (lit : Literal) : Option String :=
  if lit.kind = .string then (stringChars? lit.text.toList).map String.ofList else none

end Literal

end RpcStubs.Idl
