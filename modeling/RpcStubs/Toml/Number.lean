import RpcStubs.Toml.Text

/-!
# Numbers and dates of a configuration text

Only the spelling of numbers and dates matters, and that a number fits its type.
-/

namespace RpcStubs.Toml

def isDigit (c : Char) : Bool := '0' ≤ c && c ≤ '9'

/-- The digits of a number in which single underscores may stand between two digits. -/
def digits? (isDigit : Char → Bool) : List Char → Option (List Char)
  | [] => none
  | [c] => if isDigit c then some [c] else none
  | c :: '_' :: cs => if isDigit c then (digits? isDigit cs).map (c :: ·) else none
  | c :: cs => if isDigit c then (digits? isDigit cs).map (c :: ·) else none

/-- The text without its sign, and whether the sign is a minus. -/
def splitSign : List Char → Bool × List Char
  | '-' :: cs => (true, cs)
  | '+' :: cs => (false, cs)
  | cs => (false, cs)

/-- The value of digits in a radix. -/
def valueOf (radix : Nat) (digits : List Char) : Nat :=
  digits.foldl (fun n c => radix * n + (hexValue? c).getD 0) 0

/-! ## Integers -/

/-- Decimal digits that do not begin with a needless zero. -/
def decimal? (cs : List Char) : Option (List Char) :=
  match digits? isDigit cs with
  | some ('0' :: _ :: _) => none
  | found => found

/-- The largest value of an integer. -/
def maxInteger : Nat := Nat.pow 2 63 - 1

def isRadixInteger (radix : Nat) (cs : List Char) : Bool :=
  let isRadixDigit := fun (c : Char) =>
    match hexValue? c with
    | some d => d < radix
    | none => false
  match digits? isRadixDigit cs with
  | some digits => valueOf radix digits ≤ maxInteger
  | none => false

def isDecimalInteger (cs : List Char) : Bool :=
  let (negative, cs) := splitSign cs
  match decimal? cs with
  | some digits => valueOf 10 digits ≤ if negative then maxInteger + 1 else maxInteger
  | none => false

def isInteger : List Char → Bool
  | '0' :: 'x' :: cs => isRadixInteger 16 cs
  | '0' :: 'o' :: cs => isRadixInteger 8 cs
  | '0' :: 'b' :: cs => isRadixInteger 2 cs
  | cs => isDecimalInteger cs

/-! ## Floats -/

/-- Does the number `digits * 10 ^ exponent` round to infinity? -/
def isInfinite (digits : Nat) (exponent : Int) : Bool :=
  let bound := Nat.pow 2 1024 - Nat.pow 2 970
  if digits = 0 then false
  else if 400 < exponent then true
  else if 0 ≤ exponent then bound ≤ digits * Nat.pow 10 exponent.toNat
  else if exponent < -100000 then false
  else bound * Nat.pow 10 (-exponent).toNat ≤ digits

/-- The value of an exponent behind its letter. -/
def exponent? (cs : List Char) : Option Int :=
  let (negative, cs) := splitSign cs
  (digits? isDigit cs).map (fun digits =>
    let n : Int := valueOf 10 digits
    if negative then -n else n)

/-- A number by the digits before its point, those after it, and its exponent. -/
def isFloatOf (negative : Bool) (whole fraction exponent : List Char) : Bool :=
  match decimal? whole, exponent? exponent with
  | some digits, some e =>
    let after := if fraction.isEmpty then some [] else digits? isDigit fraction
    match after with
    | some after =>
      negative || !isInfinite (valueOf 10 (digits ++ after)) (e - after.length)
    | none => false
  | _, _ => false

/-- A number with a point, an exponent or both, or a special value. -/
def isFloat (cs : List Char) : Bool :=
  let (negative, cs) := splitSign cs
  if cs = "inf".toList || cs = "nan".toList then true
  else
    let isExponent := fun (c : Char) => c = 'e' || c = 'E'
    let mantissa := cs.takeWhile (!isExponent ·)
    let exponent := cs.drop mantissa.length
    let whole := mantissa.takeWhile (· != '.')
    let fraction := mantissa.drop whole.length
    match fraction, exponent with
    | [], [] => false
    | [], _ :: exponent => isFloatOf negative whole [] exponent
    | ['.'], _ => false
    | _ :: fraction, [] => isFloatOf negative whole fraction ['0']
    | _ :: fraction, _ :: exponent => isFloatOf negative whole fraction exponent

/-! ## Dates -/

/-- The value of exactly `count` digits, and what follows. -/
def digitsOf? (count : Nat) (cs : List Char) : Option (Nat × List Char) :=
  let digits := cs.take count
  if digits.length = count ∧ digits.all isDigit then some (valueOf 10 digits, cs.drop count)
  else none

def after? (c : Char) : List Char → Option (List Char)
  | d :: cs => if c = d then some cs else none
  | [] => none

def daysOf (year month : Nat) : Nat :=
  if month = 2 then
    if year % 4 = 0 ∧ (year % 100 ≠ 0 ∨ year % 400 = 0) then 29 else 28
  else if month = 4 ∨ month = 6 ∨ month = 9 ∨ month = 11 then 30
  else 31

/-- What follows a date at the beginning of the text. -/
def afterDate? (cs : List Char) : Option (List Char) := do
  let (year, cs) ← digitsOf? 4 cs
  let (month, cs) ← digitsOf? 2 (← after? '-' cs)
  let (day, cs) ← digitsOf? 2 (← after? '-' cs)
  if 1 ≤ month ∧ month ≤ 12 ∧ 1 ≤ day ∧ day ≤ daysOf year month then some cs else none

/-- What follows a time of day at the beginning of the text. -/
def afterTime? (cs : List Char) : Option (List Char) := do
  let (hour, cs) ← digitsOf? 2 cs
  let (minute, cs) ← digitsOf? 2 (← after? ':' cs)
  let (second, cs) ← digitsOf? 2 (← after? ':' cs)
  if 23 < hour ∨ 59 < minute ∨ 60 < second then none
  else
    match cs with
    | '.' :: rest =>
      let fraction := rest.takeWhile isDigit
      if fraction.isEmpty then none else some (rest.drop fraction.length)
    | _ => some cs

/-- A difference to universal time, or nothing. -/
def isOffset : List Char → Bool
  | [] => true
  | ['Z'] => true
  | ['z'] => true
  | sign :: cs =>
    if sign = '+' ∨ sign = '-' then
      match (do
          let (hour, cs) ← digitsOf? 2 cs
          let (minute, cs) ← digitsOf? 2 (← after? ':' cs)
          return hour ≤ 23 && minute ≤ 59 && cs.isEmpty : Option Bool) with
      | some ok => ok
      | none => false
    else false

def isDate (cs : List Char) : Bool := afterDate? cs = some []

def isTime (cs : List Char) : Bool := afterTime? cs = some []

/-- A time of day with or without an offset. -/
def isOffsetTime (cs : List Char) : Bool :=
  match afterTime? cs with
  | some rest => isOffset rest
  | none => false

/-- A date with a time behind a letter. -/
def isDateTime (cs : List Char) : Bool :=
  match afterDate? cs with
  | some (c :: rest) => (c = 'T' || c = 't') && isOffsetTime rest
  | _ => false

/-! ## Words -/

/-- Characters that end a word. -/
def endsWord (c : Char) : Bool :=
  c = ' ' || c = '\t' || c = '#' || c = '\n' || c = '\r' || c = ',' || c = ']' || c = '}'

/-- A date may be followed by a single space and a time. -/
def spacedTime : Scan Unit := do
  match ← get with
  | ' ' :: c :: _ =>
    if isDigit c then
      drop 1
      let time ← takeWhile (!endsWord ·)
      if isOffsetTime time then return else fail
  | _ => return

/-- A number or date by its text. -/
def plainWord : Scan String := do
  let word ← takeWhile (!endsWord ·)
  if isDate word then
    spacedTime
    return String.ofList word
  else if isInteger word || isFloat word || isTime word || isDateTime word then
    return String.ofList word
  else fail

end RpcStubs.Toml
