/-!
# Shortest decimals of binary floating point numbers

A finite number stands for all reals that round to it. Of the decimals among them one with the
fewest digits is chosen, and of those the one nearest to the number.
-/

namespace RpcStubs.Decimal

/-- A positive number `mantissa * 2 ^ (exponent - offset)` of the binary format. -/
structure Binary where
  mantissa : Nat
  /-- The exponent, moved up by `offset` to be natural. -/
  exponent : Nat
  deriving DecidableEq, Repr

namespace Binary

/-- What an exponent is moved up by. -/
def offset : Nat := 1075

/-- The least mantissa with a full number of digits. -/
def leastNormal : Nat := Nat.pow 2 52

/-- The absolute value of a finite number by its bits. -/
def ofBits (bits : Nat) : Binary :=
  let fraction := bits % leastNormal
  let exponent := bits / leastNormal % Nat.pow 2 11
  if exponent = 0 then ⟨fraction, 1⟩ else ⟨leastNormal + fraction, exponent⟩

/-- Quarters of the last binary place between the number and the next lower bound of rounding. -/
def below (b : Binary) : Nat :=
  if b.mantissa = leastNormal ∧ 1 < b.exponent then 1 else 2

end Binary

/-- A decimal `digits * 10 ^ exponent`. -/
structure Scaled where
  digits : Nat
  exponent : Int
  deriving DecidableEq, Repr

/-- The fraction `num / den`. -/
structure Ratio where
  num : Nat
  den : Nat
  deriving DecidableEq, Repr

/-- A quarter of the last binary place, in units of `10 ^ place`. -/
def quarterUnit (b : Binary) (place : Int) : Ratio :=
  let binary : Ratio :=
    if Binary.offset + 2 ≤ b.exponent then ⟨Nat.pow 2 (b.exponent - (Binary.offset + 2)), 1⟩
    else ⟨1, Nat.pow 2 (Binary.offset + 2 - b.exponent)⟩
  if 0 ≤ place then ⟨binary.num, binary.den * Nat.pow 10 place.toNat⟩
  else ⟨binary.num * Nat.pow 10 (-place).toNat, binary.den⟩

/-- Does the decimal `digits`, in units of `10 ^ place`, round to the number? -/
def roundsTo (b : Binary) (place : Int) (digits : Nat) : Bool :=
  let unit := quarterUnit b place
  let low := (4 * b.mantissa - b.below) * unit.num
  let high := (4 * b.mantissa + 2) * unit.num
  let value := digits * unit.den
  if b.mantissa % 2 = 0 then low ≤ value && value ≤ high else low < value && value < high

/-- The neighbour of the number in units of `10 ^ place` that rounds to it, if one does. Of two
the nearer is taken, and of two equally near ones the even. -/
def neighbour? (b : Binary) (place : Int) : Option Nat :=
  let unit := quarterUnit b place
  let value := 4 * b.mantissa * unit.num
  let low := value / unit.den
  let remainder := value % unit.den
  let preferLow := 2 * remainder < unit.den || (2 * remainder = unit.den && low % 2 = 0)
  let lowFits := low ≠ 0 && roundsTo b place low
  let highFits := roundsTo b place (low + 1)
  if lowFits && (preferLow || !highFits) then some low
  else if highFits then some (low + 1)
  else none

/-- The coarsest place, from `place` downwards, at which a neighbour rounds to the number. -/
def coarsest (b : Binary) : Nat → Int → Scaled
  | 0, place => ⟨0, place⟩
  | fuel + 1, place =>
    match neighbour? b place with
    | some digits => ⟨digits, place⟩
    | none => coarsest b fuel (place - 1)

/-- The shortest decimal of a positive number. No number exceeds `10 ^ 309` or needs a place
below `10 ^ -324`. -/
def shortest (b : Binary) : Scaled := coarsest b 640 309

/-! ## Text -/

/-- How decimals are written. -/
structure Style where
  /-- Highest number of digits before the point in positional notation. -/
  maxIntegral : Int
  /-- Highest number of zeros between point and digits in positional notation. -/
  maxLeadingZeros : Int
  deriving DecidableEq, Repr

/-- A point is always written, and an exponent stands behind an `e`. -/
def Style.render (n : Style) (d : Scaled) : String :=
  let text := toString d.digits
  let count : Int := text.length
  let point := count + d.exponent
  if 0 ≤ d.exponent ∧ point ≤ n.maxIntegral then
    text ++ String.ofList (List.replicate d.exponent.toNat '0') ++ ".0"
  else if 0 < point ∧ point ≤ n.maxIntegral then
    String.ofList (text.toList.take point.toNat) ++ "." ++
      String.ofList (text.toList.drop point.toNat)
  else if -n.maxLeadingZeros ≤ point ∧ point ≤ 0 then
    "0." ++ String.ofList (List.replicate (-point).toNat '0') ++ text
  else
    let mantissa :=
      match text.toList with
      | [d] => [d]
      | d :: ds => d :: '.' :: ds
      | [] => []
    String.ofList mantissa ++ "e" ++ toString (point - 1)

/-- The text of a finite number. -/
def Style.float (n : Style) (f : Float) : String :=
  let bits := f.toBits.toNat
  let sign := if bits < Nat.pow 2 63 then "" else "-"
  let b := Binary.ofBits (bits % Nat.pow 2 63)
  sign ++ if b.mantissa = 0 then "0.0" else n.render (shortest b)

end RpcStubs.Decimal
