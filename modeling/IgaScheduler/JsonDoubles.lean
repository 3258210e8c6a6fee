import IgaScheduler.JsonText

namespace IgaScheduler

/-!
# Numbers as doubles

`JSON.parse` takes the double that is nearest to the decimal it reads, and that
double is known by the shortest decimal it is nearest to.  A number is rounded
in this way; what comes from a double already is left as it is.
-/

namespace JavaScript

/-- A numerator and a denominator. -/
abbrev Quotient := Nat × Nat

/-- The quotient times `base ^ power`. -/
def scaled
    (base : Nat)
    (power : Int)
    (quotient : Quotient) :
    Quotient :=
  (quotient.1 * base ^ power.toNat, quotient.2 * base ^ (-power).toNat)

/-- The integer that is nearest to the quotient; of two, the even one. -/
def roundHalfEven (quotient : Quotient) : Nat :=
  let whole := quotient.1 / quotient.2
  let twice := 2 * (quotient.1 % quotient.2)
  if twice < quotient.2 ∨ twice = quotient.2 ∧ whole % 2 = 0 then whole
  else whole + 1

/-- `significand * 2 ^ power`. -/
structure Double where
  significand : Nat
  power : Int
  deriving DecidableEq, Repr

namespace Double

def quotient (double : Double) : Quotient :=
  scaled 2 double.power (double.significand, 1)

/-- The largest finite double is `(2 ^ 53 - 1) * 2 ^ 971`. -/
def isFinite (double : Double) : Bool :=
  double.power ≤ 971

/-- The double that is nearest to a quotient. -/
def nearest (quotient : Quotient) : Double :=
  if quotient.1 = 0 then
    ⟨0, 0⟩
  else
    -- the quotient is less than `2 ^ (guess + 1)`, not less than half of it
    let guess : Int := Nat.log2 quotient.1 - Nat.log2 quotient.2
    let (numerator, denominator) := scaled 2 (-guess) quotient
    let top := if numerator < denominator then guess - 1 else guess
    let power := max (top - 52) (-1074)
    let significand := roundHalfEven (scaled 2 (-power) quotient)
    if significand = 0 then ⟨0, 0⟩
    else if significand = 2 ^ 53 then ⟨2 ^ 52, power + 1⟩
    else ⟨significand, power⟩

/-- The multiples of `10 ^ power` on both sides that the double is nearest to. -/
def decimals (double : Double) (power : Int) : List Nat :=
  let (numerator, denominator) := scaled 10 (-power) double.quotient
  [numerator / denominator, numerator / denominator + 1].filter fun digits =>
    nearest (scaled 10 power (digits, 1)) = double

/-- The highest power of which a multiple will do, from one that has some. -/
def shortestPower (double : Double) : Nat → Int → Int
  | 0, power => power
  | fuel + 1, power =>
      if double.decimals (power + 1) = [] then power
      else shortestPower double fuel (power + 1)

/-- Of the multiples that will do the closest; of two, the even one. -/
def shortestDigits (double : Double) (power : Int) : Nat :=
  let (numerator, denominator) := scaled 10 (-power) double.quotient
  match double.decimals power with
  | [lower, upper] =>
      let twice := 2 * numerator
      let middle := (lower + upper) * denominator
      if twice < middle ∨ twice = middle ∧ lower % 2 = 0 then lower
      else upper
  | digits => digits.headD 0

end Double

/--
The number that `JSON.parse` makes of a decimal; `none` is an infinity, which
is no value here.
-/
def number
    (mantissa : Int)
    (exponent : Nat) :
    Option Json :=
  let double := Double.nearest (mantissa.natAbs, 10 ^ exponent)
  if double.isFinite then
    let power :=
      double.shortestPower ((Nat.toDigits 10 mantissa.natAbs).length + 1)
        (-exponent)
    some (signed (mantissa < 0)
      (decimal (double.shortestDigits power) power))
  else
    none

mutual

/-- The value with all of its numbers rounded. -/
def withDoubles : Json → Option Json
  | .num mantissa exponent => number mantissa exponent
  | .arr items => (itemsWithDoubles items).map .arr
  | .obj fields => (fieldsWithDoubles fields).map .obj
  | value => some value

def itemsWithDoubles : List Json → Option (List Json)
  | [] => some []
  | item :: rest => do
      let item ← withDoubles item
      let rest ← itemsWithDoubles rest
      return item :: rest

def fieldsWithDoubles :
    List (String × Json) → Option (List (String × Json))
  | [] => some []
  | (name, value) :: rest => do
      let value ← withDoubles value
      let rest ← fieldsWithDoubles rest
      return (name, value) :: rest

end

end JavaScript

end IgaScheduler
