import ApplianceCloud.Numeric.Scale

namespace ApplianceCloud

/-- A floating-point number: `mantissa * 2 ^ exponent` with a sign, an infinity, or not a number. -/
inductive Binary64 where
  | nan
  | infinite (negative : Bool)
  | finite (negative : Bool) (mantissa : Nat) (exponent : Int)
  deriving DecidableEq, Repr, Inhabited

namespace Binary64

def leastExponent : Int := -1074

def greatestExponent : Int := 971

def zero (negative : Bool) : Binary64 := .finite negative 0 leastExponent

def roundQuotient (numerator denominator : Nat) : Nat :=
  let quotient := numerator / denominator
  let twice := 2 * (numerator % denominator)
  if twice < denominator then quotient
  else if denominator < twice then quotient + 1
  else if quotient % 2 = 0 then quotient
  else quotient + 1

def inUnits (numerator denominator : Nat) (exponent : Int) : Nat :=
  roundQuotient (numerator * twoTo (-exponent)) (denominator * twoTo exponent)

/-- The exponent at which a quotient has 53 bits before its point, at least `leastExponent`. -/
def unitExponent (numerator denominator : Nat) : Int :=
  let guess := (numerator.log2 : Int) - denominator.log2 - 52
  let small := numerator * twoTo (-guess) < denominator * twoTo guess * twoTo 52
  max leastExponent (if small then guess - 1 else guess)

/-- The number nearest to a quotient; a quotient beyond the largest number is infinite. -/
def ofRatio (negative : Bool) (numerator denominator : Nat) : Binary64 :=
  if numerator = 0 then zero negative
  else
    let exponent := unitExponent numerator denominator
    let mantissa := inUnits numerator denominator exponent
    let carried := mantissa = twoTo 53
    let exponent := if carried then exponent + 1 else exponent
    if greatestExponent < exponent then .infinite negative
    else .finite negative (if carried then twoTo 52 else mantissa) exponent

def decimalLength (n : Nat) : Nat := (Nat.toDigits 10 n).length

/-- The number nearest to `digits * 10 ^ exponent`.

Values of at least `10 ^ 310` and below `10 ^ -330` are decided by their length alone, so the
powers that are computed stay small whatever exponent a text names. -/
def ofDecimal (negative : Bool) (digits : Nat) (exponent : Int) : Binary64 :=
  if digits = 0 then zero negative
  else
    let magnitude := (decimalLength digits : Int) + exponent
    if 310 < magnitude then .infinite negative
    else if magnitude < -330 then zero negative
    else ofRatio negative (digits * tenTo exponent) (tenTo (-exponent))

def ofInt? (n : Int) : Option Binary64 :=
  match ofRatio (n < 0) n.natAbs 1 with
  | .finite negative mantissa exponent => some (.finite negative mantissa exponent)
  | _ => none

def isZero : Binary64 → Bool
  | .finite _ mantissa _ => mantissa = 0
  | _ => false

def isIntegral : Binary64 → Bool
  | .finite _ mantissa exponent => mantissa % twoTo (-exponent) = 0
  | _ => false

def wholePart (mantissa : Nat) (exponent : Int) : Nat :=
  mantissa * twoTo exponent / twoTo (-exponent)

def truncate? : Binary64 → Option Int
  | .finite negative mantissa exponent =>
      let magnitude : Int := wholePart mantissa exponent
      some (if negative then -magnitude else magnitude)
  | _ => none

example : ofDecimal false 1 (-1) = .finite false 7205759403792794 (-56) := by decide +kernel
example : ofDecimal false 5 (-324) = .finite false 1 (-1074) := by decide +kernel
example : ofDecimal true 1 400 = .infinite true := by decide +kernel
example : ofInt? (twoTo 53 + 1) = some (.finite false (twoTo 52) 1) := by decide +kernel
example : (ofDecimal true 29 (-1)).truncate? = some (-2) := by decide +kernel

end Binary64

end ApplianceCloud
