import ApplianceCloud.Numeric.Binary64

/-!
# The shortest decimal of a number

The reals that round to a number form an interval around it. `shortest` gives the decimal of that
interval with the fewest digits, and of several the one nearest to the number. A grid of decimals
has a point in the interval exactly if one of the number's two neighbours on the grid lies in it,
so each grid is decided by two comparisons of naturals.
-/

namespace ApplianceCloud

structure Decimal where
  digits : Nat
  exponent : Int
  deriving DecidableEq, Repr

namespace Decimal

def compareBinary (d : Decimal) (bound : Nat) (scale : Int) : Ordering :=
  compare (d.digits * tenTo d.exponent * twoTo (-scale)) (bound * twoTo scale * tenTo (-d.exponent))

/-- Whether a decimal rounds to `mantissa * 2 ^ exponent`.

The interval reaches halfway to both neighbours, and the neighbour below a power of two is half as
far away. An even mantissa takes the ends of its interval. -/
def roundsTo (mantissa : Nat) (exponent : Int) (d : Decimal) : Bool :=
  let narrow := mantissa = twoTo 52 ∧ Binary64.leastExponent < exponent
  let lower := d.compareBinary (4 * mantissa - if narrow then 1 else 2) (exponent - 2)
  let upper := d.compareBinary (4 * mantissa + 2) (exponent - 2)
  let even := mantissa % 2 = 0
  (lower = .gt ∨ even ∧ lower = .eq) ∧ (upper = .lt ∨ even ∧ upper = .eq)

/-- How many digits a positive number has before its point; negative when zeros follow the point.

The number is scaled by `10 ^ 330`, which makes the smallest one exceed one. -/
def pointPosition (mantissa : Nat) (exponent : Int) : Int :=
  let scaled := mantissa * twoTo exponent * tenTo 330 / twoTo (-exponent)
  (Binary64.decimalLength scaled : Int) - 330

def floorOn (mantissa : Nat) (exponent scale : Int) : Nat :=
  mantissa * twoTo exponent * tenTo (-scale) / (twoTo (-exponent) * tenTo scale)

def upperIsNearer (mantissa : Nat) (exponent : Int) (floor : Nat) (scale : Int) : Bool :=
  match compareBinary ⟨2 * floor + 1, scale⟩ mantissa (exponent + 1) with
  | .lt => true
  | .eq => floor % 2 = 1
  | .gt => false

def onGrid? (mantissa : Nat) (exponent scale : Int) : Option Decimal :=
  let floor := floorOn mantissa exponent scale
  let below : Decimal := ⟨floor, scale⟩
  let above : Decimal := ⟨floor + 1, scale⟩
  match below.roundsTo mantissa exponent, above.roundsTo mantissa exponent with
  | true, true => some (if upperIsNearer mantissa exponent floor scale then above else below)
  | true, false => some below
  | false, true => some above
  | false, false => none

def dropZeros : (fuel : Nat) → Decimal → Decimal
  | 0, d => d
  | fuel + 1, d =>
      if d.digits ≠ 0 ∧ d.digits % 10 = 0 then dropZeros fuel ⟨d.digits / 10, d.exponent + 1⟩ else d

/-- The shortest decimal that rounds to a positive number.

Seventeen digits always suffice, so the last grid is only a formal answer to "none was found". -/
def shortest (mantissa : Nat) (exponent : Int) : Decimal :=
  let point := pointPosition mantissa exponent
  let found := (List.range 17).findSome? fun (n : Nat) => onGrid? mantissa exponent (point - (n + 1))
  dropZeros 18 (found.getD ⟨floorOn mantissa exponent (point - 17), point - 17⟩)

example : shortest 7205759403792794 (-56) = ⟨1, -1⟩ := by decide +kernel
example : shortest 1 (-1074) = ⟨5, -324⟩ := by decide +kernel
example : shortest (twoTo 52) (-77) = ⟨29802322387695312, -24⟩ := by decide +kernel

end Decimal

end ApplianceCloud
