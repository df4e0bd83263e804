import ApplianceCloud.Numeric.Shortest

namespace ApplianceCloud

def decimalDigits (n : Nat) : List Char := Nat.toDigits 10 n

namespace Decimal

/-- Decimals whose leading digit stands for `10 ^ e` with `-4 ≤ e < 16` are written positionally. -/
def isPositional (leading : Int) : Bool := -4 ≤ leading ∧ leading < 16

def positional (digits : List Char) (point : Int) : List Char :=
  if point ≤ 0 then '0' :: '.' :: List.replicate (-point).toNat '0' ++ digits
  else if digits.length ≤ point.toNat then
    digits ++ List.replicate (point.toNat - digits.length) '0' ++ ['.', '0']
  else digits.take point.toNat ++ '.' :: digits.drop point.toNat

def exponentMark (leading : Int) : List Char :=
  let digits := decimalDigits leading.natAbs
  let padded := if digits.length < 2 then '0' :: digits else digits
  'e' :: (if leading < 0 then '-' else '+') :: padded

def scientific (digits : List Char) (leading : Int) : List Char :=
  match digits with
  | [] => []
  | [d] => d :: exponentMark leading
  | d :: rest => d :: '.' :: rest ++ exponentMark leading

def written (d : Decimal) : List Char :=
  let digits := decimalDigits d.digits
  let point := (digits.length : Int) + d.exponent
  if isPositional (point - 1) then positional digits point else scientific digits (point - 1)

end Decimal

namespace Binary64

def magnitudeText (mantissa : Nat) (exponent : Int) : List Char :=
  if mantissa = 0 then ['0', '.', '0'] else (Decimal.shortest mantissa exponent).written

def writtenWith (other : Binary64 → List Char) : Binary64 → List Char
  | .finite negative mantissa exponent =>
      if negative then '-' :: magnitudeText mantissa exponent else magnitudeText mantissa exponent
  | special => other special

def toText (x : Binary64) : String :=
  String.ofList <| x.writtenWith fun
    | .infinite false => ['i', 'n', 'f']
    | .infinite true => ['-', 'i', 'n', 'f']
    | _ => ['n', 'a', 'n']

example : (ofDecimal false 22 0).toText = "22.0" := by decide +kernel
example : (ofDecimal false 1 16).toText = "1e+16" := by decide +kernel
example : (ofDecimal true 15 (-8)).toText = "-1.5e-07" := by decide +kernel
example : (ofDecimal false 1234567895 (-1)).toText = "123456789.5" := by decide +kernel

end Binary64

end ApplianceCloud
