import ApplianceCloud.Numeric.Binary64
import ApplianceCloud.Text.Blank
import ApplianceCloud.Text.DecimalDigit

namespace ApplianceCloud

inductive NumeralFault where
  | malformed
  | tooLong (digits : Nat)
  deriving DecidableEq, Repr

namespace Numeral

def longestNumeral : Nat := 4300

def valueOf (digits : List Nat) : Nat := digits.foldl (fun value digit => 10 * value + digit) 0

def asciiValue (c : Char) : Nat := c.toNat - '0'.toNat

def valueOfChars (digits : List Char) : Nat := valueOf (digits.map asciiValue)

def inAscii (s : List Char) : List Char :=
  s.map fun c => match Text.digitValue? c with
    | some value => Char.ofNat ('0'.toNat + value)
    | none => c

def splitSign : List Char → Bool × List Char
  | '-' :: rest => (true, rest)
  | '+' :: rest => (false, rest)
  | rest => (false, rest)

/-- Removes the `_` that stand between two digits, or refuses one that stands elsewhere. -/
def withoutSeparators : (afterDigit : Bool) → List Char → Option (List Char)
  | _, [] => some []
  | _, ['_'] => none
  | afterDigit, '_' :: c :: rest =>
      if afterDigit && c.isDigit then (withoutSeparators true rest).map (c :: ·) else none
  | _, c :: rest => (withoutSeparators c.isDigit rest).map (c :: ·)

def normalized (s : String) : List Char := inAscii (Text.trimEnds Text.isPadding s.toList)

def isInRow (c : Char) : Bool := c.isDigit || c = '_'

/-- Reads a whole number. The row of digits at the front is counted before anything behind it is
looked at, so a row that is too long is too long whatever follows it. -/
def readInteger (s : String) : Except NumeralFault Int :=
  let (negative, magnitude) := splitSign (normalized s)
  match withoutSeparators false (magnitude.takeWhile isInRow) with
  | none => .error .malformed
  | some digits =>
      if longestNumeral < digits.length then .error (.tooLong digits.length)
      else if digits.isEmpty || !magnitude.all isInRow then .error .malformed
      else
        let value : Int := valueOfChars digits
        .ok (if negative then -value else value)

def readExponent? : List Char → Option Int
  | [] => some 0
  | mark :: rest =>
      let (negative, digits) := splitSign rest
      if (mark = 'e' || mark = 'E') && !digits.isEmpty && digits.all Char.isDigit then
        let magnitude : Int := valueOfChars digits
        some (if negative then -magnitude else magnitude)
      else none

def readDecimal? (negative : Bool) (s : List Char) : Option Binary64 :=
  let whole := s.takeWhile Char.isDigit
  let afterWhole := s.dropWhile Char.isDigit
  let (fraction, rest) := match afterWhole with
    | '.' :: tail => (tail.takeWhile Char.isDigit, tail.dropWhile Char.isDigit)
    | tail => ([], tail)
  if whole.isEmpty && fraction.isEmpty then none
  else (readExponent? rest).map fun exponent =>
    .ofDecimal negative (valueOfChars (whole ++ fraction)) (exponent - fraction.length)

def readNumber? (s : String) : Option Binary64 := do
  let (negative, magnitude) := splitSign (← withoutSeparators false (normalized s))
  let word := String.ofList (magnitude.map Char.toLower)
  if word = "inf" || word = "infinity" then some (.infinite negative)
  else if word = "nan" then some .nan
  else readDecimal? negative magnitude

/-- An integer in base ten, or `none` if it has more digits than a numeral may have. -/
def write? (n : Int) : Option String :=
  if n.natAbs < tenTo longestNumeral then some (toString n) else none

theorem eq_of_write? {n : Int} {s : String} (written : write? n = some s) : s = toString n := by
  unfold write? at written
  split at written
  · exact (Option.some.inj written).symm
  · cases written

end Numeral

end ApplianceCloud
