import ApplianceCloud.Document.Conversion

namespace ApplianceCloud.Interval

def key : String := "polling_interval"

def shortest : Nat := 300

def longest : Nat := 1000000000 * 86400 - 1

def configured (data options : Fields Document) : Document :=
  (options.lookup key).getD ((data.lookup key).getD (.int shortest))

/-- The whole seconds of `mantissa * 2 ^ exponent`, which is rounded to the microsecond. -/
def wholeSeconds (mantissa : Nat) (exponent : Int) : Nat :=
  Binary64.roundQuotient (mantissa * twoTo exponent * 1000000) (twoTo (-exponent)) / 1000000

def ofSeconds (seconds : Int) : Except ConversionFault (Option Nat) :=
  let seconds := max shortest seconds.toNat
  if longest < seconds then .error .intervalTooLong else .ok (some seconds)

def ofNumber : Binary64 → Except ConversionFault (Option Nat)
  | .nan => .error .integerOfNan
  | .infinite negative => if negative then ofSeconds 0 else .error .integerOfInfinity
  | .finite negative mantissa exponent =>
      if mantissa = 0 then .ok none
      else ofSeconds (if negative then 0 else wholeSeconds mantissa exponent)

def ofDocument : Document → Except ConversionFault (Option Nat)
  | .bool value => if value then ofSeconds 1 else .ok none
  | .int seconds => if seconds = 0 then .ok none else ofSeconds seconds
  | .number seconds => ofNumber seconds
  | other => .error (.incomparable other.kind)

example : (ofDocument (.int (-1))).toOption = some (some 300) := by decide
example : (ofDocument (.number (.ofDecimal false 4507 (-1)))).toOption = some (some 450) := by
  decide +kernel

end ApplianceCloud.Interval
