import ApplianceCloud.Document.Display
import ApplianceCloud.Numeric.Numeral

namespace ApplianceCloud

inductive ConversionFault where
  | notInteger (shown : String)
  | notNumber (shown : String)
  | numeralTooLong (digits : Nat)
  | integerTooLong
  | integerOfKind (kind : String)
  | numberOfKind (kind : String)
  | integerOfNan
  | integerOfInfinity
  | integerTooLarge
  | truthValueAsInteger
  | notIntegral
  | notTruthValue
  | unexpectedKind (kind : String)
  | incomparable (kind : String)
  | intervalTooLong
  deriving DecidableEq, Repr

namespace ConversionFault

def isKindFault : ConversionFault → Bool
  | integerOfKind _ | numberOfKind _ | truthValueAsInteger | unexpectedKind _
  | incomparable _ => true
  | _ => false

def isOverflow : ConversionFault → Bool
  | integerOfInfinity | integerTooLarge | intervalTooLong => true
  | _ => false

def message : ConversionFault → String
  | notInteger shown => "invalid literal for int() with base 10: " ++ shown
  | notNumber shown => "could not convert string to float: " ++ shown
  | numeralTooLong digits =>
      "Exceeds the limit (" ++ toString Numeral.longestNumeral ++
        " digits) for integer string conversion: value has " ++ toString digits ++
        " digits; use sys.set_int_max_str_digits() to increase the limit"
  | integerTooLong =>
      "Exceeds the limit (" ++ toString Numeral.longestNumeral ++
        " digits) for integer string conversion; use sys.set_int_max_str_digits() to increase the limit"
  | integerOfKind kind =>
      "int() argument must be a string, a bytes-like object or a real number, not '" ++ kind ++ "'"
  | numberOfKind kind => "float() argument must be a string or a real number, not '" ++ kind ++ "'"
  | integerOfNan => "cannot convert float NaN to integer"
  | integerOfInfinity => "cannot convert float infinity to integer"
  | integerTooLarge => "int too large to convert to float"
  | truthValueAsInteger => "boolean is not an integer"
  | notIntegral => "not an integral value"
  | notTruthValue => "not a boolean value"
  | unexpectedKind kind => "unexpected " ++ kind
  | incomparable kind => "'>' not supported between instances of 'int' and '" ++ kind ++ "'"
  | intervalTooLong => "days must have magnitude <= 999999999"

end ConversionFault

namespace Document

def longestShownNumeral : Nat := 200

def wholeNumber : Binary64 → Except ConversionFault Int
  | .nan => .error .integerOfNan
  | .infinite _ => .error .integerOfInfinity
  | x => .ok (x.truncate?.getD 0)

def toInteger : Document → Except ConversionFault Int
  | .bool value => .ok value.toInt
  | .int value => .ok value
  | .number value => wholeNumber value
  | .text value =>
      match Numeral.readInteger value with
      | .ok n => .ok n
      | .error .malformed => .error (.notInteger (String.ofList ((Text.quotedChars value.toList).take longestShownNumeral)))
      | .error (.tooLong digits) => .error (.numeralTooLong digits)
  | other => .error (.integerOfKind other.kind)

def numberOfInt (n : Int) : Except ConversionFault Binary64 :=
  match Binary64.ofInt? n with
  | some x => .ok x
  | none => .error .integerTooLarge

def toNumber : Document → Except ConversionFault Binary64
  | .bool value => numberOfInt value.toInt
  | .int value => numberOfInt value
  | .number value => .ok value
  | .text value =>
      match Numeral.readNumber? value with
      | some x => .ok x
      | none => .error (.notNumber (Text.quoted value))
  | other => .error (.numberOfKind other.kind)

def toText (d : Document) : Except ConversionFault String :=
  if d.isWritable then .ok d.display else .error .integerTooLong

theorem toText_int (n : Int) :
    (Document.int n).toText = (Numeral.write? n).elim (.error .integerTooLong) .ok := by
  unfold toText isWritable
  cases written : Numeral.write? n with
  | none => rfl
  | some s =>
    rw [Numeral.eq_of_write? written]
    rfl

end Document

end ApplianceCloud
