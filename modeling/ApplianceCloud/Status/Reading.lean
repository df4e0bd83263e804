import ApplianceCloud.Document.Conversion
import ApplianceCloud.Status.Attribute
import ApplianceCloud.Text.Blank
import ApplianceCloud.Text.Capital

namespace ApplianceCloud

inductive Reading where
  | text (value : String)
  | integer (value : Int)
  | number (value : Binary64)
  | truth (value : Bool)
  deriving DecidableEq, Repr

namespace Reading

def onWords : List String := ["STANDBY_ON", "REMOTE_START_ON", "ON", "1", "TRUE"]

def offWords : List String := ["OFF", "FALSE", "0"]

/-- The truth value of a word in capitals: whether it is or ends in a word for on or off. -/
def truthOfWord? (word : String) : Option Bool :=
  if word ∈ onWords || Text.endsIn word "_ON" then some true
  else if word ∈ offWords || Text.endsIn word "_OFF" then some false
  else none

def truthOf : Document → Except ConversionFault Bool
  | .bool value => .ok value
  | .int value => .ok (value ≠ 0)
  | .number value => .ok !value.isZero
  | .text value => (truthOfWord? (Text.capitals (Text.trim value))).elim (.error .notTruthValue) .ok
  | _ => .error .notTruthValue

/-- A document as an integer without a rounding: truth values and fractions are refused. -/
def integerOf : Document → Except ConversionFault Int
  | .bool _ => .error .truthValueAsInteger
  | .int value => .ok value
  | d => do
      let number ← d.toNumber
      if number.isIntegral then return (number.truncate?).getD 0 else .error .notIntegral

def ofDocument : ReadingKind → Document → Except ConversionFault Reading
  | .truth, d => (truthOf d).map .truth
  | _, .list items => .error (.unexpectedKind (Document.list items).kind)
  | _, .object members => .error (.unexpectedKind (Document.object members).kind)
  | .text, d => d.toText.map .text
  | .integer, d => (integerOf d).map .integer
  | .number, d => d.toNumber.map .number

def ofNatural : ReadingKind → Nat → Option (Except ConversionFault Reading)
  | .text, n => some ((Numeral.write? n).elim (.error .integerTooLong) fun s => .ok (.text s))
  | .integer, n => some (.ok (.integer n))
  | .number, n => some ((Document.numberOfInt n).map .number)
  | .truth, _ => none

example : truthOf (.text " remote_start_on ") = .ok true ∧ truthOf (.text "on_off") = .ok false :=
  ⟨by rfl, by rfl⟩

end Reading

abbrev Readings := List (Attribute × Reading)

namespace Readings

def record (readings : Readings) (attr : Attribute) (reading : Reading) : Readings :=
  (attr, reading) :: readings.filter (·.1 ≠ attr)

theorem lookup_record (readings : Readings) (attr other : Attribute) (reading : Reading) :
    (record readings attr reading).lookup other =
      if other = attr then some reading else readings.lookup other := by
  by_cases h : other = attr
  · simp [record, h]
  · have skip (rs : Readings) : (rs.filter (·.1 ≠ attr)).lookup other = rs.lookup other := by
      induction rs with
      | nil => rfl
      | cons r rest ih =>
        obtain ⟨recorded, old⟩ := r
        by_cases here : recorded = attr
        · have : (other == recorded) = false := by simp [here, h]
          simp only [List.lookup_cons, this]
          simpa [here] using ih
        · simp only [List.filter_cons, here, ne_eq, not_false_eq_true, decide_true, if_true,
            List.lookup_cons, ih]
    have head : (other == attr) = false := by simp [h]
    simp only [record, List.lookup_cons, head, h, if_false]
    exact skip readings

end Readings

end ApplianceCloud
