import ApplianceCloud.Numeric.Bytes
import ApplianceCloud.Status.Document

namespace ApplianceCloud

namespace ReportField

def stop (field : ReportField) : Int := field.start + field.length

def fits (field : ReportField) (size : Nat) : Bool :=
  0 ≤ field.start && 0 < field.length && field.stop ≤ size

def valueIn (field : ReportField) (bytes : List UInt8) : Nat :=
  bigEndian ((bytes.drop field.start.toNat).take field.length.toNat)

/-- The failure of a field that does not lie inside a report of a size. It names both ends of the
field, so none of them may be too long to be written. -/
def outside (field : ReportField) (size : Nat) : Failure :=
  if (Numeral.write? field.start).isSome && (Numeral.write? field.stop).isSome then
    .decoding (.outside field.name field.start field.stop size)
  else .conversion .integerTooLong

end ReportField

structure Telemetry where
  readings : Readings := []
  values : Fields Nat := []
  unclaimed : Fields Nat := []
  deriving DecidableEq, Repr

namespace Telemetry

def readingOf (field : ReportField) (attr : Attribute) (value : Nat) : Except Failure Reading :=
  match Reading.ofNatural attr.kind value with
  | none => .error (.decoding (.unsupportedKind field.name attr.kind.name attr.name))
  | some (.ok reading) => .ok reading
  | some (.error fault) => .error (.conversion fault)

def addField (bytes : List UInt8) (table : AliasTable) (telemetry : Telemetry) (field : ReportField) :
    Except Failure Telemetry :=
  if !field.fits bytes.length then .error (field.outside bytes.length)
  else
    let value := field.valueIn bytes
    let values := telemetry.values.put field.name value
    match table.lookup field.name with
    | none =>
        .ok { telemetry with values, unclaimed := telemetry.unclaimed.put field.name value }
    | some attr => do
        let reading ← readingOf field attr value
        return { telemetry with values, readings := telemetry.readings.record attr reading }

def addFields (bytes : List UInt8) (table : AliasTable) :
    Telemetry → List ReportField → Except Failure Telemetry
  | telemetry, [] => .ok telemetry
  | telemetry, field :: rest => do
      addFields bytes table (← addField bytes table telemetry field) rest

def decode (bytes : List UInt8) (layout : List ReportField) (table : AliasTable) :
    Except Failure Telemetry :=
  addFields bytes table {} layout

def asMembers (values : Fields Nat) : Fields Document := values.mapValues fun n : Nat => .int n

end Telemetry

def Status.ofTelemetry (family : Family) (capability : Option Capability) (layout : List ReportField)
    (bytes : List UInt8) : Except Failure Status := do
  let telemetry ← Telemetry.decode bytes layout (← aliasTable family capability)
  return {
    family
    readings := telemetry.readings
    reported := Telemetry.asMembers telemetry.values
    payload? := some bytes
    unclaimed := Telemetry.asMembers telemetry.unclaimed }

def Status.ofPayload (capability : Capability) (bytes : List UInt8) : Except Failure Status :=
  let reporting := capability.header.reporting
  if reporting.format = .binary then
    ofTelemetry capability.family (some capability) reporting.layout bytes
  else ofBytes capability.family (some capability) true bytes

end ApplianceCloud
