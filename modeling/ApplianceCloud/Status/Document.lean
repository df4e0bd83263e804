import ApplianceCloud.Status.Basic
import ApplianceCloud.Text.Transfer

namespace ApplianceCloud

namespace Status

def inner (members : Fields Document) (key : String) : Fields Document :=
  ((members.lookup key).bind Document.object?).getD members

def selected (model : StatusModel) (members : Fields Document) : Fields Document :=
  let node := inner members "snapshot"
  match model.deviceNode? with
  | none => node
  | some key => inner node key

structure Sifted where
  readings : Readings := []
  unclaimed : Fields Document := []

/-- The failure of a member whose value has no reading. A number that is too large for its kind is
passed on as it is, and a value that cannot be shown fails for that reason. -/
def conversionFailure (key : String) (attr : Attribute) (value : Document) (fault : ConversionFault) :
    Failure :=
  if fault.isOverflow then .conversion fault
  else if value.isWritable then .decoding (.inconvertible key value.quoted attr.kind.name fault)
  else .conversion .integerTooLong

def siftMember (table : AliasTable) (sifted : Sifted) (member : String × Document) :
    Except Failure Sifted :=
  match table.lookup member.1 with
  | none => .ok { sifted with unclaimed := sifted.unclaimed ++ [member] }
  | some attr =>
      if member.2.isNull then .ok sifted
      else match Reading.ofDocument attr.kind member.2 with
        | .ok reading => .ok { sifted with readings := sifted.readings.record attr reading }
        | .error fault => .error (conversionFailure member.1 attr member.2 fault)

def sift (table : AliasTable) : Sifted → Fields Document → Except Failure Sifted
  | sifted, [] => .ok sifted
  | sifted, member :: rest => do sift table (← siftMember table sifted member) rest

def ofDocument (family : Family) (capability : Option Capability) (online : Bool)
    (document : Document) : Except Failure Status := do
  let model ← modelOf family
  match document.object? with
  | none => .error (.decoding .notObject)
  | some members =>
      let node := selected model members
      let sifted ← sift (← aliasTable family capability) {} node
      return {
        family
        online
        readings := sifted.readings
        reported := node
        document := members
        unclaimed := sifted.unclaimed }

def ofRead (family : Family) (capability : Option Capability) (online : Bool)
    (read : Except ReadFault Document) : Except Failure Status := do
  let _ ← modelOf family
  match read with
  | .ok document => ofDocument family capability online document
  | .error fault => .error (.decoding (.invalidText fault))

def ofText (family : Family) (capability : Option Capability) (online : Bool) (s : String) :
    Except Failure Status :=
  ofRead family capability online (Document.read s)

def ofBytes (family : Family) (capability : Option Capability) (online : Bool) (bytes : List UInt8) :
    Except Failure Status :=
  ofRead family capability online (Document.readBytes bytes)

end Status

end ApplianceCloud
