import ApplianceCloud.Base64
import ApplianceCloud.Control.Template
import ApplianceCloud.Document.Reader

namespace ApplianceCloud.Command

def byteOf (data : String) : Document → Except Failure UInt8
  | .bool value => .ok (if value then 1 else 0)
  | .int value =>
      if 0 ≤ value ∧ value < 256 then .ok (UInt8.ofNat value.toNat)
      else .error (.decoding (.commandItemOutOfRange data))
  | other => .error (.decoding (.commandItemOfKind data other.kind))

def bytesOf (data : String) : Except Failure (List UInt8) :=
  match Document.read data with
  | .error fault => .error (.decoding (.invalidCommandText data fault))
  | .ok (.list items) => items.mapM (byteOf data)
  | .ok _ => .error (.decoding (.commandNotList data))

def declared (command : Command) : Except Failure Document :=
  if command.declaration = "" then .ok (.object [])
  else match Document.read command.declaration with
    | .ok document => .ok document
    | .error fault => .error (.reading fault)

def dataMembers (command : Command) (data : String) : Except Failure (Fields Document) :=
  if command.binary then do
    let bytes ← bytesOf data
    return [("format", .text "B64"), ("data", .text (Base64.encode bytes))]
  else .ok [("data", .text data)]

def payload (command : Command) (values : Fields Document) : Except Failure (Fields Document) := do
  let declaration ← command.declared
  let data ← command.dataMembers (← command.filled values)
  match declaration.object? with
  | some members => return members.putAll data
  | none => .error (.shape (.notIndexable declaration.kind))

end ApplianceCloud.Command
