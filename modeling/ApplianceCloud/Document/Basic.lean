import ApplianceCloud.Numeric.Binary64
import ApplianceCloud.Fields

namespace ApplianceCloud

inductive Document where
  | null
  | bool (value : Bool)
  | int (value : Int)
  | number (value : Binary64)
  | text (value : String)
  | list (items : List Document)
  | object (members : List (String × Document))
  deriving Inhabited, Repr

namespace Document

def object? : Document → Option (Fields Document)
  | .object members => some members
  | _ => none

def list? : Document → Option (List Document)
  | .list items => some items
  | _ => none

def isObject (d : Document) : Bool := d.object?.isSome

def member? (d : Document) (key : String) : Option Document :=
  d.object?.bind (·.lookup key)

def isNull : Document → Bool
  | .null => true
  | _ => false

def isTruthy : Document → Bool
  | .null => false
  | .bool value => value
  | .int value => value ≠ 0
  | .number value => !value.isZero
  | .text value => value ≠ ""
  | .list items => !items.isEmpty
  | .object members => !members.isEmpty

def orElse (d other : Document) : Document := if d.isTruthy then d else other

def kind : Document → String
  | .null => "NoneType"
  | .bool _ => "bool"
  | .int _ => "int"
  | .number _ => "float"
  | .text _ => "str"
  | .list _ => "list"
  | .object _ => "dict"

end Document

namespace Fields

def orNull (members : Fields Document) (key : String) : Document := (members.lookup key).getD .null

theorem orNull_of_lookup {members : Fields Document} {key : String} {value : Document}
    (found : members.lookup key = some value) : members.orNull key = value := by
  rw [orNull, found, Option.getD_some]

theorem orNull_of_none {members : Fields Document} {key : String}
    (missing : members.lookup key = none) : members.orNull key = .null := by
  rw [orNull, missing, Option.getD_none]

theorem lookup_of_object?_orNull {fields members : Fields Document} {key : String}
    (present : (fields.orNull key).object? = some members) :
    fields.lookup key = some (.object members) := by
  unfold Fields.orNull at present
  cases found : fields.lookup key with
  | none => simp [found, Document.object?] at present
  | some value =>
    cases value with
    | object node => simpa [found, Document.object?] using present
    | _ => simp [found, Document.object?] at present

end Fields

end ApplianceCloud
