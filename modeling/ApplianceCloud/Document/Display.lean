import ApplianceCloud.Document.Basic
import ApplianceCloud.Numeric.Notation
import ApplianceCloud.Numeric.Numeral
import ApplianceCloud.Text.Quoted

namespace ApplianceCloud.Document

mutual

def quoted : Document → String
  | .null => "None"
  | .bool true => "True"
  | .bool false => "False"
  | .int value => toString value
  | .number value => value.toText
  | .text value => Text.quoted value
  | .list items => "[" ++ quotedItems items ++ "]"
  | .object members => "\x7b" ++ quotedMembers members ++ "\x7d"

def quotedItems : List Document → String
  | [] => ""
  | [item] => quoted item
  | item :: rest => quoted item ++ ", " ++ quotedItems rest

def quotedMembers : List (String × Document) → String
  | [] => ""
  | [(key, value)] => Text.quoted key ++ ": " ++ quoted value
  | (key, value) :: rest => Text.quoted key ++ ": " ++ quoted value ++ ", " ++ quotedMembers rest

end

def display : Document → String
  | .text value => value
  | other => quoted other

mutual

def isWritable : Document → Bool
  | .int value => (Numeral.write? value).isSome
  | .list items => areWritable items
  | .object members => areMembersWritable members
  | _ => true

def areWritable : List Document → Bool
  | [] => true
  | item :: rest => isWritable item && areWritable rest

def areMembersWritable : List (String × Document) → Bool
  | [] => true
  | member :: rest => isWritable member.2 && areMembersWritable rest

end

@[simp] theorem display_text (s : String) : (Document.text s).display = s := rfl

example : (Document.object [("k", .list [.text "v", .null])]).display = "\x7b'k': ['v', None]\x7d" := by
  decide +kernel

end ApplianceCloud.Document
