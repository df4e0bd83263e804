import ApplianceCloud.Document.Basic
import ApplianceCloud.Numeric.Notation
import ApplianceCloud.Text.Quoted

namespace ApplianceCloud.Document

def unitEscape (unit : Nat) : List Char := '\\' :: 'u' :: Text.hexDigits 4 unit

def unitsOf (code : Nat) : List Nat :=
  if code < 0x10000 then [code]
  else [0xD800 + (code - 0x10000) / 0x400, 0xDC00 + (code - 0x10000) % 0x400]

def writtenChar (c : Char) : List Char :=
  match c with
  | '"' => ['\\', '"']
  | '\\' => ['\\', '\\']
  | '\n' => ['\\', 'n']
  | '\r' => ['\\', 'r']
  | '\t' => ['\\', 't']
  | '\x08' => ['\\', 'b']
  | '\x0c' => ['\\', 'f']
  | c =>
      if 0x20 ≤ c.toNat ∧ c.toNat < 0x7F then [c] else (unitsOf c.toNat).flatMap unitEscape

def writtenText (s : String) : List Char := '"' :: s.toList.flatMap writtenChar ++ ['"']

def writtenNumber (x : Binary64) : List Char :=
  x.writtenWith fun
    | .infinite false => "Infinity".toList
    | .infinite true => "-Infinity".toList
    | _ => "NaN".toList

def writtenInt (n : Int) : List Char :=
  if n < 0 then '-' :: decimalDigits n.natAbs else decimalDigits n.natAbs

mutual

def written : Document → List Char
  | .null => ['n', 'u', 'l', 'l']
  | .bool true => ['t', 'r', 'u', 'e']
  | .bool false => ['f', 'a', 'l', 's', 'e']
  | .int value => writtenInt value
  | .number value => writtenNumber value
  | .text value => writtenText value
  | .list items => '[' :: writtenItems items ++ [']']
  | .object members => '{' :: writtenMembers members ++ ['}']

def writtenItems : List Document → List Char
  | [] => []
  | [item] => written item
  | item :: rest => written item ++ ',' :: ' ' :: writtenItems rest

def writtenMembers : List (String × Document) → List Char
  | [] => []
  | [(key, value)] => writtenText key ++ ':' :: ' ' :: written value
  | (key, value) :: rest =>
      writtenText key ++ ':' :: ' ' :: written value ++ ',' :: ' ' :: writtenMembers rest

end

def write (d : Document) : String := String.ofList d.written

example : (Document.object [("é", .list [.int (-7), .number .nan])]).write =
    "\x7b\"\\u00e9\": [-7, NaN]\x7d" := by decide +kernel

end ApplianceCloud.Document
