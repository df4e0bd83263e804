import ApplianceCloud.Document.Basic
import ApplianceCloud.Numeric.Numeral

/-!
# Documents read from JSON

The reader takes a prefix of the text and gives the rest back. Every step of it that calls itself
has consumed a character, so the length of the text bounds its depth; `read` starts it with that
bound. Words for infinities and for no number are read too, and of two members of one name the last
value stands at the first place.
-/

namespace ApplianceCloud

inductive ReadFault where
  | malformed
  | undecodable
  | numeralTooLong (digits : Nat)
  deriving DecidableEq, Repr

namespace Document

def isSpace (c : Char) : Bool := c = ' ' || c = '\t' || c = '\n' || c = '\r'

def skipSpace (s : List Char) : List Char := s.dropWhile isSpace

def hexValue? (c : Char) : Option Nat :=
  if c.isDigit then some (c.toNat - '0'.toNat)
  else if 'a' ≤ c && c ≤ 'f' then some (c.toNat - 'a'.toNat + 10)
  else if 'A' ≤ c && c ≤ 'F' then some (c.toNat - 'A'.toNat + 10)
  else none

def unitValue? (a b c d : Char) : Option Nat := do
  return (((← hexValue? a) * 16 + (← hexValue? b)) * 16 + (← hexValue? c)) * 16 + (← hexValue? d)

def escaped? : Char → Option Char
  | '"' => some '"'
  | '\\' => some '\\'
  | '/' => some '/'
  | 'b' => some '\x08'
  | 'f' => some '\x0c'
  | 'n' => some '\n'
  | 'r' => some '\r'
  | 't' => some '\t'
  | _ => none

def readCodes? : List Char → Option (List Nat × List Char)
  | '"' :: rest => some ([], rest)
  | '\\' :: 'u' :: a :: b :: c :: d :: rest => do
      let unit ← unitValue? a b c d
      let (codes, after) ← readCodes? rest
      return (unit :: codes, after)
  | '\\' :: letter :: rest => do
      let char ← escaped? letter
      let (codes, after) ← readCodes? rest
      return (char.toNat :: codes, after)
  | c :: rest => do
      guard (0x20 ≤ c.toNat && c ≠ '\\')
      let (codes, after) ← readCodes? rest
      return (c.toNat :: codes, after)
  | [] => none

def isHighUnit (code : Nat) : Bool := 0xD800 ≤ code && code < 0xDC00

def isLowUnit (code : Nat) : Bool := 0xDC00 ≤ code && code < 0xE000

/-- The character of a code; a unit that stands alone has the replacement character. -/
def charOf (code : Nat) : Char :=
  if isHighUnit code || isLowUnit code then '\ufffd' else Char.ofNat code

/-- The characters of codes, a high unit joined with the low unit after it. -/
def joinUnits : List Nat → List Char
  | high :: low :: rest =>
      if isHighUnit high && isLowUnit low then
        Char.ofNat (0x10000 + (high - 0xD800) * 0x400 + (low - 0xDC00)) :: joinUnits rest
      else charOf high :: joinUnits (low :: rest)
  | [code] => [charOf code]
  | [] => []

def readText (s : List Char) : Except ReadFault (String × List Char) :=
  match readCodes? s with
  | some (codes, rest) => .ok (String.ofList (joinUnits codes), rest)
  | none => .error .malformed

def splitFraction : List Char → List Char × List Char
  | '.' :: rest =>
      if (rest.takeWhile Char.isDigit).isEmpty then ([], '.' :: rest)
      else (rest.takeWhile Char.isDigit, rest.dropWhile Char.isDigit)
  | rest => ([], rest)

def splitExponent (s : List Char) : Option Int × List Char :=
  match s with
  | mark :: rest =>
      let (negative, digits) := Numeral.splitSign rest
      if (mark = 'e' || mark = 'E') && !(digits.takeWhile Char.isDigit).isEmpty then
        let magnitude : Int := Numeral.valueOfChars (digits.takeWhile Char.isDigit)
        (some (if negative then -magnitude else magnitude), digits.dropWhile Char.isDigit)
      else (none, s)
  | [] => (none, [])

def splitWhole (s : List Char) : List Char × List Char :=
  match s with
  | '0' :: rest => (['0'], rest)
  | s => (s.takeWhile Char.isDigit, s.dropWhile Char.isDigit)

/-- Reads the magnitude of a number. Without point and exponent it is an integer. -/
def readMagnitude (negative : Bool) (s : List Char) : Except ReadFault (Document × List Char) :=
  let (whole, afterWhole) := splitWhole s
  let (fraction, afterFraction) := splitFraction afterWhole
  let (exponent, rest) := splitExponent afterFraction
  if whole.isEmpty then .error .malformed
  else if fraction.isEmpty && exponent.isNone then
    if Numeral.longestNumeral < whole.length then .error (.numeralTooLong whole.length)
    else
      let magnitude : Int := Numeral.valueOfChars whole
      .ok (.int (if negative then -magnitude else magnitude), rest)
  else
    let digits := Numeral.valueOfChars (whole ++ fraction)
    .ok (.number (.ofDecimal negative digits (exponent.getD 0 - fraction.length)), rest)

def readSimple (s : List Char) : Except ReadFault (Document × List Char) :=
  match s with
  | 'n' :: 'u' :: 'l' :: 'l' :: rest => .ok (.null, rest)
  | 't' :: 'r' :: 'u' :: 'e' :: rest => .ok (.bool true, rest)
  | 'f' :: 'a' :: 'l' :: 's' :: 'e' :: rest => .ok (.bool false, rest)
  | 'N' :: 'a' :: 'N' :: rest => .ok (.number .nan, rest)
  | 'I' :: rest => infinity false ('I' :: rest)
  | '-' :: 'I' :: rest => infinity true ('I' :: rest)
  | '-' :: rest => readMagnitude true rest
  | rest => readMagnitude false rest
where
  infinity (negative : Bool) (s : List Char) : Except ReadFault (Document × List Char) :=
    if "Infinity".toList.isPrefixOf s then .ok (.number (.infinite negative), s.drop 8)
    else .error .malformed

mutual

def readValue : (depth : Nat) → List Char → Except ReadFault (Document × List Char)
  | 0, _ => .error .malformed
  | depth + 1, s =>
      match s with
      | '"' :: rest => do
          let (value, rest) ← readText rest
          return (.text value, rest)
      | '[' :: rest =>
          match skipSpace rest with
          | ']' :: rest => .ok (.list [], rest)
          | rest => do
              let (items, rest) ← readItems depth rest
              return (.list items, rest)
      | '{' :: rest =>
          match skipSpace rest with
          | '}' :: rest => .ok (.object [], rest)
          | rest => do
              let (members, rest) ← readMembers depth rest
              return (.object (Fields.ofPairs members), rest)
      | s => readSimple s

def readItems : (depth : Nat) → List Char → Except ReadFault (List Document × List Char)
  | 0, _ => .error .malformed
  | depth + 1, s => do
      let (item, rest) ← readValue depth s
      match skipSpace rest with
      | ',' :: rest => do
          let (items, rest) ← readItems depth (skipSpace rest)
          return (item :: items, rest)
      | ']' :: rest => return ([item], rest)
      | _ => .error .malformed

def readMembers : (depth : Nat) → List Char → Except ReadFault (List (String × Document) × List Char)
  | 0, _ => .error .malformed
  | depth + 1, s => do
      let (key, rest) ← match s with
        | '"' :: rest => readText rest
        | _ => .error .malformed
      let (value, rest) ← match skipSpace rest with
        | ':' :: rest => readValue depth (skipSpace rest)
        | _ => .error .malformed
      match skipSpace rest with
      | ',' :: rest => do
          let (members, rest) ← readMembers depth (skipSpace rest)
          return ((key, value) :: members, rest)
      | '}' :: rest => return ([(key, value)], rest)
      | _ => .error .malformed

end

def readChars (s : List Char) : Except ReadFault Document := do
  let (d, rest) ← readValue (2 * s.length + 1) (skipSpace s)
  if (skipSpace rest).isEmpty then return d else .error .malformed

/-- Reads a document. A byte order mark at the start is no part of one. -/
def read (s : String) : Except ReadFault Document :=
  if s.toList.head? = some '\ufeff' then .error .malformed else readChars s.toList

end Document

end ApplianceCloud
