import ApplianceCloud.Document.Reader
import ApplianceCloud.Numeric.Bytes

namespace ApplianceCloud.Text

inductive Encoding where
  | utf8
  | utf16 (mostFirst : Bool)
  | utf32 (mostFirst : Bool)
  deriving DecidableEq, Repr

def markedEncoding? : List UInt8 → Option (Encoding × List UInt8)
  | 0x00 :: 0x00 :: 0xFE :: 0xFF :: rest => some (.utf32 true, rest)
  | 0xFF :: 0xFE :: 0x00 :: 0x00 :: rest => some (.utf32 false, rest)
  | 0xFE :: 0xFF :: rest => some (.utf16 true, rest)
  | 0xFF :: 0xFE :: rest => some (.utf16 false, rest)
  | 0xEF :: 0xBB :: 0xBF :: rest => some (.utf8, rest)
  | _ => none

def shownEncoding : List UInt8 → Encoding
  | a :: b :: c :: d :: _ =>
      if a = 0 then (if b = 0 then .utf32 true else .utf16 true)
      else if b = 0 then (if c = 0 ∧ d = 0 then .utf32 false else .utf16 false)
      else .utf8
  | [a, b] => if a = 0 then .utf16 true else if b = 0 then .utf16 false else .utf8
  | _ => .utf8

def tailValue? (b : UInt8) : Option Nat :=
  if 0x80 ≤ b ∧ b ≤ 0xBF then some (b.toNat - 0x80) else none

def codesOfUtf8? : List UInt8 → Option (List Nat)
  | [] => some []
  | a :: rest =>
      if a < 0x80 then do return a.toNat :: (← codesOfUtf8? rest)
      else if a < 0xC2 then none
      else if a < 0xE0 then
        match rest with
        | b :: rest => do
            let code := (a.toNat - 0xC0) * 0x40 + (← tailValue? b)
            return code :: (← codesOfUtf8? rest)
        | _ => none
      else if a < 0xF0 then
        match rest with
        | b :: c :: rest => do
            let code := ((a.toNat - 0xE0) * 0x40 + (← tailValue? b)) * 0x40 + (← tailValue? c)
            guard (0x800 ≤ code)
            return code :: (← codesOfUtf8? rest)
        | _ => none
      else
        match rest with
        | b :: c :: d :: rest => do
            let high := ((a.toNat - 0xF0) * 0x40 + (← tailValue? b)) * 0x40 + (← tailValue? c)
            let code := high * 0x40 + (← tailValue? d)
            guard (0x10000 ≤ code ∧ code < 0x110000)
            return code :: (← codesOfUtf8? rest)
        | _ => none

def unitOf (mostFirst : Bool) (bytes : List UInt8) : Nat :=
  bigEndian (if mostFirst then bytes else bytes.reverse)

def unitsOfUtf16? (mostFirst : Bool) : List UInt8 → Option (List Nat)
  | [] => some []
  | a :: b :: rest => (unitsOfUtf16? mostFirst rest).map (unitOf mostFirst [a, b] :: ·)
  | [_] => none

def codesOfUtf32? (mostFirst : Bool) : List UInt8 → Option (List Nat)
  | [] => some []
  | a :: b :: c :: d :: rest =>
      let code := unitOf mostFirst [a, b, c, d]
      if code < 0x110000 then (codesOfUtf32? mostFirst rest).map (code :: ·) else none
  | _ => none

def decodeAs? : Encoding → List UInt8 → Option (List Char)
  | .utf8, bytes => (codesOfUtf8? bytes).map (·.map Document.charOf)
  | .utf16 mostFirst, bytes => (unitsOfUtf16? mostFirst bytes).map Document.joinUnits
  | .utf32 mostFirst, bytes => (codesOfUtf32? mostFirst bytes).map (·.map Document.charOf)

def decode? (bytes : List UInt8) : Option (List Char) :=
  match markedEncoding? bytes with
  | some (encoding, rest) => decodeAs? encoding rest
  | none => decodeAs? (shownEncoding bytes) bytes

def utf8Bytes (s : String) : List UInt8 := s.toUTF8.toList

end ApplianceCloud.Text

namespace ApplianceCloud.Document

def readBytes (bytes : List UInt8) : Except ReadFault Document :=
  match Text.decode? bytes with
  | some chars => readChars chars
  | none => .error .undecodable

end ApplianceCloud.Document
