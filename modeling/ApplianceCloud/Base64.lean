namespace ApplianceCloud.Base64

def alphabet : List Char :=
  "ABCDEFGHIJKLMNOPQRSTUVWXYZabcdefghijklmnopqrstuvwxyz0123456789+/".toList

def symbol (sextet : Nat) : Char := alphabet.getD sextet 'A'

def sextet? (c : Char) : Option Nat := alphabet.idxOf? c

def encodeChars : List UInt8 → List Char
  | a :: b :: c :: rest =>
      let group := (a.toNat * 256 + b.toNat) * 256 + c.toNat
      symbol (group / 262144) :: symbol (group / 4096 % 64) :: symbol (group / 64 % 64) ::
        symbol (group % 64) :: encodeChars rest
  | [a, b] =>
      let group := (a.toNat * 256 + b.toNat) * 4
      [symbol (group / 4096), symbol (group / 64 % 64), symbol (group % 64), '=']
  | [a] =>
      let group := a.toNat * 16
      [symbol (group / 64), symbol (group % 64), '=', '=']
  | [] => []

def encode (bytes : List UInt8) : String := String.ofList (encodeChars bytes)

def bytesOf : List Nat → List UInt8
  | a :: b :: c :: d :: rest =>
      UInt8.ofNat (a * 4 + b / 16) :: UInt8.ofNat (b % 16 * 16 + c / 4) ::
        UInt8.ofNat (c % 4 * 64 + d) :: bytesOf rest
  | [a, b, c] => [UInt8.ofNat (a * 4 + b / 16), UInt8.ofNat (b % 16 * 16 + c / 4)]
  | [a, b] => [UInt8.ofNat (a * 4 + b / 16)]
  | _ => []

/-- Whether the end of a text, from its first `=`, completes so many characters of data. -/
def isPadding (dataLength : Nat) (ending : List Char) : Bool :=
  match dataLength % 4 with
  | 0 => ending.all (· = '=') && (dataLength ≠ 0 || ending.isEmpty)
  | 2 => ending = ['=', '=']
  | 3 => ending = ['=']
  | _ => false

def decode? (s : String) : Option (List UInt8) := do
  let data := s.toList.takeWhile (· ≠ '=')
  let ending := s.toList.dropWhile (· ≠ '=')
  let sextets ← data.mapM sextet?
  guard (isPadding data.length ending)
  return bytesOf sextets

example : encode [255, 0, 128] = "/wCA" ∧ encode [5] = "BQ==" := by decide +kernel
example : decode? "BQ==" = some [5] ∧ decode? "BQ=" = none ∧ decode? "/wCA=" = some [255, 0, 128] := by
  decide +kernel

end ApplianceCloud.Base64
