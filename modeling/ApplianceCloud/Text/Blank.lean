import ApplianceCloud.Text.Ranges

namespace ApplianceCloud.Text

def blankRanges : List (Nat × Nat) :=
  [(0x09, 0x0D), (0x1C, 0x20), (0x85, 0x85), (0xA0, 0xA0), (0x1680, 0x1680), (0x2000, 0x200A),
   (0x2028, 0x2029), (0x202F, 0x202F), (0x205F, 0x205F), (0x3000, 0x3000)]

def isBlank (c : Char) : Bool := inRanges blankRanges c.toNat

def isPadding (c : Char) : Bool := isBlank c && !(0x1C ≤ c.toNat && c.toNat ≤ 0x1F)

def trimEnds (isOuter : Char → Bool) (s : List Char) : List Char :=
  ((s.dropWhile isOuter).reverse.dropWhile isOuter).reverse

def trim (s : String) : String := String.ofList (trimEnds isBlank s.toList)

example : areAscending blankRanges = true ∧ countOf blankRanges = 29 := by decide
example : isBlank 'a' = false ∧ isBlank '\u200b' = false := by decide

end ApplianceCloud.Text
