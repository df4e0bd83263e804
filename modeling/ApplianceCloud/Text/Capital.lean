/-!
# Letters without regard to case

Names of kinds are compared with words of ASCII letters after a change of case. `capitals` maps the
ASCII letters and the characters whose capitals are ASCII letters; every other character stays as it
is, because its capitals hold a character outside of ASCII and so never complete such a word.
-/

namespace ApplianceCloud.Text

def capitalsOf (c : Char) : List Char :=
  if c.isLower then [c.toUpper]
  else
    match c with
    | 'ß' => ['S', 'S']
    | 'ı' => ['I']
    | 'ſ' => ['S']
    | 'ﬀ' => ['F', 'F']
    | 'ﬁ' => ['F', 'I']
    | 'ﬂ' => ['F', 'L']
    | 'ﬃ' => ['F', 'F', 'I']
    | 'ﬄ' => ['F', 'F', 'L']
    | 'ﬅ' => ['S', 'T']
    | 'ﬆ' => ['S', 'T']
    | _ => [c]

def capitals (s : String) : String := String.ofList (s.toList.flatMap capitalsOf)

/-- The small letter of a character, where it is an ASCII letter: the Kelvin sign has one too. -/
def smallOf (c : Char) : Char := if c = '\u212a' then 'k' else c.toLower

def smalls (s : String) : String := String.ofList (s.toList.map smallOf)

def endsIn (s word : String) : Bool := word.toList.isSuffixOf s.toList

def occursIn (word : List Char) : List Char → Bool
  | [] => word.isEmpty
  | c :: rest => word.isPrefixOf (c :: rest) || occursIn word rest

example : capitals "waﬁ" = "WAFI" ∧ smalls "Enum" = "enum" := by decide +kernel

end ApplianceCloud.Text
