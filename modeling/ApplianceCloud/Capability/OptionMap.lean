import ApplianceCloud.Document.Display

/-!
# Option maps

An appliance knows the values of a setting by codes, and its capability document gives every code a
label. `codeLabels` reads such a node in either orientation: labels of the vendor start with `@`, so
an entry that is keyed by its label is turned around. A code or a label that came before is skipped,
so the map is a bijection.
-/

namespace ApplianceCloud.OptionMap

def unusedLabel : String := "@NON"

def labelOf : Document → String
  | .null => ""
  | .object members =>
      (((Fields.orNull members "label").orElse (Fields.orNull members "_comment")).orElse (.text "")).display
  | other => other.display

def isVendorLabel (s : String) : Bool := s.toList.head? = some '@'

def normalized (entry : String × Document) : String × String :=
  let label := if labelOf entry.2 = "" then entry.1 else labelOf entry.2
  if isVendorLabel entry.1 && !isVendorLabel label then (label, entry.1) else (entry.1, label)

def clash (entry other : String × String) : Bool := entry.1 = other.1 || entry.2 = other.2

def retain (kept : Fields String) (entry : String × String) : Fields String :=
  if kept.any (clash entry) then kept else kept ++ [entry]

def codeLabels (options : Document) : Fields String :=
  ((options.object?.getD []).map normalized).foldl retain []

def codeFor? (labels : Fields String) (label : String) : Option String :=
  (labels.find? (·.2 = label)).map (·.1)

def optionsIn (node : Document) (name optionsKey : String) : Document :=
  (((node.member? name).getD .null).member? optionsKey).getD .null

def labelsIn (options : Document) : List String :=
  match options with
  | .object members => members.map fun member => labelOf member.2
  | .list items => items.map labelOf
  | _ => []

def listedLabels (node : Document) (optionsKey : String) : List String :=
  labelsIn (if node.isObject then (node.member? optionsKey).getD .null else node)

/-- The code that an entry of a support list names, by label or by code. -/
def supportedCode? (labels : Fields String) (entry : String) : Option String :=
  if entry = unusedLabel then none
  else match codeFor? labels entry with
    | some code => some code
    | none => if labels.has entry then some entry else none

/-- The codes that a support node lists, each once, in the order of first mention. A missing node
supports every code. -/
def supportedCodes (node : Document) (optionsKey : String) (labels : Fields String) : List String :=
  if node.isNull then labels.keys
  else
    ((listedLabels node optionsKey).filterMap (supportedCode? labels)).foldl
      (fun codes code => if code ∈ codes then codes else codes ++ [code]) []

def operatorLabels (labels : Fields String) (supported : List String) (wordings : Fields String) :
    Fields String :=
  supported.filterMap fun code =>
    (labels.lookup code).map fun label => (code, (wordings.lookup label).getD label)

example : codeLabels (.object [("@A", .text "1"), ("2", .text "@B"), ("3", .text "@A")]) =
    [("1", "@A"), ("2", "@B")] := by decide +kernel

end ApplianceCloud.OptionMap
