import ApplianceCloud.Capability.OptionMap
import ApplianceCloud.Text.Capital

namespace ApplianceCloud

inductive FeatureKind where
  | enum
  | range
  | boolean
  | bit
  | undefined
  deriving DecidableEq, Repr

namespace FeatureKind

def all : List FeatureKind := [enum, range, boolean, bit, undefined]

def name : FeatureKind → String
  | enum => "enum"
  | range => "range"
  | boolean => "boolean"
  | bit => "bit"
  | undefined => "undef"

def ofDocument (d : Document) : FeatureKind :=
  let word := Text.smalls (d.orElse (.text "")).display
  (all.find? (·.name = word)).getD undefined

end FeatureKind

structure Feature where
  name : String
  label : String
  readOnly : Bool
  kind : FeatureKind
  labels : Fields String
  deriving DecidableEq, Repr

namespace Feature

def labelFor? (feature : Feature) (code : String) : Option String := feature.labels.lookup code

def codeFor? (feature : Feature) (label : String) : Option String :=
  OptionMap.codeFor? feature.labels label

def ofNode? (node : Fields Document) (name optionsKey : String) (readOnly : Bool) : Option Feature :=
  (node.lookup name).bind fun declared =>
    declared.object?.map fun members => {
      name
      label := ((members.orNull "label").orElse (.text name)).display
      readOnly
      kind := .ofDocument ((members.lookup "dataType").getD (members.orNull "type"))
      labels := OptionMap.codeLabels (members.orNull optionsKey) }

end Feature

end ApplianceCloud
