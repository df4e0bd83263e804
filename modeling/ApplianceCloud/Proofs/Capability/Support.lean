import ApplianceCloud.Proofs.Capability.Wording

namespace ApplianceCloud

namespace OptionMap

inductive Enumerates (optionsKey : String) : Document → List String → Prop where
  | items (items : List Document) : Enumerates optionsKey (.list items) (items.map labelOf)
  | optionItems {members : Fields Document} {items : List Document}
      (found : members.lookup optionsKey = some (.list items)) :
      Enumerates optionsKey (.object members) (items.map labelOf)
  | optionValues {members options : Fields Document}
      (found : members.lookup optionsKey = some (.object options)) :
      Enumerates optionsKey (.object members) (options.values.map labelOf)
  | nothing {node : Document} (notList : ∀ items, node ≠ .list items)
      (notOptions : ∀ members, node = .object members →
        (∀ items, members.lookup optionsKey ≠ some (.list items)) ∧
          ∀ options, members.lookup optionsKey ≠ some (.object options)) :
      Enumerates optionsKey node []

/-- Whether an entry of a support list names a code: by its label, or as a code that is no label. -/
def Names (labels : Fields String) (entry code : String) : Prop :=
  entry ≠ unusedLabel ∧ (labels.lookup code = some entry ∨
    entry = code ∧ labels.has code = true ∧ ∀ other, labels.lookup other ≠ some entry)

def NamedBefore (labels : Fields String) (entries : List String) (code other : String) : Prop :=
  ∃ before after, entries = before ++ after ∧ (∃ entry ∈ before, Names labels entry code) ∧
    ∀ entry ∈ before, ¬ Names labels entry other

/-- The codes that entries name, each once, in the order of first mention. -/
structure IsSupported (labels : Fields String) (entries codes : List String) : Prop where
  nodup : codes.Nodup
  mem_iff : ∀ code, code ∈ codes ↔ ∃ entry ∈ entries, Names labels entry code
  ordered : codes.Pairwise (NamedBefore labels entries)

section Entries

variable {labels : Fields String} {entries codes : List String} {entry code other : String}

theorem Enumerates.of_unlisted {members : Fields Document} {optionsKey : String}
    (noItems : ∀ items, members.lookup optionsKey ≠ some (.list items))
    (noOptions : ∀ options, members.lookup optionsKey ≠ some (.object options)) :
    Enumerates optionsKey (.object members) [] := by
  refine .nothing (by rintro _ ⟨⟩) ?_
  rintro _ ⟨⟩
  exact ⟨noItems, noOptions⟩

theorem enumerates_listedLabels (node : Document) (optionsKey : String) :
    Enumerates optionsKey node (listedLabels node optionsKey) := by
  cases node with
  | list items => exact .items items
  | object members =>
    have below : listedLabels (.object members) optionsKey =
        labelsIn ((members.lookup optionsKey).getD .null) := rfl
    rw [below]
    cases found : members.lookup optionsKey with
    | none => exact .of_unlisted (by simp [found]) (by simp [found])
    | some value =>
      cases value with
      | list items => exact .optionItems found
      | object options =>
        have entries := Enumerates.optionValues found
        rwa [Fields.values, List.map_map] at entries
      | _ => exact .of_unlisted (by simp [found]) (by simp [found])
  | _ => exact .nothing (by rintro _ ⟨⟩) (by rintro _ ⟨⟩)

theorem supportedCode?_eq_some_iff (codes : (labels.map Prod.fst).Nodup)
    (distinct : (labels.map Prod.snd).Nodup) :
    supportedCode? labels entry = some code ↔ Names labels entry code := by
  have labelled (known : String) : codeFor? labels entry = some known ↔
      labels.lookup known = some entry := by
    rw [codeFor?_eq_some_iff_mem distinct, lookup_eq_some_iff_mem codes]
  unfold supportedCode? Names
  by_cases unused : entry = unusedLabel
  · simp [unused]
  · cases found : codeFor? labels entry with
    | some known =>
      have isLabel := (labelled known).1 found
      have only : labels.lookup code = some entry ↔ known = code := by
        rw [← labelled, found, Option.some.injEq]
      simp only [unused, if_false, Option.some.injEq, only, not_false_eq_true, true_and, ne_eq]
      exact ⟨.inl, fun named => named.resolve_right fun plain => plain.2.2 known isLabel⟩
    | none =>
      have isCode (known : String) : labels.lookup known ≠ some entry := by
        rw [ne_eq, ← labelled, found]
        exact nofun
      have byLabel : labels.lookup code ≠ some entry := isCode code
      simp only [unused, if_false, byLabel, false_or, not_false_eq_true, true_and, ne_eq]
      by_cases declared : labels.has entry = true
      · rw [if_pos declared, Option.some.injEq]
        exact ⟨fun same => ⟨same, same ▸ declared, isCode⟩, fun plain => plain.1⟩
      · rw [if_neg declared]
        exact ⟨nofun, fun plain => absurd (plain.1 ▸ plain.2.1) declared⟩

theorem NamedBefore.append (before : NamedBefore labels entries code other) (last : List String) :
    NamedBefore labels (entries ++ last) code other := by
  obtain ⟨first, rest, rfl, named, unnamed⟩ := before
  exact ⟨first, rest ++ last, List.append_assoc .., named, unnamed⟩

namespace IsSupported

theorem nil : IsSupported labels [] [] := ⟨.nil, by simp, .nil⟩

variable (supported : IsSupported labels entries codes)

include supported

theorem append_unnamed (unnamed : ∀ code, ¬ Names labels entry code) :
    IsSupported labels (entries ++ [entry]) codes := by
  refine ⟨supported.nodup, fun code => ?_, supported.ordered.imp fun before => before.append _⟩
  simp [supported.mem_iff, or_and_right, exists_or, unnamed]

theorem append_known (known : code ∈ codes)
    (named : ∀ other, Names labels entry other ↔ code = other) :
    IsSupported labels (entries ++ [entry]) codes := by
  refine ⟨supported.nodup, fun other => ?_, supported.ordered.imp fun before => before.append _⟩
  have stays : code = other → ∃ entry ∈ entries, Names labels entry other := by
    rintro rfl
    exact (supported.mem_iff code).1 known
  simpa [supported.mem_iff, or_and_right, exists_or, named] using stays

theorem append_new (new : code ∉ codes) (named : ∀ other, Names labels entry other ↔ code = other) :
    IsSupported labels (entries ++ [entry]) (codes ++ [code]) := by
  refine ⟨?_, fun other => ?_, List.pairwise_append.2 ⟨?_, ?_, ?_⟩⟩
  · simpa using supported.nodup.concat new
  · simp [supported.mem_iff, or_and_right, exists_or, named, eq_comm]
  · exact supported.ordered.imp fun before => before.append _
  · exact List.pairwise_singleton _ _
  · intro old member last own
    rw [List.mem_singleton.1 own]
    have unnamed : ∀ entry ∈ entries, ¬ Names labels entry code := fun entry listed names =>
      new ((supported.mem_iff code).2 ⟨entry, listed, names⟩)
    exact ⟨entries, [entry], rfl, (supported.mem_iff old).1 member, unnamed⟩

theorem append (distinctCodes : (labels.map Prod.fst).Nodup)
    (distinct : (labels.map Prod.snd).Nodup) (entry : String) :
    IsSupported labels (entries ++ [entry]) ((supportedCode? labels entry).toList.foldl
      (fun codes code => if code ∈ codes then codes else codes ++ [code]) codes) := by
  have names (code : String) : supportedCode? labels entry = some code ↔ Names labels entry code :=
    supportedCode?_eq_some_iff distinctCodes distinct
  cases found : supportedCode? labels entry with
  | none =>
    refine supported.append_unnamed fun code named => ?_
    rw [← names, found] at named
    cases named
  | some code =>
    have named (other : String) : Names labels entry other ↔ code = other := by
      rw [← names, found, Option.some.injEq]
    simp only [Option.toList_some, List.foldl_cons, List.foldl_nil]
    split_ifs with known
    · exact supported.append_known known named
    · exact supported.append_new known named

end IsSupported

theorem isSupported_foldl (codes : (labels.map Prod.fst).Nodup)
    (distinct : (labels.map Prod.snd).Nodup) (entries : List String) :
    IsSupported labels entries ((entries.filterMap (supportedCode? labels)).foldl
      (fun codes code => if code ∈ codes then codes else codes ++ [code]) []) := by
  -- The loop goes from the first entry to the last, so the last entry is taken off.
  induction entries using List.reverseRecOn with
  | nil => exact .nil
  | append_singleton entries entry ih =>
    have last : [entry].filterMap (supportedCode? labels) = (supportedCode? labels entry).toList := by
      cases found : supportedCode? labels entry <;> simp [found]
    rw [List.filterMap_append, List.foldl_append, last]
    exact ih.append codes distinct entry

theorem isSupported_supportedCodes {node : Document} (given : node.isNull = false)
    (optionsKey : String) (codes : (labels.map Prod.fst).Nodup)
    (distinct : (labels.map Prod.snd).Nodup) :
    IsSupported labels (listedLabels node optionsKey) (supportedCodes node optionsKey labels) := by
  rw [supportedCodes, if_neg (by simp [given])]
  exact isSupported_foldl codes distinct _

end Entries

theorem forall₂_operatorLabels {labels wordings : Fields String} {codes : List String}
    (declared : ∀ code ∈ codes, ∃ label, labels.lookup code = some label) :
    List.Forall₂ (fun code entry => entry.1 = code ∧ ∃ label, labels.lookup code = some label ∧
      entry.2 = worded wordings label) codes (operatorLabels labels codes wordings) := by
  induction codes with
  | nil => exact .nil
  | cons code rest ih =>
    obtain ⟨⟨label, found⟩, later⟩ := List.forall_mem_cons.1 declared
    have first : operatorLabels labels (code :: rest) wordings =
        (code, worded wordings label) :: operatorLabels labels rest wordings := by
      simp [operatorLabels, found, worded]
    rw [first]
    exact .cons ⟨rfl, label, found, rfl⟩ (ih later)

end OptionMap

namespace Setting

open OptionMap

/-- A setting that supports what a support node lists, of the codes of an options node, and shows the
supported codes with the wordings of their labels. -/
structure Offers (setting : Setting) (options support : Document) (optionsKey : String)
    (wordings : Fields String) : Prop where
  labels : setting.labels = codeLabels options
  nodup : setting.supported.Nodup
  declared : ∀ code ∈ setting.supported, setting.labels.has code = true
  unlisted : support.isNull = true → setting.supported = setting.labels.keys
  listed : support.isNull = false → ∃ entries, Enumerates optionsKey support entries ∧
    IsSupported setting.labels entries setting.supported
  shown : List.Forall₂ (fun code entry => entry.1 = code ∧ ∃ label,
      setting.labels.lookup code = some label ∧ entry.2 = worded wordings label)
    setting.supported setting.operatorLabels

variable {wordings : Fields String}

theorem offers_of_settingOf {setting : Setting} {value : Fields Document}
    {node support optionsKey : String}
    (read : AirConditioner.settingOf value node support optionsKey wordings = .ok setting) :
    ∃ members : Fields Document, value.lookup node = some (.object members) ∧
      setting.Offers (members.orNull optionsKey) (value.orNull support) optionsKey wordings := by
  have isRead := isRead_of_settingOf read
  unfold AirConditioner.settingOf at read
  split at read
  · cases read
  · next members present =>
    cases read
    have declared := isRead.declared
    have unlisted (null : (value.orNull support).isNull = true) :
        supportedCodes (value.orNull support) optionsKey (codeLabels (members.orNull optionsKey)) =
          (codeLabels (members.orNull optionsKey)).keys := by
      rw [supportedCodes, if_pos null]
    have listed (given : (value.orNull support).isNull = false) :=
      isSupported_supportedCodes given optionsKey isRead.codes_nodup isRead.labels_nodup
    refine ⟨members, Fields.lookup_of_object?_orNull present, rfl, ?_, fun code member => ?_, unlisted,
      fun given => ⟨_, enumerates_listedLabels _ _, listed given⟩, forall₂_operatorLabels declared⟩
    · cases null : (value.orNull support).isNull with
      | true => exact (unlisted null).symm ▸ isRead.codes_nodup
      | false => exact (listed null).nodup
    · obtain ⟨label, found⟩ := declared code member
      simp [Fields.has, found]

end Setting

namespace AirConditioner

theorem offers_listed {document : Document} {requested : Option Family} {unit : AirConditioner}
    (read : Capability.ofDocument document requested = .ok (.airConditioner unit)) :
    ∃ value modes speeds : Fields Document, document.member? "Value" = some (.object value) ∧
      let names := nodeNames unit.header.generation
      value.lookup names.operationMode = some (.object modes) ∧
      value.lookup names.fanSpeed = some (.object speeds) ∧
      unit.operationMode.Offers (modes.orNull names.options) (value.orNull names.supportedModes)
        names.options Labels.operationMode ∧
      unit.fanSpeed.Offers (speeds.orNull names.options) (value.orNull names.supportedSpeeds)
        names.options Labels.fanSpeed := by
  obtain ⟨members, generation, rfl, -, read⟩ := exists_generation read
  unfold ofDocument at read
  dsimp only at read
  split at read
  · cases read
  · next value present =>
    simp only [bind_eq_ok_iff, pure_eq_ok_iff] at read
    obtain ⟨operationMode, readMode, fanSpeed, readSpeed, reporting, -, rfl⟩ := read
    obtain ⟨modes, node, offers⟩ := Setting.offers_of_settingOf readMode
    obtain ⟨speeds, node', offers'⟩ := Setting.offers_of_settingOf readSpeed
    exact ⟨value, modes, speeds, Fields.lookup_of_object?_orNull present, node, node', offers, offers'⟩

def slotted : Document :=
  .object [
    ("Info", .object [("productType", .text "AC")]),
    ("Value", .object [
      ("OpMode", .object [("option", .object [
        ("0", .text "1"), ("1", .text "@AC_MAIN_OPERATION_MODE_COOL_W"),
        ("@AC_MAIN_OPERATION_MODE_DRY_W", .int 2)])]),
      ("WindStrength", .object [("option", .object [("2", .text "@AC_MAIN_WIND_STRENGTH_LOW_W")])]),
      ("SupportOpMode", .object [("option", .object [
        ("a", .text "@NON"), ("b", .int 2), ("c", .text "1"), ("d", .text "9"),
        ("e", .text "@AC_MAIN_OPERATION_MODE_COOL_W"), ("f", .text "2")])])])]

theorem offers_listed_slotted : ∃ unit,
    Capability.ofDocument slotted none = .ok (.airConditioner unit) ∧
    unit.operationMode.operatorLabels = [("2", "Dry"), ("0", "1"), ("1", "Cool")] ∧
    unit.fanSpeed.operatorLabels = [("2", "Low")] ∧
    ∃ options support, support.isNull = false ∧
      unit.operationMode.Offers options support "option" Labels.operationMode ∧
      ∃ options, unit.fanSpeed.Offers options .null "option" Labels.fanSpeed := by
  have read : Capability.ofDocument slotted none = .ok (.airConditioner _) := rfl
  refine ⟨_, read, rfl, rfl, ?_⟩
  obtain ⟨value, modes, speeds, found, -, -, offers, offers'⟩ := offers_listed read
  cases found
  exact ⟨_, _, rfl, offers, _, offers'⟩

end AirConditioner

end ApplianceCloud
