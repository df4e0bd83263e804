import ApplianceCloud.Proofs.Capability.AirConditioner
import ApplianceCloud.Proofs.Capability.Bijection

namespace ApplianceCloud

namespace OptionMap

/-- Wordings that are all different, and of which none has a wording itself. -/
structure IsVocabulary (wordings : Fields String) : Prop where
  nodup : (wordings.map Prod.snd).Nodup
  final : ∀ entry ∈ wordings, wordings.lookup entry.2 = none

def worded (wordings : Fields String) (label : String) : String :=
  (wordings.lookup label).getD label

section Worded

variable {wordings : Fields String} {label other : String}

theorem worded_of_lookup {wording : String} (found : wordings.lookup label = some wording) :
    worded wordings label = wording := by
  simp [worded, found]

theorem worded_of_none (missing : wordings.lookup label = none) : worded wordings label = label := by
  simp [worded, missing]

variable (vocabulary : IsVocabulary wordings)
include vocabulary

theorem IsVocabulary.lookup_wording (found : wordings.lookup label = some other) :
    wordings.lookup other = none :=
  vocabulary.final (label, other) (Fields.mem_of_lookup found)

theorem IsVocabulary.eq_of_lookup {wording : String} (here : wordings.lookup label = some wording)
    (there : wordings.lookup other = some wording) : label = other := by
  have member : (label, wording) ∈ wordings := Fields.mem_of_lookup here
  have member' : (other, wording) ∈ wordings := Fields.mem_of_lookup there
  have same := List.inj_on_of_nodup_map vocabulary.nodup member member' rfl
  exact congrArg Prod.fst same

theorem IsVocabulary.worded_eq_of_lookup (found : wordings.lookup label = some other) :
    worded wordings label = worded wordings other := by
  have final : wordings.lookup other = none := vocabulary.lookup_wording found
  rw [worded_of_lookup found, worded_of_none final]

theorem IsVocabulary.worded_eq_iff : worded wordings label = worded wordings other ↔
    label = other ∨ wordings.lookup label = some other ∨ wordings.lookup other = some label := by
  constructor
  · intro same
    cases here : wordings.lookup label with
    | none =>
      rw [worded_of_none here] at same
      cases there : wordings.lookup other with
      | none =>
        rw [worded_of_none there] at same
        exact .inl same
      | some wording =>
        rw [worded_of_lookup there] at same
        exact .inr (.inr (same ▸ rfl))
    | some wording =>
      rw [worded_of_lookup here] at same
      cases there : wordings.lookup other with
      | none =>
        rw [worded_of_none there] at same
        exact .inr (.inl (same ▸ rfl))
      | some wording' =>
        rw [worded_of_lookup there] at same
        subst same
        exact .inl (vocabulary.eq_of_lookup here there)
  · rintro (rfl | found | found)
    · rfl
    · exact vocabulary.worded_eq_of_lookup found
    · exact (vocabulary.worded_eq_of_lookup found).symm

end Worded

theorem lookup_operatorLabels (labels wordings : Fields String) (supported : List String)
    (code : String) : (operatorLabels labels supported wordings).lookup code =
      if code ∈ supported then (labels.lookup code).map (worded wordings) else none := by
  induction supported with
  | nil => rfl
  | cons first rest ih =>
    rw [operatorLabels] at ih ⊢
    by_cases here : code = first
    · subst here
      cases declared : labels.lookup code with
      | none =>
        simp only [List.filterMap_cons, declared, Option.map_none, List.mem_cons, true_or, if_true]
        rw [ih, declared]
        simp
      | some label => simp [declared, worded]
    · have skip : (code == first) = false := by simpa using here
      cases declared : labels.lookup first with
      | none => simpa [List.filterMap_cons, declared, here] using ih
      | some label => simpa [List.filterMap_cons, declared, List.lookup_cons, skip, here] using ih

theorem mem_foldl_distinct {codes : List String} {code : String} (entries : List String)
    (member : code ∈ entries.foldl
      (fun codes code => if code ∈ codes then codes else codes ++ [code]) codes) :
    code ∈ codes ∨ code ∈ entries := by
  induction entries generalizing codes with
  | nil => exact .inl member
  | cons entry rest ih =>
    rw [List.foldl_cons] at member
    rcases ih member with known | later
    · split at known
      · exact .inl known
      · rcases List.mem_append.1 known with known | last
        · exact .inl known
        · rw [List.mem_singleton.1 last]
          exact .inr List.mem_cons_self
    · exact .inr (List.mem_cons_of_mem _ later)

theorem exists_label_of_supportedCode? {labels : Fields String} {entry code : String}
    (distinct : (labels.map Prod.fst).Nodup) (supports : supportedCode? labels entry = some code) :
    ∃ label, labels.lookup code = some label := by
  unfold supportedCode? at supports
  split at supports
  · cases supports
  · split at supports
    · next found =>
      cases supports
      obtain ⟨⟨known, label⟩, first, rfl⟩ := Option.map_eq_some_iff.1 found
      have member : (known, label) ∈ labels := List.mem_of_find?_eq_some first
      exact ⟨label, (lookup_eq_some_iff_mem distinct).2 member⟩
    · split at supports
      · next declared =>
        cases supports
        exact Option.isSome_iff_exists.1 declared
      · cases supports

theorem exists_label_of_mem_supportedCodes {node : Document} {optionsKey : String}
    {labels : Fields String} (distinct : (labels.map Prod.fst).Nodup) {code : String}
    (member : code ∈ supportedCodes node optionsKey labels) :
    ∃ label, labels.lookup code = some label := by
  unfold supportedCodes at member
  split at member
  · obtain ⟨⟨known, label⟩, declared, rfl⟩ := List.mem_map.1 member
    exact ⟨label, (lookup_eq_some_iff_mem distinct).2 declared⟩
  · rcases mem_foldl_distinct _ member with none | listed
    · cases none
    · obtain ⟨entry, -, supports⟩ := List.mem_filterMap.1 listed
      exact exists_label_of_supportedCode? distinct supports

end OptionMap

namespace Setting

open OptionMap

structure IsRead (setting : Setting) (wordings : Fields String) : Prop where
  codes_nodup : (setting.labels.map Prod.fst).Nodup
  labels_nodup : (setting.labels.map Prod.snd).Nodup
  declared : ∀ code ∈ setting.supported, ∃ label, setting.labels.lookup code = some label
  shown : setting.operatorLabels =
    OptionMap.operatorLabels setting.labels setting.supported wordings

def Unambiguous (setting : Setting) : Prop :=
  ∀ code other label, setting.operatorLabels.lookup code = some label →
    setting.operatorLabels.lookup other = some label → code = other

/-- Whether a supported code is declared with the wording of another one. -/
def Overlaps (setting : Setting) (wordings : Fields String) : Prop :=
  ∃ code ∈ setting.supported, ∃ other ∈ setting.supported, ∃ label wording,
    setting.labels.lookup code = some label ∧ setting.labels.lookup other = some wording ∧
      wordings.lookup label = some wording

variable {setting : Setting} {wordings : Fields String}

theorem isRead_of_settingOf {value : Fields Document} {node support optionsKey : String}
    (read : AirConditioner.settingOf value node support optionsKey wordings = .ok setting) :
    setting.IsRead wordings := by
  unfold AirConditioner.settingOf at read
  split at read
  · cases read
  · next members _ =>
    cases read
    have codes : ((codeLabels (members.orNull optionsKey)).map Prod.fst).Nodup :=
      nodup_codeLabels isTelling_code _
    refine ⟨codes, nodup_codeLabels isTelling_label _, ?_, rfl⟩
    intro code member
    exact exists_label_of_mem_supportedCodes codes member

section IsRead

variable (read : setting.IsRead wordings)
include read

theorem IsRead.lookup_eq_some_iff {code shown : String} :
    setting.operatorLabels.lookup code = some shown ↔ code ∈ setting.supported ∧
      ∃ label, setting.labels.lookup code = some label ∧ worded wordings label = shown := by
  rw [read.shown, lookup_operatorLabels]
  by_cases member : code ∈ setting.supported <;> simp [member]

theorem IsRead.eq_of_label {code other label : String}
    (here : setting.labels.lookup code = some label)
    (there : setting.labels.lookup other = some label) : code = other := by
  have member : (code, label) ∈ setting.labels := Fields.mem_of_lookup here
  have member' : (other, label) ∈ setting.labels := Fields.mem_of_lookup there
  have same := List.inj_on_of_nodup_map read.labels_nodup member member' rfl
  exact congrArg Prod.fst same

theorem IsRead.not_overlaps (vocabulary : IsVocabulary wordings)
    (unambiguous : setting.Unambiguous) : ¬ setting.Overlaps wordings := by
  rintro ⟨code, member, other, member', label, wording, declared, declared', found⟩
  have final : wordings.lookup wording = none := vocabulary.lookup_wording found
  have shown : setting.operatorLabels.lookup code = some wording :=
    read.lookup_eq_some_iff.2 ⟨member, label, declared, worded_of_lookup found⟩
  have shown' : setting.operatorLabels.lookup other = some wording :=
    read.lookup_eq_some_iff.2 ⟨member', wording, declared', worded_of_none final⟩
  -- One code cannot have both labels, of which only the first has a wording.
  have same : code = other := unambiguous code other wording shown shown'
  rw [same, declared'] at declared
  cases declared
  rw [final] at found
  cases found

theorem IsRead.unambiguous (vocabulary : IsVocabulary wordings)
    (apart : ¬ setting.Overlaps wordings) : setting.Unambiguous := by
  intro code other shown here there
  obtain ⟨member, label, declared, same⟩ := read.lookup_eq_some_iff.1 here
  obtain ⟨member', label', declared', same'⟩ := read.lookup_eq_some_iff.1 there
  have alike : worded wordings label = worded wordings label' := same.trans same'.symm
  rcases vocabulary.worded_eq_iff.1 alike with rfl | found | found
  · exact read.eq_of_label declared declared'
  · exact absurd ⟨code, member, other, member', label, label', declared, declared', found⟩ apart
  · exact absurd ⟨other, member', code, member, label', label, declared', declared, found⟩ apart

theorem IsRead.unambiguous_iff_not_overlaps (vocabulary : IsVocabulary wordings) :
    setting.Unambiguous ↔ ¬ setting.Overlaps wordings :=
  ⟨read.not_overlaps vocabulary, read.unambiguous vocabulary⟩

end IsRead

end Setting

namespace Labels

theorem isVocabulary_operationMode : OptionMap.IsVocabulary operationMode :=
  ⟨by decide, by decide⟩

theorem isVocabulary_fanSpeed : OptionMap.IsVocabulary fanSpeed := ⟨by decide, by decide⟩

end Labels

namespace AirConditioner

theorem isRead_of_ofDocument {document : Fields Document} {family : Family} {generation : Generation}
    {unit : AirConditioner} (read : ofDocument document family generation = .ok unit) :
    unit.operationMode.IsRead Labels.operationMode ∧ unit.fanSpeed.IsRead Labels.fanSpeed := by
  unfold ofDocument at read
  dsimp only at read
  split at read
  · cases read
  · simp only [bind_eq_ok_iff, pure_eq_ok_iff] at read
    obtain ⟨operationMode, readMode, fanSpeed, readSpeed, reporting, -, rfl⟩ := read
    exact ⟨Setting.isRead_of_settingOf readMode, Setting.isRead_of_settingOf readSpeed⟩

/-- Every label of an air conditioner's setting that an operator sees belongs to one code, unless a
supported code is declared with the wording of another. -/
theorem unambiguous_iff {document : Document} {requested : Option Family} {unit : AirConditioner}
    (read : Capability.ofDocument document requested = .ok (.airConditioner unit)) :
    (unit.operationMode.Unambiguous ↔ ¬ unit.operationMode.Overlaps Labels.operationMode) ∧
      (unit.fanSpeed.Unambiguous ↔ ¬ unit.fanSpeed.Overlaps Labels.fanSpeed) := by
  obtain ⟨members, generation, -, -, read⟩ := exists_generation read
  obtain ⟨mode, speed⟩ := isRead_of_ofDocument read
  exact ⟨mode.unambiguous_iff_not_overlaps Labels.isVocabulary_operationMode,
    speed.unambiguous_iff_not_overlaps Labels.isVocabulary_fanSpeed⟩

def twiceCool : Document :=
  .object [
    ("Info", .object [("productType", .text "AC")]),
    ("Value", .object [
      ("OpMode", .object [("option", .object [
        ("0", .text "@AC_MAIN_OPERATION_MODE_COOL_W"), ("1", .text "Cool")])]),
      ("WindStrength", .object [("option", .object [
        ("2", .text "@AC_MAIN_WIND_STRENGTH_LOW_W"), ("4", .text "High")])]),
      ("SupportOpMode", .list [.text "0", .text "1"])])]

theorem ambiguous_twiceCool : ∃ unit,
    Capability.ofDocument twiceCool none = .ok (.airConditioner unit) ∧
    unit.operationMode.operatorLabels = [("0", "Cool"), ("1", "Cool")] ∧
    ¬ unit.operationMode.Unambiguous := by
  refine ⟨_, rfl, rfl, ?_⟩
  intro unambiguous
  have same : "0" = "1" := unambiguous "0" "1" "Cool" rfl rfl
  exact absurd same (by decide)

theorem not_unambiguous_twiceCool : ∃ unit,
    Capability.ofDocument twiceCool none = .ok (.airConditioner unit) ∧
    ¬ unit.operationMode.Unambiguous ∧ unit.fanSpeed.Unambiguous := by
  obtain ⟨unit, read, modes, codes, speeds⟩ : ∃ unit,
      Capability.ofDocument twiceCool none = .ok (.airConditioner unit) ∧
      unit.operationMode.labels = [("0", "@AC_MAIN_OPERATION_MODE_COOL_W"), ("1", "Cool")] ∧
      unit.operationMode.supported = ["0", "1"] ∧
      unit.fanSpeed.labels = [("2", "@AC_MAIN_WIND_STRENGTH_LOW_W"), ("4", "High")] :=
    ⟨_, rfl, rfl, rfl, rfl⟩
  have overlaps : unit.operationMode.Overlaps Labels.operationMode := by
    refine ⟨"0", by simp [codes], "1", by simp [codes], "@AC_MAIN_OPERATION_MODE_COOL_W", "Cool",
      ?_, ?_, by decide⟩
    · rw [modes]
      decide
    · rw [modes]
      decide
  have apart : ¬ unit.fanSpeed.Overlaps Labels.fanSpeed := by
    rintro ⟨code, -, other, -, label, wording, declared, declared', found⟩
    rw [speeds] at declared declared'
    have here := Fields.mem_of_lookup declared
    have there := Fields.mem_of_lookup declared'
    simp only [List.mem_cons, Prod.mk.injEq, List.not_mem_nil, or_false] at here there
    rcases here with ⟨-, rfl⟩ | ⟨-, rfl⟩ <;> rcases there with ⟨-, rfl⟩ | ⟨-, rfl⟩ <;>
      exact absurd found (by decide)
  exact ⟨unit, read, fun unambiguous => (unambiguous_iff read).1.1 unambiguous overlaps,
    (unambiguous_iff read).2.2 apart⟩

end AirConditioner

end ApplianceCloud
