import ApplianceCloud.Capability.Basic
import ApplianceCloud.Capability.OptionMap
import Mathlib.Data.List.Forall2
import Mathlib.Data.List.Nodup

namespace ApplianceCloud.OptionMap

/-- A code with a label of the vendor, of which neither can be taken for the other. -/
structure IsEntry (entry : String × String) : Prop where
  code_ne : entry.1 ≠ ""
  code_plain : isVendorLabel entry.1 = false
  label_vendor : isVendorLabel entry.2 = true
  label_ne : entry.2 ≠ unusedLabel

structure CodeTable where
  entries : Fields String
  codes_nodup : (entries.map Prod.fst).Nodup
  labels_nodup : (entries.map Prod.snd).Nodup
  isEntry : ∀ entry ∈ entries, IsEntry entry

inductive Writes : String × Document → String × String → Prop where
  | byCode {code label : String} {value : Document} (declares : labelOf value = label) :
      Writes (code, value) (code, label)
  | byLabel {code label : String} {value : Document} (declares : labelOf value = code) :
      Writes (label, value) (code, label)

def Lists (options : Document) (table : CodeTable) : Prop :=
  List.Forall₂ Writes (options.object?.getD []) table.entries

section Retain

variable {entry : String × String} {kept : Fields String}

theorem retain_of_fresh (code : entry.1 ∉ kept.map Prod.fst) (label : entry.2 ∉ kept.map Prod.snd) :
    retain kept entry = kept ++ [entry] := by
  have apart : kept.any (clash entry) = false := by
    simp only [List.any_eq_false, clash, Bool.or_eq_true, decide_eq_true_eq, not_or]
    intro other member
    exact ⟨fun same => code (same ▸ List.mem_map_of_mem member),
      fun same => label (same ▸ List.mem_map_of_mem member)⟩
  simp [retain, apart]

theorem foldl_retain (entries kept : Fields String) (codes : ((kept ++ entries).map Prod.fst).Nodup)
    (labels : ((kept ++ entries).map Prod.snd).Nodup) :
    entries.foldl retain kept = kept ++ entries := by
  induction entries generalizing kept with
  | nil => simp
  | cons entry rest ih =>
    have fresh {β : Type} (f : String × String → β)
        (distinct : ((kept ++ entry :: rest).map f).Nodup) : f entry ∉ kept.map f := by
      rw [List.map_append, List.map_cons, List.nodup_middle] at distinct
      exact fun member => (List.nodup_cons.1 distinct).1 (List.mem_append_left _ member)
    have added := retain_of_fresh (fresh Prod.fst codes) (fresh Prod.snd labels)
    rw [List.append_cons] at codes labels ⊢
    rw [List.foldl_cons, added, ih _ codes labels]

end Retain

section Directions

variable {labels : Fields String} {code label : String}

theorem lookup_eq_some_iff_mem (distinct : (labels.map Prod.fst).Nodup) :
    labels.lookup code = some label ↔ (code, label) ∈ labels := by
  constructor
  · exact Fields.mem_of_lookup
  · intro member
    cases found : labels.lookup code with
    | none => simpa using List.lookup_eq_none_iff.1 found _ member
    | some other =>
      have known : (code, other) ∈ labels := Fields.mem_of_lookup found
      have same := List.inj_on_of_nodup_map distinct known member rfl
      rw [(Prod.mk.inj same).2]

theorem codeFor?_eq_some_iff_mem (distinct : (labels.map Prod.snd).Nodup) :
    codeFor? labels label = some code ↔ (code, label) ∈ labels := by
  constructor
  · intro found
    obtain ⟨⟨known, name⟩, first, rfl⟩ := Option.map_eq_some_iff.1 found
    have same : name = label := by simpa using List.find?_some first
    exact same ▸ List.mem_of_find?_eq_some first
  · intro member
    cases found : labels.find? (·.2 = label) with
    | none => simpa using List.find?_eq_none.1 found _ member
    | some other =>
      have same : other.2 = label := by simpa using List.find?_some found
      have whole := List.inj_on_of_nodup_map distinct (List.mem_of_find?_eq_some found) member same
      simp [codeFor?, found, whole]

end Directions

section Entry

variable {entry : String × String}

theorem IsEntry.label_ne_empty (h : IsEntry entry) : entry.2 ≠ "" := by
  intro empty
  have vendor := h.label_vendor
  simp [empty, isVendorLabel] at vendor

theorem IsEntry.normalized_of_writes (h : IsEntry entry) {field : String × Document}
    (writes : Writes field entry) : normalized field = entry := by
  have code := h.code_ne
  have label := h.label_ne_empty
  have plain := h.code_plain
  have vendor := h.label_vendor
  cases writes with
  | byCode declares => simp_all [normalized]
  | byLabel declares => simp_all [normalized]

theorem map_normalized {fields : Fields Document} {entries : Fields String}
    (isEntry : ∀ entry ∈ entries, IsEntry entry) (writes : List.Forall₂ Writes fields entries) :
    fields.map normalized = entries := by
  induction writes with
  | nil => rfl
  | cons writes _ ih =>
    have first := (isEntry _ List.mem_cons_self).normalized_of_writes writes
    have rest := ih fun entry member => isEntry entry (List.mem_cons_of_mem _ member)
    rw [List.map_cons, first, rest]

end Entry

namespace CodeTable

theorem codeLabels_eq (table : CodeTable) {options : Document} (lists : Lists options table) :
    codeLabels options = table.entries := by
  rw [codeLabels, map_normalized table.isEntry lists]
  exact foldl_retain table.entries [] table.codes_nodup table.labels_nodup

variable (table : CodeTable) {entry : String × String}

theorem codeFor?_label (member : entry ∈ table.entries) :
    codeFor? table.entries entry.2 = some entry.1 :=
  (codeFor?_eq_some_iff_mem table.labels_nodup).2 member

theorem codeFor?_eq_none {label : String} (unknown : ∀ entry ∈ table.entries, entry.2 ≠ label) :
    codeFor? table.entries label = none := by
  simpa [codeFor?] using fun code label member => unknown (code, label) member

theorem has_code (member : entry ∈ table.entries) : table.entries.has entry.1 = true :=
  List.lookup_isSome_iff.2 ⟨entry, member, by simp⟩

theorem has_eq_false {code : String} (unknown : ∀ entry ∈ table.entries, entry.1 ≠ code) :
    table.entries.has code = false := by
  have missing : table.entries.lookup code = none :=
    List.lookup_eq_none_iff.2 fun entry member => by simpa using (unknown entry member).symm
  simp [Fields.has, missing]

def IsForeign (entry : String × String) : Prop :=
  ∀ known ∈ table.entries, known.1 ≠ entry.1 ∧ known.1 ≠ entry.2 ∧
    known.2 ≠ entry.1 ∧ known.2 ≠ entry.2

def Mentions (text : String) (entry : String × String) : Prop := text = entry.1 ∨ text = entry.2

def code? (entry : String × String) : Option String :=
  if entry ∈ table.entries then some entry.1 else none

theorem supportedCode?_of_mentions {text : String} (mentions : Mentions text entry)
    (recognised : entry ∈ table.entries ∨ table.IsForeign entry) :
    supportedCode? table.entries text = table.code? entry := by
  obtain member | foreign := recognised
  · have h := table.isEntry entry member
    obtain rfl | rfl := mentions
    · have used : entry.1 ≠ unusedLabel := by
        intro unused
        have plain := h.code_plain
        simp [unused, isVendorLabel, unusedLabel] at plain
      have other : codeFor? table.entries entry.1 = none := by
        refine table.codeFor?_eq_none fun known listed same => ?_
        have vendor := (table.isEntry known listed).label_vendor
        rw [same, h.code_plain] at vendor
        cases vendor
      simp [supportedCode?, used, other, table.has_code member, code?, member]
    · simp [supportedCode?, h.label_ne, table.codeFor?_label member, code?, member]
  · have unlisted : entry ∉ table.entries := fun member => (foreign entry member).1 rfl
    have unknown : codeFor? table.entries text = none ∧ table.entries.has text = false := by
      obtain rfl | rfl := mentions
      · exact ⟨table.codeFor?_eq_none fun known member => (foreign known member).2.2.1,
          table.has_eq_false fun known member => (foreign known member).1⟩
      · exact ⟨table.codeFor?_eq_none fun known member => (foreign known member).2.2.2,
          table.has_eq_false fun known member => (foreign known member).2.1⟩
    simp [supportedCode?, unknown, code?, unlisted]

end CodeTable

/-- A setting with its codes and the entries that it supports; without a list it supports all of its
codes. A list may hold entries that are not in the table. -/
structure SettingModel where
  table : CodeTable
  supported? : Option (List (String × String))
  recognised : ∀ entries, supported? = some entries →
    ∀ entry ∈ entries, entry ∈ table.entries ∨ table.IsForeign entry

/-- A support node that mentions entries in their order, between any number of unused places. -/
def Supports (node : Document) (optionsKey : String) : Option (List (String × String)) → Prop
  | none => node.isNull = true
  | some entries => node.isNull = false ∧ List.Forall₂ CodeTable.Mentions
      ((listedLabels node optionsKey).filter (· ≠ unusedLabel)) entries

namespace SettingModel

variable (model : SettingModel)

def supported : List String :=
  match model.supported? with
  | none => model.table.entries.keys
  | some entries => (entries.filterMap model.table.code?).foldl
      (fun codes code => if code ∈ codes then codes else codes ++ [code]) []

def setting (wordings : Fields String) : Setting where
  labels := model.table.entries
  supported := model.supported
  operatorLabels := operatorLabels model.table.entries model.supported wordings

theorem filterMap_supportedCode? {texts : List String} {entries : List (String × String)}
    (recognised : ∀ entry ∈ entries, entry ∈ model.table.entries ∨ model.table.IsForeign entry)
    (mentions : List.Forall₂ CodeTable.Mentions (texts.filter (· ≠ unusedLabel)) entries) :
    texts.filterMap (supportedCode? model.table.entries) = entries.filterMap model.table.code? := by
  have skip : texts.filterMap (supportedCode? model.table.entries) =
      (texts.filter (· ≠ unusedLabel)).filterMap (supportedCode? model.table.entries) := by
    rw [List.filterMap_filter]
    refine List.filterMap_congr fun text _ => ?_
    by_cases unused : text = unusedLabel <;> simp [unused, supportedCode?]
  rw [skip]
  generalize texts.filter (· ≠ unusedLabel) = used at mentions
  induction mentions with
  | nil => rfl
  | cons mentions _ ih =>
    have first := model.table.supportedCode?_of_mentions mentions (recognised _ List.mem_cons_self)
    have rest := ih fun entry member => recognised entry (List.mem_cons_of_mem _ member)
    rw [List.filterMap_cons, List.filterMap_cons, first, rest]

theorem supportedCodes_eq {node : Document} {optionsKey : String}
    (supports : Supports node optionsKey model.supported?) :
    supportedCodes node optionsKey model.table.entries = model.supported := by
  unfold supportedCodes supported
  cases listed : model.supported? with
  | none =>
    rw [listed] at supports
    simp [show node.isNull = true from supports]
  | some entries =>
    rw [listed] at supports
    obtain ⟨present, mentions⟩ := supports
    simp [present, model.filterMap_supportedCode? (model.recognised entries listed) mentions]

end SettingModel

end ApplianceCloud.OptionMap
