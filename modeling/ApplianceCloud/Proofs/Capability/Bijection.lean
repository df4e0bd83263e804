import ApplianceCloud.Proofs.Capability.Laundry
import ApplianceCloud.Proofs.Capability.OptionMap
import Mathlib.Data.List.Induction

namespace ApplianceCloud.OptionMap

def entriesAt (entries : Fields String) (places : List Nat) : Fields String :=
  places.filterMap (entries[·]?)

def Fresh (kept : Fields String) (entry : String × String) : Prop :=
  ∀ other ∈ kept, other.1 ≠ entry.1 ∧ other.2 ≠ entry.2

/-- Places of a list of entries, of which one is chosen if no earlier choice has its code or label. -/
structure Greedy (entries : Fields String) (places : List Nat) : Prop where
  increasing : places.Pairwise (· < ·)
  bounded : ∀ place ∈ places, place < entries.length
  chosen_iff : ∀ place entry, entries[place]? = some entry →
    (place ∈ places ↔ Fresh (entriesAt entries (places.filter (· < place))) entry)

def entriesOf (options : Document) : Fields String := (options.object?.getD []).map normalized

section Greedy

variable {entries : Fields String} {places : List Nat}

theorem entriesAt_append (bounded : ∀ place ∈ places, place < entries.length)
    (last : String × String) : entriesAt (entries ++ [last]) places = entriesAt entries places := by
  apply List.filterMap_congr
  intro place member
  exact List.getElem?_append_left (bounded place member)

theorem any_clash_iff {kept : Fields String} {entry : String × String} :
    kept.any (clash entry) = false ↔ Fresh kept entry := by
  simp only [Fresh, List.any_eq_false, clash, Bool.or_eq_true, decide_eq_true_eq, not_or,
    ne_comm, ne_eq]

namespace Greedy

theorem nil : Greedy [] [] := ⟨.nil, by simp, by simp⟩

variable (greedy : Greedy entries places)

include greedy

theorem filter_length : places.filter (· < entries.length) = places := by
  rw [List.filter_eq_self]
  intro place member
  exact decide_eq_true (greedy.bounded place member)

theorem chosen_iff_append {place : Nat} (small : place < entries.length)
    {entry last : String × String} (found : (entries ++ [last])[place]? = some entry) :
    place ∈ places ↔
      Fresh (entriesAt (entries ++ [last]) (places.filter (· < place))) entry := by
  have old : ∀ earlier ∈ places.filter (· < place), earlier < entries.length := fun _ member =>
    greedy.bounded _ (List.mem_filter.1 member).1
  rw [List.getElem?_append_left small] at found
  rw [entriesAt_append old, greedy.chosen_iff place entry found]

theorem append_stale {last : String × String} (stale : ¬ Fresh (entriesAt entries places) last) :
    Greedy (entries ++ [last]) places := by
  refine ⟨greedy.increasing, ?_, ?_⟩
  · intro place member
    rw [List.length_append]
    exact Nat.lt_add_right _ (greedy.bounded place member)
  · intro place entry found
    have room := (List.getElem?_eq_some_iff.1 found).1
    rw [List.length_append, List.length_singleton] at room
    rcases Nat.lt_succ_iff_lt_or_eq.1 room with small | rfl
    · exact greedy.chosen_iff_append small found
    · have isLast : last = entry := by simpa using found
      subst isLast
      rw [greedy.filter_length, entriesAt_append greedy.bounded]
      have unchosen : entries.length ∉ places := fun member =>
        Nat.lt_irrefl _ (greedy.bounded _ member)
      exact iff_of_false unchosen stale

theorem append_fresh {last : String × String} (fresh : Fresh (entriesAt entries places) last) :
    Greedy (entries ++ [last]) (places ++ [entries.length]) := by
  refine ⟨?_, ?_, ?_⟩
  · refine List.pairwise_append.2 ⟨greedy.increasing, List.pairwise_singleton _ _, ?_⟩
    intro place member other own
    rw [List.mem_singleton.1 own]
    exact greedy.bounded place member
  · intro place member
    rw [List.length_append, List.length_singleton]
    rcases List.mem_append.1 member with old | own
    · exact Nat.lt_succ_of_lt (greedy.bounded place old)
    · rw [List.mem_singleton.1 own]
      exact Nat.lt_succ_self _
  · intro place entry found
    have room := (List.getElem?_eq_some_iff.1 found).1
    rw [List.length_append, List.length_singleton] at room
    have notBefore : ¬ entries.length < place := Nat.not_lt.2 (Nat.le_of_lt_succ room)
    -- The new place comes last, so the choices before any place are the old ones.
    have earlier : (places ++ [entries.length]).filter (· < place) = places.filter (· < place) := by
      simp [List.filter_append, notBefore]
    rw [earlier]
    rcases Nat.lt_succ_iff_lt_or_eq.1 room with small | rfl
    · rw [← greedy.chosen_iff_append small found]
      simp [Nat.ne_of_lt small]
    · have isLast : last = entry := by simpa using found
      subst isLast
      rw [greedy.filter_length, entriesAt_append greedy.bounded]
      exact iff_of_true (List.mem_append_right _ List.mem_cons_self) fresh

theorem retain_last (last : String × String) : ∃ next, Greedy (entries ++ [last]) next ∧
    entriesAt (entries ++ [last]) next = retain (entriesAt entries places) last := by
  have old := entriesAt_append greedy.bounded last
  cases clashes : (entriesAt entries places).any (clash last) with
  | true =>
    have stale : ¬ Fresh (entriesAt entries places) last := by simp [← any_clash_iff, clashes]
    exact ⟨places, greedy.append_stale stale, by simp [old, retain, clashes]⟩
  | false =>
    refine ⟨places ++ [entries.length], greedy.append_fresh (any_clash_iff.1 clashes), ?_⟩
    have added : entriesAt (entries ++ [last]) [entries.length] = [last] := by simp [entriesAt]
    rw [entriesAt, List.filterMap_append, ← entriesAt, ← entriesAt, old, added]
    simp [retain, clashes]

end Greedy

theorem greedy_foldl (entries : Fields String) :
    ∃ places, Greedy entries places ∧ entriesAt entries places = entries.foldl retain [] := by
  induction entries using List.reverseRecOn with
  | nil => exact ⟨[], .nil, rfl⟩
  | append_singleton entries last ih =>
    obtain ⟨places, greedy, kept⟩ := ih
    obtain ⟨next, chosen, more⟩ := greedy.retain_last last
    exact ⟨next, chosen, by rw [more, kept, List.foldl_append]; rfl⟩

end Greedy

section Distinct

def IsTelling (part : String × String → String) : Prop :=
  ∀ entry other, part entry = part other → clash entry other = true

theorem isTelling_code : IsTelling Prod.fst := by
  intro entry other same
  simp [clash, same]

theorem isTelling_label : IsTelling Prod.snd := by
  intro entry other same
  simp [clash, same]

variable {part : String × String → String} (telling : IsTelling part) {kept : Fields String}

include telling

theorem nodup_retain {entry : String × String} (distinct : (kept.map part).Nodup) :
    ((retain kept entry).map part).Nodup := by
  cases clashes : kept.any (clash entry) with
  | true => simpa [retain, clashes] using distinct
  | false =>
    have new : part entry ∉ kept.map part := by
      intro member
      obtain ⟨other, known, same⟩ := List.mem_map.1 member
      exact List.any_eq_false.1 clashes other known (telling entry other same.symm)
    have next := distinct.concat new
    simpa [retain, clashes] using next

theorem nodup_foldl_retain {entries : Fields String} (distinct : (kept.map part).Nodup) :
    ((entries.foldl retain kept).map part).Nodup := by
  induction entries generalizing kept with
  | nil => exact distinct
  | cons entry rest ih => exact ih (nodup_retain telling distinct)

theorem nodup_codeLabels (options : Document) : ((codeLabels options).map part).Nodup :=
  nodup_foldl_retain telling List.nodup_nil

end Distinct

theorem lookup_codeLabels_iff (options : Document) {code label : String} :
    (codeLabels options).lookup code = some label ↔ codeFor? (codeLabels options) label = some code := by
  rw [lookup_eq_some_iff_mem (nodup_codeLabels isTelling_code options),
    codeFor?_eq_some_iff_mem (nodup_codeLabels isTelling_label options)]

end ApplianceCloud.OptionMap

namespace ApplianceCloud

def Feature.FromOptions (feature : Feature) : Prop :=
  ∃ options, feature.labels = OptionMap.codeLabels options

theorem Feature.fromOptions_of_ofNode? {node : Fields Document} {name optionsKey : String}
    {readOnly : Bool} {feature : Feature}
    (read : Feature.ofNode? node name optionsKey readOnly = some feature) : feature.FromOptions := by
  obtain ⟨declared, -, inner⟩ := Option.bind_eq_some_iff.1 read
  obtain ⟨members, -, rfl⟩ := Option.map_eq_some_iff.1 inner
  exact ⟨_, rfl⟩

theorem Feature.FromOptions.labelFor?_iff {feature : Feature} (read : feature.FromOptions)
    (code label : String) :
    feature.labelFor? code = some label ↔ feature.codeFor? label = some code := by
  obtain ⟨options, labels⟩ := read
  rw [Feature.labelFor?, Feature.codeFor?, labels, OptionMap.lookup_codeLabels_iff]

namespace Laundry

theorem fromOptions_of_mem_featuresOf {names : NodeNames} {document readings : Fields Document}
    {declared : LaundryFeature × Feature} (member : declared ∈ featuresOf names document readings) :
    declared.2.FromOptions := by
  obtain ⟨feature, -, found⟩ := List.mem_filterMap.1 member
  obtain ⟨read, node, rfl⟩ := Option.map_eq_some_iff.1 found
  split at node
  · exact Feature.fromOptions_of_ofNode? node
  · exact Feature.fromOptions_of_ofNode? node

theorem fromOptions_of_featureNamed? {laundry : Laundry}
    (read : ∀ declared ∈ laundry.features, declared.2.FromOptions)
    {name : String} {feature : Feature} (found : laundry.featureNamed? name = some feature) :
    feature.FromOptions := by
  obtain ⟨kind, -, declared⟩ := Option.bind_eq_some_iff.1 found
  exact read (kind, feature) (Fields.mem_of_lookup declared)

end Laundry

theorem Capability.fromOptions_of_ofDocument {document : Document} {family : Option Family}
    {laundry : Laundry} (read : ofDocument document family = .ok (.laundry laundry)) :
    ∀ declared ∈ laundry.features, declared.2.FromOptions := by
  obtain ⟨members, -, readFrom⟩ := exists_readFrom read
  obtain ⟨readings, features⟩ := readFrom.features
  intro declared member
  rw [features] at member
  exact Laundry.fromOptions_of_mem_featuresOf member

theorem Laundry.labelFor?_iff {laundry : Laundry}
    (read : ∀ declared ∈ laundry.features, declared.2.FromOptions) (name code label : String) :
    laundry.labelFor? name code = some label ↔ laundry.codeFor? name label = some code := by
  unfold labelFor? codeFor?
  cases found : laundry.featureNamed? name with
  | none => simp
  | some feature => exact (fromOptions_of_featureNamed? read found).labelFor?_iff code label

/-- Reading any options node keeps its entries greedily, so that codes and labels answer each other,
also in every feature of every laundry appliance that a document describes. -/
theorem Capability.bijective_labels :
    (∀ options, ((OptionMap.codeLabels options).map Prod.fst).Nodup ∧
      ((OptionMap.codeLabels options).map Prod.snd).Nodup ∧
      ∃ places, OptionMap.Greedy (OptionMap.entriesOf options) places ∧
        OptionMap.codeLabels options = OptionMap.entriesAt (OptionMap.entriesOf options) places) ∧
    ∀ document family laundry, ofDocument document family = .ok (.laundry laundry) → ∀ name,
      (∀ code label,
        laundry.labelFor? name code = some label ↔ laundry.codeFor? name label = some code) ∧
      (laundry.featureNamed? name = none →
        ∀ text, laundry.labelFor? name text = none ∧ laundry.codeFor? name text = none) := by
  refine ⟨fun options => ⟨?_, ?_, ?_⟩, fun document family laundry read name => ⟨?_, ?_⟩⟩
  · exact OptionMap.nodup_codeLabels OptionMap.isTelling_code options
  · exact OptionMap.nodup_codeLabels OptionMap.isTelling_label options
  · obtain ⟨places, greedy, kept⟩ := OptionMap.greedy_foldl (OptionMap.entriesOf options)
    exact ⟨places, greedy, kept.symm⟩
  · exact Laundry.labelFor?_iff (fromOptions_of_ofDocument read) name
  · intro absent text
    simp [Laundry.labelFor?, Laundry.codeFor?, absent]

def Laundry.statesDocument : Document :=
  .object [
    ("Value", .object [
      ("State", .object [("option",
        .object [("0", .text "@OFF"), ("@RUN", .text "1"), ("2", .text "@OFF")])])]),
    ("Course", .object []),
    ("SmartCourse", .object [])]

theorem Capability.bijective_labels_states : ∃ laundry,
    ofDocument Laundry.statesDocument (some .washer) = .ok (.laundry laundry) ∧
    laundry.labelFor? "state" "1" = some "@RUN" ∧ laundry.codeFor? "state" "@RUN" = some "1" ∧
    laundry.featureNamed? "spin" = none ∧ laundry.labelFor? "spin" "1" = none := by
  refine ⟨_, rfl, rfl, ?_, rfl, ?_⟩
  · exact ((bijective_labels.2 Laundry.statesDocument (some .washer) _ rfl "state").1 _ _).1 rfl
  · exact ((bijective_labels.2 Laundry.statesDocument (some .washer) _ rfl "spin").2 rfl "1").1

end ApplianceCloud
