import ApplianceCloud.Proofs.Outcome
import ApplianceCloud.Proofs.Status.Coercion
import Mathlib.Data.List.Nodup

namespace ApplianceCloud

namespace ReportField

variable {field : ReportField} {table : AliasTable} {size : Nat}

def AimsAtTruth (field : ReportField) (table : AliasTable) : Prop :=
  ∃ attr, table.lookup field.name = some attr ∧ attr.kind = .truth

def IsBad (field : ReportField) (table : AliasTable) (size : Nat) : Prop :=
  field.IsOutside size ∨ field.AimsAtTruth table

def HasWritableEnds (field : ReportField) : Prop :=
  field.start.natAbs < 10 ^ Numeral.longestNumeral ∧
    (field.start + field.length).natAbs < 10 ^ Numeral.longestNumeral

inductive Rejects (field : ReportField) (table : AliasTable) (size : Nat) : Failure → Prop where
  | outside (outside : field.IsOutside size) (writable : field.HasWritableEnds) :
      Rejects field table size
        (.decoding (.outside field.name field.start (field.start + field.length) size))
  | unwritable (outside : field.IsOutside size) (endless : ¬ field.HasWritableEnds) :
      Rejects field table size (.conversion .integerTooLong)
  | truth {attr : Attribute} (inside : ¬ field.IsOutside size)
      (claimed : table.lookup field.name = some attr) (kind : attr.kind = .truth) :
      Rejects field table size (.decoding (.unsupportedKind field.name attr.kind.name attr.name))

theorem Rejects.isBad {failure : Failure} (rejects : field.Rejects table size failure) :
    field.IsBad table size := by
  cases rejects with
  | outside outside _ => exact .inl outside
  | unwritable outside _ => exact .inl outside
  | truth _ claimed kind => exact .inr ⟨_, claimed, kind⟩

theorem IsBad.exists_rejects (bad : field.IsBad table size) :
    ∃ failure, field.Rejects table size failure := by
  by_cases outside : field.IsOutside size
  · by_cases writable : field.HasWritableEnds
    · exact ⟨_, .outside outside writable⟩
    · exact ⟨_, .unwritable outside writable⟩
  · obtain ⟨attr, claimed, kind⟩ := bad.resolve_left outside
    exact ⟨_, .truth outside claimed kind⟩

theorem HasWritableEnds.iff : field.HasWritableEnds ↔
    ((Numeral.write? field.start).isSome && (Numeral.write? field.stop).isSome) = true := by
  rw [Bool.and_eq_true, Numeral.isSome_write?_iff, Numeral.isSome_write?_iff]
  rfl

end ReportField

namespace Telemetry

variable {bytes : List UInt8} {table : AliasTable} {telemetry next : Telemetry}
  {field : ReportField} {layout : List ReportField} {attr : Attribute} {failure : Failure}

section Field

theorem readingOf_eq_ok_iff {attr : Attribute} {n : Nat} {reading : Reading} :
    readingOf field attr n = .ok reading ↔ Reading.ofNatural attr.kind n = some (.ok reading) := by
  unfold readingOf
  split <;> simp_all

theorem addField_outside (outside : field.IsOutside bytes.length) :
    addField bytes table telemetry field = .error (field.outside bytes.length) := by
  have unfit : field.fits bytes.length = false := by
    rw [← Bool.not_eq_true, ReportField.fits_iff]
    exact not_not_intro outside
  simp [addField, unfit]

theorem addField_unclaimed (inside : ¬ field.IsOutside bytes.length)
    (free : table.lookup field.name = none) :
    addField bytes table telemetry field = .ok { telemetry with
      values := telemetry.values.put field.name (field.number bytes)
      unclaimed := telemetry.unclaimed.put field.name (field.number bytes) } := by
  simp [addField, ReportField.fits_iff.2 inside, ReportField.valueIn_eq_number inside, free]

theorem addField_eq_bind (inside : ¬ field.IsOutside bytes.length)
    (claimed : table.lookup field.name = some attr) :
    addField bytes table telemetry field = (do
      let reading ← readingOf field attr (field.number bytes)
      return { telemetry with
        values := telemetry.values.put field.name (field.number bytes)
        readings := telemetry.readings.record attr reading }) := by
  simp only [addField, ReportField.fits_iff.2 inside, ReportField.valueIn_eq_number inside, claimed]
  rfl

theorem addField_claimed {reading : Reading} (inside : ¬ field.IsOutside bytes.length)
    (claimed : table.lookup field.name = some attr)
    (made : Reading.ofNatural attr.kind (field.number bytes) = some (.ok reading)) :
    addField bytes table telemetry field = .ok { telemetry with
      values := telemetry.values.put field.name (field.number bytes)
      readings := telemetry.readings.record attr reading } := by
  rw [addField_eq_bind inside claimed]
  exact bind_eq_ok_iff.2 ⟨reading, readingOf_eq_ok_iff.2 made, rfl⟩

theorem addField_of_rejects (rejects : field.Rejects table bytes.length failure) :
    addField bytes table telemetry field = .error failure := by
  cases rejects with
  | outside outside writable =>
    rw [addField_outside outside, ReportField.outside,
      if_pos (ReportField.HasWritableEnds.iff.1 writable)]
    rfl
  | unwritable outside endless =>
    rw [addField_outside outside, ReportField.outside,
      if_neg (mt ReportField.HasWritableEnds.iff.2 endless)]
  | truth inside claimed kind =>
    simp [addField, ReportField.fits_iff.2 inside, claimed, readingOf, kind, Reading.ofNatural,
      bind, Except.bind]

theorem exists_addField (short : field.length ≤ 127) (good : ¬ field.IsBad table bytes.length) :
    ∃ next, addField bytes table telemetry field = .ok next := by
  obtain ⟨inside, harmless⟩ := not_or.1 good
  cases claimed : table.lookup field.name with
  | none => exact ⟨_, addField_unclaimed inside claimed⟩
  | some attr =>
    have carried : attr.kind ≠ .truth := fun kind => harmless ⟨attr, claimed, kind⟩
    obtain ⟨reading, made, -⟩ := Reading.exists_ofNatural carried
      (Int.toNat_le.2 short) (ReportField.number_lt inside)
    exact ⟨_, addField_claimed inside claimed made⟩

theorem addField_eq_error_iff (short : field.length ≤ 127) :
    addField bytes table telemetry field = .error failure ↔
      field.Rejects table bytes.length failure := by
  constructor
  · intro failed
    by_cases bad : field.IsBad table bytes.length
    · obtain ⟨fault, rejects⟩ := bad.exists_rejects
      have same := (addField_of_rejects rejects).symm.trans failed
      exact Except.error.inj same ▸ rejects
    · obtain ⟨next, added⟩ := exists_addField short bad
      cases added.symm.trans failed
  · exact addField_of_rejects

theorem exists_addField_iff (short : field.length ≤ 127) :
    (∃ next, addField bytes table telemetry field = .ok next) ↔
      ¬ field.IsBad table bytes.length := by
  constructor
  · rintro ⟨next, added⟩ bad
    obtain ⟨failure, rejects⟩ := bad.exists_rejects
    cases added.symm.trans (addField_of_rejects rejects)
  · exact exists_addField short

end Field

section Layout

theorem addFields_cons_of_error (added : addField bytes table telemetry field = .error failure) :
    addFields bytes table telemetry (field :: layout) = .error failure := by
  simp [addFields, added, bind, Except.bind]

theorem addFields_cons_of_ok (added : addField bytes table telemetry field = .ok next) :
    addFields bytes table telemetry (field :: layout) = addFields bytes table next layout := by
  simp [addFields, added, bind, Except.bind]

variable (short : ∀ field ∈ layout, field.length ≤ 127)

include short

theorem exists_addFields_iff :
    (∃ next, addFields bytes table telemetry layout = .ok next) ↔
      ∀ field ∈ layout, ¬ field.IsBad table bytes.length := by
  induction layout generalizing telemetry with
  | nil => simp [addFields]
  | cons field rest ih =>
    obtain ⟨here, later⟩ := List.forall_mem_cons.1 short
    rw [List.forall_mem_cons]
    cases added : addField bytes table telemetry field with
    | error failure =>
      have bad := ((addField_eq_error_iff here).1 added).isBad
      simp [addFields_cons_of_error added, bad]
    | ok next =>
      have good := (exists_addField_iff here).1 ⟨next, added⟩
      rw [addFields_cons_of_ok added, ih later, and_iff_right good]

theorem addFields_eq_error_iff :
    addFields bytes table telemetry layout = .error failure ↔
      ∃ before field after, layout = before ++ field :: after ∧
        (∀ earlier ∈ before, ¬ earlier.IsBad table bytes.length) ∧
        field.Rejects table bytes.length failure := by
  induction layout generalizing telemetry with
  | nil => simp [addFields]
  | cons field rest ih =>
    obtain ⟨here, later⟩ := List.forall_mem_cons.1 short
    have stops : addField bytes table telemetry field = .error failure ↔
        field.Rejects table bytes.length failure := addField_eq_error_iff here
    rw [exists_first_cons_iff, ← stops]
    cases added : addField bytes table telemetry field with
    | error fault =>
      have bad := ((addField_eq_error_iff here).1 added).isBad
      rw [addFields_cons_of_error added]
      simp [bad]
    | ok next =>
      have good := (exists_addField_iff here).1 ⟨next, added⟩
      rw [addFields_cons_of_ok added, ih later]
      simp [good]

end Layout

section Exact

def lastNamed (layout : List ReportField) (name : String) : Option ReportField :=
  layout.reverse.find? (·.name = name)

def lastFor (table : AliasTable) (layout : List ReportField) (attr : Attribute) :
    Option ReportField :=
  layout.reverse.find? fun field => table.lookup field.name = some attr

/-- What a layout says about a report: the last field of a name makes its number, and the last field
that an attribute claims makes its reading. -/
structure Exact (bytes : List UInt8) (table : AliasTable) (layout : List ReportField)
    (telemetry : Telemetry) : Prop where
  distinct : telemetry.values.keys.Nodup
  values : ∀ name, telemetry.values.lookup name = (lastNamed layout name).map (·.number bytes)
  bounded : ∀ field ∈ layout, field.number bytes < 256 ^ field.length.toNat
  unclaimed : telemetry.unclaimed = telemetry.values.filter fun entry => !table.has entry.1
  readings : ∀ attr, Option.Rel
    (fun field reading => Reading.Coerces attr.kind (field.number bytes) reading)
    (lastFor table layout attr) (telemetry.readings.lookup attr)

theorem lastFor_append (table : AliasTable) (layout : List ReportField) (field : ReportField)
    (attr : Attribute) : lastFor table (layout ++ [field]) attr =
      if table.lookup field.name = some attr then some field else lastFor table layout attr := by
  by_cases claimed : table.lookup field.name = some attr <;> simp [lastFor, claimed]

namespace Exact

theorem nil : Exact bytes table [] {} :=
  ⟨List.nodup_nil, fun _ => rfl, nofun, rfl, fun _ => .none⟩

variable (exact : Exact bytes table layout telemetry)

include exact

theorem values_put (field : ReportField) (name : String) :
    (telemetry.values.put field.name (field.number bytes)).lookup name =
      (lastNamed (layout ++ [field]) name).map (·.number bytes) := by
  rw [Fields.lookup_put, exact.values]
  by_cases same : name = field.name
  · simp [lastNamed, same]
  · simp [lastNamed, same, Ne.symm same]

theorem bounded_append (inside : ¬ field.IsOutside bytes.length) :
    ∀ other ∈ layout ++ [field], other.number bytes < 256 ^ other.length.toNat := by
  intro other member
  rcases List.mem_append.1 member with earlier | own
  · exact exact.bounded other earlier
  · rw [List.mem_singleton.1 own]
    exact ReportField.number_lt inside

theorem addField (short : field.length ≤ 127)
    (added : addField bytes table telemetry field = .ok next) :
    Exact bytes table (layout ++ [field]) next := by
  have good := (exists_addField_iff short).1 ⟨next, added⟩
  obtain ⟨inside, harmless⟩ := not_or.1 good
  have distinct := Fields.nodup_keys_put telemetry.values field.name (field.number bytes)
    exact.distinct
  have kept := Fields.filter_put telemetry.values field.name (field.number bytes)
    fun name => !table.has name
  cases claimed : table.lookup field.name with
  | none =>
    cases (addField_unclaimed inside claimed).symm.trans added
    refine ⟨distinct, exact.values_put field, exact.bounded_append inside, ?_, fun attr => ?_⟩
    · have missing : table.has field.name = false := by simp [Fields.has, claimed]
      rw [missing, Bool.not_false, if_pos rfl, ← exact.unclaimed] at kept
      exact kept.symm
    · rw [lastFor_append, claimed, if_neg nofun]
      exact exact.readings attr
  | some attr =>
    have carried : attr.kind ≠ .truth := fun kind => harmless ⟨attr, claimed, kind⟩
    obtain ⟨reading, made, coerces⟩ := Reading.exists_ofNatural carried
      (Int.toNat_le.2 short) (ReportField.number_lt inside)
    cases (addField_claimed inside claimed made).symm.trans added
    refine ⟨distinct, exact.values_put field, exact.bounded_append inside, ?_, fun other => ?_⟩
    · have present : table.has field.name = true := by simp [Fields.has, claimed]
      rw [present, Bool.not_true, if_neg nofun, ← exact.unclaimed] at kept
      exact kept.symm
    · rw [lastFor_append, claimed, Readings.lookup_record]
      by_cases same : other = attr
      · subst same
        rw [if_pos rfl, if_pos rfl]
        exact .some coerces
      · rw [if_neg fun h => same (Option.some.inj h).symm, if_neg same]
        exact exact.readings other

theorem addFields {rest : List ReportField} (short : ∀ field ∈ rest, field.length ≤ 127)
    (added : addFields bytes table telemetry rest = .ok next) :
    Exact bytes table (layout ++ rest) next := by
  induction rest generalizing layout telemetry with
  | nil =>
    cases added
    rwa [List.append_nil]
  | cons field rest ih =>
    obtain ⟨here, later⟩ := List.forall_mem_cons.1 short
    obtain ⟨middle, first, others⟩ := bind_eq_ok_iff.1 added
    rw [List.append_cons]
    -- The fields that were taken so far are the accumulator of the induction.
    exact ih (exact.addField here first) later others

end Exact

end Exact

section Covered

variable {other : List UInt8}

def SameAt (field : ReportField) (bytes other : List UInt8) : Prop :=
  ∀ place : Nat, field.start ≤ place → (place : Int) < field.start + field.length →
    other[place]? = bytes[place]?

theorem SameAt.inside (inside : ¬ field.IsOutside bytes.length) (same : SameAt field bytes other) :
    ¬ field.IsOutside other.length := by
  simp only [ReportField.IsOutside, not_or, Int.not_lt, Int.not_le] at inside ⊢
  obtain ⟨lower, positive, upper⟩ := inside
  -- The last byte of the field is in the one report, so it is in the other.
  have last := same (field.start + field.length - 1).toNat (by omega) (by omega)
  have present : (field.start + field.length - 1).toNat < bytes.length := by omega
  rw [List.getElem?_eq_getElem present] at last
  have room := (List.getElem?_eq_some_iff.1 last).1
  omega

theorem addField_congr (inside : ¬ field.IsOutside bytes.length) (same : SameAt field bytes other) :
    addField other table telemetry field = addField bytes table telemetry field := by
  have there := same.inside inside
  have lower : 0 ≤ field.start := Int.not_lt.1 (not_or.1 inside).1
  simp only [Telemetry.addField, ReportField.fits_iff.2 inside, ReportField.fits_iff.2 there,
    ReportField.valueIn_eq_number inside, ReportField.valueIn_eq_number there,
    ReportField.number_congr lower same, Bool.not_true, Bool.false_eq_true, if_false]

theorem addFields_congr (inside : ∀ field ∈ layout, ¬ field.IsOutside bytes.length)
    (same : ∀ field ∈ layout, SameAt field bytes other) :
    addFields other table telemetry layout = addFields bytes table telemetry layout := by
  induction layout generalizing telemetry with
  | nil => rfl
  | cons field rest ih =>
    obtain ⟨insideHere, insideLater⟩ := List.forall_mem_cons.1 inside
    obtain ⟨sameHere, sameLater⟩ := List.forall_mem_cons.1 same
    simp only [Telemetry.addFields, addField_congr insideHere sameHere, ih insideLater sameLater]

end Covered

theorem exists_decoding_iff (short : ∀ field ∈ layout, field.length ≤ 127)
    (writable : ∀ field ∈ layout, field.IsOutside bytes.length → field.HasWritableEnds) :
    (∃ fault, decode bytes layout table = .error (.decoding fault)) ↔
      ∃ field ∈ layout, field.IsBad table bytes.length := by
  constructor
  · rintro ⟨fault, failed⟩
    obtain ⟨before, field, after, split, -, rejects⟩ := (addFields_eq_error_iff short).1 failed
    exact ⟨field, split ▸ List.mem_append_right _ List.mem_cons_self, rejects.isBad⟩
  · rintro ⟨field, member, bad⟩
    cases outcome : decode bytes layout table with
    | ok telemetry => exact absurd bad ((exists_addFields_iff short).1 ⟨telemetry, outcome⟩ field member)
    | error failure =>
      obtain ⟨before, first, after, split, -, rejects⟩ := (addFields_eq_error_iff short).1 outcome
      have listed : first ∈ layout := split ▸ List.mem_append_right _ List.mem_cons_self
      cases rejects with
      | outside _ _ => exact ⟨_, rfl⟩
      | unwritable outside endless => exact absurd (writable first listed outside) endless
      | truth _ _ _ => exact ⟨_, rfl⟩

/-- Decoding ends well exactly if no field is bad, and then says what the layout says about the bytes
that its fields cover. Otherwise it fails as the first bad field does, with a decoding fault unless
an end of a field outside of the report cannot be written. -/
theorem decode_exact (bytes : List UInt8) (layout : List ReportField) (table : AliasTable)
    (short : ∀ field ∈ layout, field.length ≤ 127) :
    ((∃ telemetry, decode bytes layout table = .ok telemetry) ↔
      ∀ field ∈ layout, ¬ field.IsBad table bytes.length) ∧
    (∀ failure, decode bytes layout table = .error failure ↔
      ∃ before field after, layout = before ++ field :: after ∧
        (∀ earlier ∈ before, ¬ earlier.IsBad table bytes.length) ∧
        field.Rejects table bytes.length failure) ∧
    ((∀ field ∈ layout, field.IsOutside bytes.length → field.HasWritableEnds) →
      ((∃ fault, decode bytes layout table = .error (.decoding fault)) ↔
        ∃ field ∈ layout, field.IsBad table bytes.length)) ∧
    (∀ telemetry, decode bytes layout table = .ok telemetry →
      Exact bytes table layout telemetry ∧
      ∀ other, (∀ field ∈ layout, SameAt field bytes other) →
        decode other layout table = .ok telemetry) := by
  refine ⟨exists_addFields_iff short, fun failure => addFields_eq_error_iff short,
    exists_decoding_iff short, fun telemetry decoded => ⟨?_, fun other same => ?_⟩⟩
  · simpa using Exact.nil.addFields short decoded
  · have good := (exists_addFields_iff short).1 ⟨telemetry, decoded⟩
    have inside : ∀ field ∈ layout, ¬ field.IsOutside bytes.length :=
      fun field member => (not_or.1 (good field member)).1
    exact (addFields_congr inside same).trans decoded

def overlappingLayout : List ReportField :=
  [{ name := "Operation", start := 0, length := 2 }, { name := "Spare", start := 1, length := 1 },
   { name := "Operation", start := 1, length := 1 }]

theorem decode_exact_overlapping :
    (∀ field ∈ overlappingLayout, field.length ≤ 127) ∧
    ∃ telemetry, decode [1, 2, 3] overlappingLayout StatusModel.airConditioner.aliases =
        .ok telemetry ∧
      Exact [1, 2, 3] StatusModel.airConditioner.aliases overlappingLayout telemetry ∧
      telemetry.readings.lookup .operation = some (.integer 2) ∧
      telemetry.unclaimed = [("Spare", 2)] := by
  have short : ∀ field ∈ overlappingLayout, field.length ≤ 127 := by decide
  have decoded := decode_exact [1, 2, 3] overlappingLayout StatusModel.airConditioner.aliases short
  exact ⟨short, _, rfl, (decoded.2.2.2 _ rfl).1, rfl, rfl⟩

def endlessField : ReportField where
  name := "Operation"
  start := 10 ^ Numeral.longestNumeral - 1
  length := 1

theorem decode_endless : endlessField.length ≤ 127 ∧
    endlessField.IsBad StatusModel.airConditioner.aliases 0 ∧
    decode [] [endlessField] StatusModel.airConditioner.aliases =
      .error (.conversion .integerTooLong) := by
  have stop : endlessField.start + endlessField.length = 10 ^ Numeral.longestNumeral :=
    Int.sub_add_cancel ..
  have outside : endlessField.IsOutside 0 := by
    refine .inr (.inr ?_)
    rw [stop]
    exact Int.pow_pos (by decide)
  have unbounded (digits : Nat) : ¬ ((10 : Int) ^ digits).natAbs < 10 ^ digits := by
    simp [Int.natAbs_pow]
  have endless : ¬ endlessField.HasWritableEnds := by
    rintro ⟨-, written⟩
    rw [stop] at written
    exact unbounded _ written
  refine ⟨by decide, .inl outside, addFields_cons_of_error ?_⟩
  exact addField_of_rejects (.unwritable outside endless)

end Telemetry

end ApplianceCloud
