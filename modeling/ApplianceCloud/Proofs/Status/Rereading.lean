import ApplianceCloud.Proofs.Status.Telemetry

namespace ApplianceCloud

theorem Reading.ofDocument_of_ofNatural {kind : ReadingKind} {n : Nat} {reading : Reading}
    (made : ofNatural kind n = some (.ok reading)) : ofDocument kind (.int n) = .ok reading := by
  by_cases carried : kind = .truth
  · subst carried
    cases made
  · rw [ofNatural_eq carried] at made
    exact Option.some.inj made

namespace Telemetry

variable {bytes : List UInt8} {table : AliasTable} {telemetry next : Telemetry}
  {field : ReportField} {layout : List ReportField}

def sifted (telemetry : Telemetry) : Status.Sifted where
  readings := telemetry.readings
  unclaimed := asMembers telemetry.unclaimed

def Tidy (telemetry : Telemetry) : Prop := telemetry.unclaimed.keys ⊆ telemetry.values.keys

theorem addField_ok (added : addField bytes table telemetry field = .ok next) : ∃ n,
    next.values = telemetry.values.put field.name n ∧
    (table.lookup field.name = none ∧ next.readings = telemetry.readings ∧
        next.unclaimed = telemetry.unclaimed.put field.name n ∨
      ∃ attr reading, table.lookup field.name = some attr ∧
        Reading.ofNatural attr.kind n = some (.ok reading) ∧
        next.readings = telemetry.readings.record attr reading ∧
        next.unclaimed = telemetry.unclaimed) := by
  obtain outside | inside := Classical.em (field.IsOutside bytes.length)
  · cases (addField_outside outside).symm.trans added
  · refine ⟨field.number bytes, ?_⟩
    cases claimed : table.lookup field.name with
    | none =>
      cases (addField_unclaimed inside claimed).symm.trans added
      exact ⟨rfl, .inl ⟨rfl, rfl, rfl⟩⟩
    | some attr =>
      rw [addField_eq_bind inside claimed] at added
      obtain ⟨reading, read, same⟩ := bind_eq_ok_iff.1 added
      cases pure_eq_ok_iff.1 same
      exact ⟨rfl, .inr ⟨attr, reading, rfl, readingOf_eq_ok_iff.1 read, rfl, rfl⟩⟩

/-- A field of a new name is one more member, from which the reader of documents learns the same. -/
theorem sifted_addField (tidy : telemetry.Tidy) (new : field.name ∉ telemetry.values.keys)
    (added : addField bytes table telemetry field = .ok next) : next.Tidy ∧ ∃ n,
      next.values = telemetry.values ++ ([(field.name, n)] : Fields Nat) ∧
      Status.siftMember table telemetry.sifted (field.name, .int n) = .ok next.sifted := by
  obtain ⟨n, values, outcome⟩ := addField_ok added
  rw [Fields.put_of_not_mem _ _ _ new] at values
  have keys : next.values.keys = telemetry.values.keys ++ [field.name] := by
    rw [values, Fields.keys, List.map_append]
    rfl
  obtain ⟨free, readings, unclaimed⟩ | ⟨attr, reading, claimed, made, readings, unclaimed⟩ := outcome
  · rw [Fields.put_of_not_mem _ _ _ fun old => new (tidy old)] at unclaimed
    refine ⟨?_, n, values, ?_⟩
    · rw [Tidy, keys, unclaimed, Fields.keys, List.map_append]
      exact List.append_subset.2
        ⟨fun name old => List.mem_append_left _ (tidy old), List.subset_append_right _ _⟩
    · simp [Status.siftMember, free, sifted, readings, unclaimed, asMembers, Fields.mapValues]
  · refine ⟨?_, n, values, ?_⟩
    · rw [Tidy, keys, unclaimed]
      exact fun name old => List.mem_append_left _ (tidy old)
    · simp [Status.siftMember, claimed, Document.isNull, Reading.ofDocument_of_ofNatural made, sifted,
        readings, unclaimed]

theorem sifted_addFields {last : Telemetry} (tidy : telemetry.Tidy)
    (distinct : (layout.map (·.name)).Nodup)
    (new : ∀ field ∈ layout, field.name ∉ telemetry.values.keys)
    (added : addFields bytes table telemetry layout = .ok last) : ∃ rest,
      last.values = telemetry.values ++ rest ∧
      Status.sift table telemetry.sifted (asMembers rest) = .ok last.sifted := by
  -- The numbers found so far are the accumulator of both readers, so it is general here.
  induction layout generalizing telemetry with
  | nil =>
    cases added
    exact ⟨[], (List.append_nil _).symm, rfl⟩
  | cons field layout ih =>
    obtain ⟨next, first, others⟩ := bind_eq_ok_iff.1 added
    obtain ⟨here, later⟩ := List.forall_mem_cons.1 new
    obtain ⟨unique, distinct⟩ := List.nodup_cons.1 distinct
    obtain ⟨tidy, n, values, sifted⟩ := sifted_addField tidy here first
    have stillNew : ∀ other ∈ layout, other.name ∉ next.values.keys := by
      intro other member
      rw [values, Fields.keys, List.map_append, List.mem_append, not_or]
      refine ⟨later other member, fun same => unique ?_⟩
      exact List.mem_map.2 ⟨other, member, List.mem_singleton.1 same⟩
    obtain ⟨rest, lastValues, lastSifted⟩ := ih tidy distinct stillNew others
    refine ⟨(field.name, n) :: rest, ?_, ?_⟩
    · rw [lastValues, values, List.append_assoc, List.singleton_append]
    · exact bind_eq_ok_iff.2 ⟨next.sifted, sifted, lastSifted⟩

end Telemetry

namespace Status

variable {family : Family} {capability : Option Capability} {layout : List ReportField}
  {bytes : List UInt8} {status : Status}

theorem inner_asMembers (values : Fields Nat) (key : String) :
    inner (Telemetry.asMembers values) key = Telemetry.asMembers values := by
  rw [inner, Telemetry.asMembers, Fields.lookup_mapValues]
  cases values.lookup key <;> rfl

theorem selected_asMembers (model : StatusModel) (values : Fields Nat) :
    selected model (Telemetry.asMembers values) = Telemetry.asMembers values := by
  simp only [selected, inner_asMembers]
  cases model.deviceNode? <;> rfl

theorem ofTelemetry_ok (decoded : ofTelemetry family capability layout bytes = .ok status) :
    ∃ table telemetry, aliasTable family capability = .ok table ∧
      Telemetry.decode bytes layout table = .ok telemetry ∧
      status = {
        family
        readings := telemetry.readings
        reported := Telemetry.asMembers telemetry.values
        payload? := some bytes
        unclaimed := Telemetry.asMembers telemetry.unclaimed } := by
  obtain ⟨table, named, decoded⟩ := bind_eq_ok_iff.1 decoded
  obtain ⟨telemetry, decoded, same⟩ := bind_eq_ok_iff.1 decoded
  exact ⟨table, telemetry, named, decoded, (pure_eq_ok_iff.1 same).symm⟩

theorem exists_modelOf {table : AliasTable} (named : aliasTable family capability = .ok table) :
    ∃ model, modelOf family = .ok model := by
  obtain ⟨model, found, -⟩ := bind_eq_ok_iff.1 named
  exact ⟨model, found⟩

/-- Telemetry of fields with different names, read again from the numbers that it reports, gives the
status that it gave: only the form of the report is another one. -/
theorem reread_eq (distinct : (layout.map (·.name)).Nodup)
    (decoded : ofTelemetry family capability layout bytes = .ok status) :
    ∃ again, ofDocument family capability true (.object status.reported) = .ok again ∧
      again = { status with document := status.reported, payload? := none } ∧
      again.powerState = status.powerState := by
  obtain ⟨table, telemetry, named, numbers, rfl⟩ := ofTelemetry_ok decoded
  obtain ⟨model, found⟩ := exists_modelOf named
  have tidy : Telemetry.Tidy {} := List.nil_subset _
  obtain ⟨rest, values, sifted⟩ :=
    Telemetry.sifted_addFields tidy distinct (fun _ _ => List.not_mem_nil) numbers
  rw [show telemetry.values = rest from values]
  refine ⟨_, ?_, rfl, rfl⟩
  have read : sift table {} (Telemetry.asMembers rest) = .ok telemetry.sifted := sifted
  simp only [ofDocument, found, Document.object?, selected_asMembers, named, read, bind, Except.bind,
    pure, Except.pure]
  rfl

def sampleLayout : List ReportField :=
  [{ name := "TempCur", start := 1, length := 1 }, { name := "Spare", start := 0, length := 2 },
   { name := "airState.tempState.current", start := 2, length := 1 }]

theorem reread_eq_sample : (sampleLayout.map (·.name)).Nodup ∧
    ∃ status, ofTelemetry .airConditioner none sampleLayout [1, 0, 22] = .ok status ∧
      status.reported = [("TempCur", .int 0), ("Spare", .int 256),
        ("airState.tempState.current", .int 22)] ∧
      status.unclaimed = [("Spare", .int 256)] ∧
      ∃ again, ofDocument .airConditioner none true (.object status.reported) = .ok again ∧
        again = { status with document := status.reported, payload? := none } ∧
        again.powerState = status.powerState := by
  have distinct : (sampleLayout.map (·.name)).Nodup := by decide
  have decoded : ofTelemetry .airConditioner none sampleLayout [1, 0, 22] = .ok _ := rfl
  exact ⟨distinct, _, decoded, rfl, rfl, reread_eq distinct decoded⟩

end Status

end ApplianceCloud
