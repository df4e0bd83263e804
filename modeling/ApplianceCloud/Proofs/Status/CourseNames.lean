import ApplianceCloud.Proofs.Status.Lossless
import ApplianceCloud.Proofs.Status.Rereading

/-!
# What the course names of a capability change

A capability of a washer or a dryer names the fields that hold its courses, and reports are decoded
with these names beside the ones of the model. `names_only_added` says what they make of a report: only
the readings of the three courses and the unclaimed members of these names may differ from what is
decoded without a capability, and a name that stands for an attribute already stays as it is.

Both decoders take the report item by item, so each pair of runs is followed by one relation of what
was found (`Followed`).
-/

namespace ApplianceCloud

def courseAttributes : List Attribute := [.course, .smartCourse, .downloadedCourse]

namespace Laundry

variable {laundry : Laundry} {name : String}

def fieldNames (laundry : Laundry) : List String :=
  [laundry.courseFields.course, laundry.courseFields.smartCourse,
    laundry.courseFields.downloadedCourse].filter (· ≠ "")

def attributeOf? (laundry : Laundry) (name : String) : Option Attribute :=
  if name = "" then none
  else if laundry.courseFields.downloadedCourse = name then some .downloadedCourse
  else if laundry.courseFields.smartCourse = name then some .smartCourse
  else if laundry.courseFields.course = name then some .course
  else none

theorem attributeOf?_eq_none_iff : laundry.attributeOf? name = none ↔ name ∉ laundry.fieldNames := by
  simp only [attributeOf?, fieldNames, List.mem_filter, List.mem_cons, List.not_mem_nil]
  grind

theorem mem_fieldNames {attr : Attribute} (named : laundry.attributeOf? name = some attr) :
    name ∈ laundry.fieldNames := by
  by_contra unlisted
  cases named.symm.trans (attributeOf?_eq_none_iff.2 unlisted)

theorem mem_courseAttributes {attr : Attribute} (named : laundry.attributeOf? name = some attr) :
    attr ∈ courseAttributes := by
  unfold attributeOf? at named
  split_ifs at named <;> cases named <;> decide

def Extends (laundry : Laundry) (bare full : AliasTable) : Prop :=
  ∀ name, full.lookup name = (bare.lookup name).or (laundry.attributeOf? name)

variable {bare full : AliasTable}

theorem Extends.of_some (extended : laundry.Extends bare full) {attr : Attribute}
    (known : bare.lookup name = some attr) : full.lookup name = some attr := by
  rw [extended, known, Option.some_or]

theorem Extends.of_none (extended : laundry.Extends bare full) (free : bare.lookup name = none) :
    full.lookup name = laundry.attributeOf? name := by
  rw [extended, free, Option.none_or]

theorem Extends.of_not_mem (extended : laundry.Extends bare full)
    (unnamed : name ∉ laundry.fieldNames) : full.lookup name = bare.lookup name := by
  rw [extended, attributeOf?_eq_none_iff.2 unnamed, Option.or_none]

end Laundry

namespace Status

variable {family : Family} {laundry : Laundry}

theorem lookup_putAll_newAliases {table extra : AliasTable} {names : List (String × String)}
    (made : newAliases table names = .ok extra) (fields : AliasTable) (name : String) :
    (fields.putAll extra).lookup name =
      if name = "" ∨ table.has name = true then fields.lookup name
      else names.foldl (fun found field => if field.1 = name then table.lookup field.2 else found)
        (fields.lookup name) := by
  induction names generalizing extra fields with
  | nil =>
    cases made
    exact (ite_self _).symm
  | cons field rest ih =>
    obtain ⟨new, known⟩ := field
    rw [newAliases] at made
    rw [List.foldl_cons]
    split at made
    · next unusable =>
      rw [Bool.or_eq_true, decide_eq_true_eq] at unusable
      rw [ih made]
      by_cases same : new = name
      · subst same
        rw [if_pos unusable, if_pos unusable]
      · rw [if_neg same]
    · next usable =>
      rw [Bool.or_eq_true, decide_eq_true_eq] at usable
      split at made
      · cases made
      · next attr found =>
        obtain ⟨others, made', split⟩ := map_eq_ok_iff.1 made
        subst split
        change ((fields.put new attr).putAll others).lookup name = _
        rw [ih made', Fields.lookup_put]
        by_cases same : new = name
        · subst same
          rw [if_neg usable, if_neg usable, if_pos rfl, if_pos rfl, found]
        · rw [if_neg (Ne.symm same), if_neg same]

theorem exists_extends (modelled : family.statusModel? = some .laundry) (laundry : Laundry) :
    ∃ full, aliasTable family (some (.laundry laundry)) = .ok full ∧
      laundry.Extends StatusModel.laundry.aliases full := by
  obtain ⟨extra, made⟩ := exists_courseAliases laundry
  refine ⟨StatusModel.laundry.aliases.putAll extra, ?_, fun name => ?_⟩
  · have found : modelOf family = .ok .laundry := modelOf_eq_ok_iff.2 modelled
    have named : (some (Capability.laundry laundry)).bind Capability.laundry? = some laundry := rfl
    rw [aliasTable, found, ok_bind, named]
    exact bind_eq_ok_iff.2 ⟨extra, made, rfl⟩
  · rw [lookup_putAll_newAliases made]
    split_ifs with unusable
    · rcases unusable with rfl | known
      · rw [Laundry.attributeOf?, if_pos rfl, Option.or_none]
      · obtain ⟨attr, found⟩ := Option.isSome_iff_exists.1 known
        rw [found, Option.some_or]
    · obtain ⟨named, free⟩ := not_or.1 unusable
      rw [Fields.has, Bool.not_eq_true, Option.isSome_eq_false_iff, Option.isNone_iff_eq_none] at free
      rw [free, Option.none_or, Laundry.attributeOf?, if_neg named]
      rfl

end Status

structure Followed {α : Type} (laundry : Laundry) (readings readings' : Readings)
    (unclaimed unclaimed' : Fields α) : Prop where
  readings : ∀ attr, attr ∉ courseAttributes → readings'.lookup attr = readings.lookup attr
  unclaimed : unclaimed' = unclaimed.filter fun entry => entry.1 ∉ laundry.fieldNames

namespace Followed

variable {α : Type} {laundry : Laundry} {readings readings' : Readings}
  {unclaimed unclaimed' : Fields α} (followed : Followed laundry readings readings' unclaimed unclaimed')

theorem nil (laundry : Laundry) : Followed laundry [] [] ([] : Fields α) [] :=
  ⟨fun _ _ => rfl, rfl⟩

include followed

theorem record (attr : Attribute) (reading : Reading) :
    Followed laundry (readings.record attr reading) (readings'.record attr reading) unclaimed
      unclaimed' := by
  refine ⟨fun other kept => ?_, followed.unclaimed⟩
  rw [Readings.lookup_record, Readings.lookup_record, followed.readings other kept]

theorem recordCourse {attr : Attribute} (course : attr ∈ courseAttributes) (reading : Reading) :
    Followed laundry readings (readings'.record attr reading) unclaimed unclaimed' := by
  refine ⟨fun other kept => ?_, followed.unclaimed⟩
  have differ : other ≠ attr := by
    rintro rfl
    exact kept course
  rw [Readings.lookup_record, if_neg differ, followed.readings other kept]

theorem append (entry : String × α) (unnamed : entry.1 ∉ laundry.fieldNames) :
    Followed laundry readings readings' (unclaimed ++ [entry]) (unclaimed' ++ [entry]) := by
  refine ⟨followed.readings, ?_⟩
  simp [followed.unclaimed, unnamed]

theorem appendNamed (entry : String × α) (named : entry.1 ∈ laundry.fieldNames) :
    Followed laundry readings readings' (unclaimed ++ [entry]) unclaimed' := by
  refine ⟨followed.readings, ?_⟩
  simp [followed.unclaimed, named]

theorem put {name : String} (unnamed : name ∉ laundry.fieldNames) (value : α) :
    Followed laundry readings readings' (unclaimed.put name value) (unclaimed'.put name value) := by
  refine ⟨followed.readings, ?_⟩
  rw [Fields.filter_put _ _ _ fun key => decide (key ∉ laundry.fieldNames), followed.unclaimed]
  simp [unnamed]

theorem putNamed {name : String} (named : name ∈ laundry.fieldNames) (value : α) :
    Followed laundry readings readings' (unclaimed.put name value) unclaimed' := by
  refine ⟨followed.readings, ?_⟩
  rw [Fields.filter_put _ _ _ fun key => decide (key ∉ laundry.fieldNames), followed.unclaimed]
  simp [named]

end Followed

namespace Status

variable {family : Family} {laundry : Laundry} {bare full : AliasTable}

section Documents

variable {sifted sifted' next : Sifted} {member : String × Document}

theorem followed_siftMember (extended : laundry.Extends bare full)
    (followed : Followed laundry sifted.readings sifted'.readings sifted.unclaimed sifted'.unclaimed)
    (taken : siftMember full sifted' member = .ok next) :
    ∃ before, siftMember bare sifted member = .ok before ∧
      Followed laundry before.readings next.readings before.unclaimed next.unclaimed := by
  cases known : bare.lookup member.1 with
  | some attr =>
    simp only [siftMember, extended.of_some known] at taken
    simp only [siftMember, known]
    split_ifs at taken ⊢
    · cases taken
      exact ⟨sifted, rfl, followed⟩
    · cases read : Reading.ofDocument attr.kind member.2 with
      | error fault => simp [read] at taken
      | ok reading =>
        simp only [read, Except.ok.injEq] at taken
        subst taken
        exact ⟨_, rfl, followed.record attr reading⟩
  | none =>
    have passed : siftMember bare sifted member =
        .ok { sifted with unclaimed := sifted.unclaimed ++ [member] } := by
      simp only [siftMember, known]
    refine ⟨_, passed, ?_⟩
    simp only [siftMember, extended.of_none known] at taken
    cases named : laundry.attributeOf? member.1 with
    | none =>
      simp only [named, Except.ok.injEq] at taken
      subst taken
      exact followed.append member (Laundry.attributeOf?_eq_none_iff.1 named)
    | some attr =>
      have appended := followed.appendNamed member (Laundry.mem_fieldNames named)
      simp only [named] at taken
      split_ifs at taken
      · cases taken
        exact appended
      · cases read : Reading.ofDocument attr.kind member.2 with
        | error fault => simp [read] at taken
        | ok reading =>
          simp only [read, Except.ok.injEq] at taken
          subst taken
          exact appended.recordCourse (Laundry.mem_courseAttributes named) reading

theorem followed_sift {members : Fields Document} {last : Sifted}
    (extended : laundry.Extends bare full) (run : sift full {} members = .ok last) :
    ∃ before, sift bare {} members = .ok before ∧
      Followed laundry before.readings last.readings before.unclaimed last.unclaimed := by
  rw [sift_eq_foldlM] at run ⊢
  refine foldlM_simulates (fun sifted sifted' : Sifted =>
    Followed laundry sifted.readings sifted'.readings sifted.unclaimed sifted'.unclaimed) ?_
    (Followed.nil laundry) run
  intro sifted' sifted member next
  exact followed_siftMember extended

theorem sift_congr {members : Fields Document} (extended : laundry.Extends bare full)
    (absent : ∀ name ∈ laundry.fieldNames, name ∉ members.keys) :
    sift full {} members = sift bare {} members := by
  rw [sift_eq_foldlM, sift_eq_foldlM]
  refine foldlM_congr (fun member inside sifted => ?_) _
  have unnamed : member.1 ∉ laundry.fieldNames := fun named =>
    absent _ named (List.mem_map_of_mem inside)
  simp only [siftMember, extended.of_not_mem unnamed]

end Documents

end Status

namespace Telemetry

variable {laundry : Laundry} {bare full : AliasTable} {bytes : List UInt8}
  {telemetry telemetry' next : Telemetry} {field : ReportField} {layout : List ReportField}

structure FollowedBy (laundry : Laundry) (telemetry telemetry' : Telemetry) : Prop where
  values : telemetry'.values = telemetry.values
  found : Followed laundry telemetry.readings telemetry'.readings telemetry.unclaimed
    telemetry'.unclaimed

theorem followed_addField (extended : laundry.Extends bare full)
    (followed : FollowedBy laundry telemetry telemetry')
    (added : addField bytes full telemetry' field = .ok next) :
    ∃ before, addField bytes bare telemetry field = .ok before ∧ FollowedBy laundry before next := by
  have inside : ¬ field.IsOutside bytes.length := by
    intro outside
    cases (addField_outside outside).symm.trans added
  have values := congrArg (·.put field.name (field.number bytes)) followed.values
  cases known : bare.lookup field.name with
  | some attr =>
    rw [addField_eq_bind inside (extended.of_some known)] at added
    obtain ⟨reading, read, same⟩ := bind_eq_ok_iff.1 added
    cases pure_eq_ok_iff.1 same
    exact ⟨_, addField_claimed inside known (readingOf_eq_ok_iff.1 read), values,
      followed.found.record attr reading⟩
  | none =>
    refine ⟨_, addField_unclaimed inside known, ?_⟩
    cases named : laundry.attributeOf? field.name with
    | none =>
      cases (addField_unclaimed inside ((extended.of_none known).trans named)).symm.trans added
      exact ⟨values, followed.found.put (Laundry.attributeOf?_eq_none_iff.1 named) _⟩
    | some attr =>
      rw [addField_eq_bind inside ((extended.of_none known).trans named)] at added
      obtain ⟨reading, read, same⟩ := bind_eq_ok_iff.1 added
      cases pure_eq_ok_iff.1 same
      exact ⟨values, (followed.found.putNamed (Laundry.mem_fieldNames named) _).recordCourse
        (Laundry.mem_courseAttributes named) reading⟩

theorem followed_decode {last : Telemetry} (extended : laundry.Extends bare full)
    (run : decode bytes layout full = .ok last) :
    ∃ before, decode bytes layout bare = .ok before ∧ FollowedBy laundry before last := by
  rw [decode, addFields_eq_foldlM] at run ⊢
  refine foldlM_simulates (FollowedBy laundry) ?_ ⟨rfl, Followed.nil laundry⟩ run
  intro telemetry' telemetry field next
  exact followed_addField extended

theorem keys_subset_of_addFields {last : Telemetry}
    (run : addFields bytes bare telemetry layout = .ok last) :
    telemetry.values.keys ⊆ last.values.keys ∧ ∀ field ∈ layout, field.name ∈ last.values.keys := by
  induction layout generalizing telemetry with
  | nil =>
    cases run
    exact ⟨List.Subset.refl _, nofun⟩
  | cons field rest ih =>
    obtain ⟨next, first, others⟩ := bind_eq_ok_iff.1 run
    obtain ⟨kept, later⟩ := ih others
    obtain ⟨n, values, -⟩ := addField_ok first
    have grown : ∀ name, name = field.name ∨ name ∈ telemetry.values.keys → name ∈ last.values.keys := by
      refine fun name old => kept ?_
      rw [values, Fields.keys_put]
      split_ifs with present
      · exact old.elim (fun same => same ▸ present) id
      · exact List.mem_append.2 (old.elim (fun same => .inr (List.mem_singleton.2 same)) .inl)
    exact ⟨fun name old => grown name (.inr old),
      List.forall_mem_cons.2 ⟨grown _ (.inl rfl), later⟩⟩

theorem decode_eq_of_absent {last : Telemetry} (extended : laundry.Extends bare full)
    (run : decode bytes layout bare = .ok last)
    (absent : ∀ name ∈ laundry.fieldNames, name ∉ last.values.keys) :
    decode bytes layout full = decode bytes layout bare := by
  obtain ⟨-, reported⟩ := keys_subset_of_addFields run
  rw [decode, decode, addFields_eq_foldlM, addFields_eq_foldlM]
  refine foldlM_congr (fun field inside telemetry => ?_) _
  have unnamed : field.name ∉ laundry.fieldNames := fun named =>
    absent _ named (reported field inside)
  simp only [addField, extended.of_not_mem unnamed]

end Telemetry

namespace Status

variable {family : Family}

/-- What the names of a capability may make of a status decoded without them. -/
structure OnlyAdds (laundry : Laundry) (bare full : Status) : Prop where
  rest : full = { bare with readings := full.readings, unclaimed := full.unclaimed }
  attributes : ∀ attr, attr ∉ courseAttributes → full.reading? attr = bare.reading? attr
  unclaimed : full.unclaimed = bare.unclaimed.filter fun member => member.1 ∉ laundry.fieldNames
  same : (∀ name ∈ laundry.fieldNames, name ∉ bare.reported.keys) → full = bare

theorem keys_asMembers (values : Fields Nat) : (Telemetry.asMembers values).keys = values.keys := by
  rw [Telemetry.asMembers, Fields.mapValues, Fields.keys, List.map_map]
  rfl

theorem onlyAdds_ofRead {bare full : AliasTable} {laundry : Laundry}
    (modelled : family.statusModel? = some .laundry) (unnamed : aliasTable family none = .ok bare)
    (named : aliasTable family (some (.laundry laundry)) = .ok full)
    (extended : laundry.Extends bare full) {online : Bool} {read : Except ReadFault Document}
    {status : Status} (decoded : ofRead family (some (.laundry laundry)) online read = .ok status) :
    ∃ before, ofRead family none online read = .ok before ∧ OnlyAdds laundry before status := by
  obtain ⟨-, -, rfl, -⟩ := ofRead_ok modelled named decoded
  rw [ofRead_object modelled named] at decoded
  obtain ⟨last, run, made⟩ := map_eq_ok_iff.1 decoded
  obtain ⟨before, run', followed⟩ := followed_sift extended run
  refine ⟨_, (ofRead_object modelled unnamed _ _).trans (map_eq_ok_iff.2 ⟨before, run', rfl⟩), ?_⟩
  generalize status.document = members at *
  subst made
  refine ⟨rfl, followed.readings, followed.unclaimed, fun absent => ?_⟩
  cases ((sift_congr extended absent).symm.trans run).symm.trans run'
  rfl

theorem onlyAdds_ofTelemetry {bare full : AliasTable} {laundry : Laundry}
    (unnamed : aliasTable family none = .ok bare)
    (named : aliasTable family (some (.laundry laundry)) = .ok full)
    (extended : laundry.Extends bare full) {layout : List ReportField} {bytes : List UInt8}
    {status : Status}
    (decoded : ofTelemetry family (some (.laundry laundry)) layout bytes = .ok status) :
    ∃ before, ofTelemetry family none layout bytes = .ok before ∧ OnlyAdds laundry before status := by
  obtain ⟨table, last, again, run, rfl⟩ := ofTelemetry_ok decoded
  cases again.symm.trans named
  obtain ⟨before, run', followed⟩ := Telemetry.followed_decode extended run
  refine ⟨_, bind_eq_ok_iff.2 ⟨bare, unnamed, bind_eq_ok_iff.2 ⟨before, run', rfl⟩⟩, ?_⟩
  refine ⟨by rw [followed.values], followed.found.readings, ?_, fun absent => ?_⟩
  · change Telemetry.asMembers last.unclaimed = (Telemetry.asMembers before.unclaimed).filter _
    rw [followed.found.unclaimed, Telemetry.asMembers, Telemetry.asMembers, Fields.mapValues,
      Fields.mapValues, List.filter_map]
    rfl
  · rw [keys_asMembers] at absent
    cases ((Telemetry.decode_eq_of_absent extended run' absent).symm.trans run).symm.trans run'
    rfl

/-- What the course names of a capability change about the decoding of a report: every name that is
known without them stands for the attribute it stood for, and a status that is decoded with them is the
one decoded without them but for the courses and the members that have their names. -/
theorem names_only_added (modelled : family.statusModel? = some .laundry) (laundry : Laundry) :
    (∃ bare full, aliasTable family none = .ok bare ∧
      aliasTable family (some (.laundry laundry)) = .ok full ∧
      (∀ name attr, bare.lookup name = some attr → full.lookup name = some attr) ∧
      ∀ name, bare.lookup name = none → full.lookup name = laundry.attributeOf? name) ∧
    (∀ online read full, ofRead family (some (.laundry laundry)) online read = .ok full →
      ∃ bare, ofRead family none online read = .ok bare ∧ OnlyAdds laundry bare full) ∧
    ∀ layout bytes full, ofTelemetry family (some (.laundry laundry)) layout bytes = .ok full →
      ∃ bare, ofTelemetry family none layout bytes = .ok bare ∧ OnlyAdds laundry bare full := by
  have unnamed : aliasTable family none = .ok StatusModel.laundry.aliases := by
    rw [aliasTable, modelOf_eq_ok_iff.2 modelled]
    rfl
  obtain ⟨table, named, extended⟩ := exists_extends modelled laundry
  refine ⟨⟨_, table, unnamed, named, fun _ _ => extended.of_some, fun _ => extended.of_none⟩, ?_, ?_⟩
  · intro online read full decoded
    exact onlyAdds_ofRead modelled unnamed named extended decoded
  · intro layout bytes full decoded
    exact onlyAdds_ofTelemetry unnamed named extended decoded

def dialDocument : Document :=
  .object [
    ("Info", .object [("productType", .text "WM")]),
    ("Config", .object [("courseType", .text "remainTimeHour"), ("smartCourseType", .text "dial"),
      ("downloadedCourseType", .text "dial")]),
    ("MonitoringValue", .object []),
    ("Course", .object [])]

def dialMembers : Fields Document :=
  [("dial", .text "WOOL"), ("remainTimeHour", .int 2), ("spare", .int 1)]

def dialLayout : List ReportField :=
  [{ name := "spare", start := 0, length := 1 }, { name := "remainTimeHour", start := 1, length := 1 }]

theorem names_only_added_dial : Family.washer.statusModel? = some .laundry ∧ ∃ laundry,
    Capability.ofDocument dialDocument none = .ok (.laundry laundry) ∧
    laundry.fieldNames = ["remainTimeHour", "dial", "dial"] ∧
    (∃ full, ofRead .washer (some (.laundry laundry)) true (.ok (.object dialMembers)) = .ok full ∧
      full.integer? .remainHours = some 2 ∧ full.text? .course = none ∧
      full.text? .smartCourse = none ∧ full.text? .downloadedCourse = some "WOOL" ∧
      ∃ bare, ofRead .washer none true (.ok (.object dialMembers)) = .ok bare ∧
        bare.unclaimed = [("dial", .text "WOOL"), ("spare", .int 1)] ∧
        full.unclaimed = [("spare", .int 1)] ∧ OnlyAdds laundry bare full) ∧
    ∃ full, ofTelemetry .washer (some (.laundry laundry)) dialLayout [7, 3] = .ok full ∧
      full.integer? .remainHours = some 3 ∧
      ∃ bare, ofTelemetry .washer none dialLayout [7, 3] = .ok bare ∧ OnlyAdds laundry bare full := by
  obtain ⟨laundry, read, names, decoded⟩ : ∃ laundry,
      Capability.ofDocument dialDocument none = .ok (.laundry laundry) ∧
      laundry.fieldNames = ["remainTimeHour", "dial", "dial"] ∧
      (∃ full, ofRead .washer (some (.laundry laundry)) true (.ok (.object dialMembers)) = .ok full ∧
        full.integer? .remainHours = some 2 ∧ full.text? .course = none ∧
        full.text? .smartCourse = none ∧ full.text? .downloadedCourse = some "WOOL") ∧
      ∃ full, ofTelemetry .washer (some (.laundry laundry)) dialLayout [7, 3] = .ok full ∧
        full.integer? .remainHours = some 3 :=
    ⟨_, rfl, rfl, ⟨_, rfl, rfl, rfl, rfl, rfl⟩, _, rfl, rfl⟩
  obtain ⟨⟨full, documents, hours, course, smart, downloaded⟩, full', numbers, hours'⟩ := decoded
  have modelled : Family.washer.statusModel? = some .laundry := rfl
  obtain ⟨-, ofDocuments, ofNumbers⟩ := names_only_added modelled laundry
  obtain ⟨bare, before, added⟩ := ofDocuments _ _ _ documents
  refine ⟨modelled, laundry, read, names, ⟨full, documents, hours, course, smart, downloaded, bare,
    before, ?_, ?_, added⟩, full', numbers, hours', ofNumbers _ _ _ numbers⟩
  · cases before
    rfl
  · rw [added.unclaimed, names]
    cases before
    rfl

end Status

end ApplianceCloud
