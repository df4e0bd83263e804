import ApplianceCloud.Proofs.Document.Writable
import ApplianceCloud.Proofs.Status.Failures

namespace ApplianceCloud

namespace Document

inductive Holds (n : Int) : Document → Prop where
  | self : Holds n (.int n)
  | item {items : List Document} {item : Document} (member : item ∈ items) (holds : Holds n item) :
      Holds n (.list items)
  | value {members : Fields Document} {member : String × Document} (inside : member ∈ members)
      (holds : Holds n member.2) : Holds n (.object members)

mutual

theorem isWritable_of_holds : (d : Document) →
    (∀ n, Holds n d → (Numeral.write? n).isSome = true) → d.isWritable = true
  | .null, _ | .bool _, _ | .number _, _ | .text _, _ => rfl
  | .int n, short => short n .self
  | .list items, short =>
      areWritable_of_holds items fun _ member n holds => short n (.item member holds)
  | .object members, short =>
      areMembersWritable_of_holds members fun _ inside n holds => short n (.value inside holds)

theorem areWritable_of_holds : (items : List Document) →
    (∀ item ∈ items, ∀ n, Holds n item → (Numeral.write? n).isSome = true) →
    areWritable items = true
  | [], _ => rfl
  | item :: rest, short => by
      have here := isWritable_of_holds item (short item List.mem_cons_self)
      have later := areWritable_of_holds rest fun _ member => short _ (.tail _ member)
      simp [areWritable, here, later]

theorem areMembersWritable_of_holds : (members : List (String × Document)) →
    (∀ member ∈ members, ∀ n, Holds n member.2 → (Numeral.write? n).isSome = true) →
    areMembersWritable members = true
  | [], _ => rfl
  | (key, value) :: rest, short => by
      have here := isWritable_of_holds value (short (key, value) List.mem_cons_self)
      have later := areMembersWritable_of_holds rest fun _ member => short _ (.tail _ member)
      simp [areMembersWritable, here, later]

end

/-- Whether every integer in a document has a floating-point number. -/
def IsModest (d : Document) : Prop := ∀ n, Holds n d → (Binary64.ofInt? n).isSome = true

theorem isSome_write?_of_ofInt? {n : Int} (modest : (Binary64.ofInt? n).isSome = true) :
    (Numeral.write? n).isSome = true := by
  have below : n.natAbs < Binary64.leastOverflow := by
    rw [← Nat.not_le, ← Binary64.ofInt?_eq_none_iff]
    exact Option.isSome_iff_ne_none.1 modest
  have writable {bits : Nat} (few : bits ≤ Numeral.longestNumeral) :
      2 ^ bits ≤ 10 ^ Numeral.longestNumeral := calc
    2 ^ bits ≤ 10 ^ bits := Nat.pow_le_pow_left (by decide) bits
    _ ≤ 10 ^ Numeral.longestNumeral := Nat.pow_le_pow_right (by decide) few
  rw [Numeral.isSome_write?_iff]
  calc n.natAbs < Binary64.leastOverflow := below
    _ ≤ 2 ^ 1024 := Binary64.leastOverflow_bounds.2
    _ ≤ 10 ^ Numeral.longestNumeral := writable (by decide)

theorem IsModest.isWritable {d : Document} (modest : d.IsModest) : d.isWritable = true :=
  isWritable_of_holds d fun n holds => isSome_write?_of_ofInt? (modest n holds)

end Document

theorem Reading.not_breaks_of_isModest {kind : ReadingKind} {value : Document}
    {fault : ConversionFault} (modest : value.IsModest) : ¬ Breaks kind value fault := by
  intro breaks
  cases breaks with
  | @number n large =>
    have nearest := modest n .self
    rw [Binary64.ofInt?_eq_none_iff.2 large] at nearest
    cases nearest
  | @text n long =>
    have written := Document.isSome_write?_of_ofInt? (modest n .self)
    exact Nat.not_lt.2 long (Numeral.isSome_write?_iff.1 written)
  | list kind long | object kind long => exact Bool.noConfusion (long.symm.trans modest.isWritable)

namespace Status

inductive Unwraps (key : String) (members : Fields Document) : Fields Document → Prop where
  | wrapped {node} (found : members.lookup key = some (.object node)) : Unwraps key members node
  | bare (none : ∀ node, members.lookup key ≠ some (.object node)) : Unwraps key members members

/-- Which node of a status document has the readings of a model. -/
def Selects (model : StatusModel) (members node : Fields Document) : Prop :=
  ∃ outer, Unwraps "snapshot" members outer ∧ match model.deviceNode? with
    | none => node = outer
    | some key => Unwraps key outer node

theorem unwraps_iff {key : String} {members node : Fields Document} :
    Unwraps key members node ↔ node = inner members key := by
  unfold inner
  constructor
  · rintro (found | none)
    · simp [found, Document.object?]
    · cases found : members.lookup key with
      | none => rfl
      | some value => cases value with
        | object node => exact absurd found (none node)
        | _ => rfl
  · rintro rfl
    cases found : members.lookup key with
    | none => exact .bare fun node => by simp [found]
    | some value => cases value with
      | object node => exact .wrapped found
      | _ => exact .bare fun node => by simp [found]

theorem selects_iff {model : StatusModel} {members node : Fields Document} :
    Selects model members node ↔ node = selected model members := by
  unfold Selects selected
  simp only [unwraps_iff, exists_eq_left]
  cases model.deviceNode? <;> simp

def valuesFor (table : AliasTable) (node : Fields Document) (attr : Attribute) : List Document :=
  Fields.values (node.filter fun member => table.lookup member.1 = some attr && !member.2.isNull)

/-- What was found in a node: members that no attribute claims, and for each attribute the reading of
its last value. -/
structure Lossless (table : AliasTable) (node : Fields Document) (readings : Readings)
    (unclaimed : Fields Document) : Prop where
  unclaimed : unclaimed = node.filter fun member => !table.has member.1
  readings : ∀ attr, Option.Rel (fun value reading => Reading.ofDocument attr.kind value = .ok reading)
    (valuesFor table node attr).getLast? (readings.lookup attr)

section Sift

variable {table : AliasTable} {node : Fields Document} {sifted next : Sifted}
  {member : String × Document}

theorem valuesFor_append (table : AliasTable) (node : Fields Document) (member : String × Document)
    (attr : Attribute) : valuesFor table (node ++ [member]) attr = valuesFor table node attr ++
      if table.lookup member.1 = some attr ∧ member.2.isNull = false then [member.2] else [] := by
  unfold valuesFor Fields.values
  rw [List.filter_append, List.map_append]
  by_cases claimed : table.lookup member.1 = some attr <;>
    cases given : member.2.isNull <;> simp [claimed, given]

theorem Lossless.siftMember (lossless : Lossless table node sifted.readings sifted.unclaimed)
    (taken : siftMember table sifted member = .ok next) :
    Lossless table (node ++ [member]) next.readings next.unclaimed := by
  unfold Status.siftMember at taken
  cases claimed : table.lookup member.1 with
  | none =>
    simp only [claimed, Except.ok.injEq] at taken
    subst taken
    refine ⟨?_, fun attr => ?_⟩
    · simp [lossless.unclaimed, Fields.has, claimed]
    · simpa [valuesFor_append, claimed] using lossless.readings attr
  | some attr =>
    have kept : (node ++ [member]).filter (fun member => !table.has member.1) =
        node.filter fun member => !table.has member.1 := by
      simp [Fields.has, claimed]
    cases given : member.2.isNull with
    | true =>
      simp only [claimed, given, if_true, Except.ok.injEq] at taken
      subst taken
      refine ⟨lossless.unclaimed.trans kept.symm, fun attr => ?_⟩
      simpa [valuesFor_append, given] using lossless.readings attr
    | false =>
      simp only [claimed, given, Bool.false_eq_true, if_false] at taken
      split at taken
      · next reading read =>
        cases taken
        refine ⟨lossless.unclaimed.trans kept.symm, fun other => ?_⟩
        rw [valuesFor_append, claimed, Readings.lookup_record]
        by_cases same : other = attr
        · subst same
          simpa [given] using Option.Rel.some read
        · simpa [same, Ne.symm same] using lossless.readings other
      · cases taken

theorem Lossless.sift {rest : Fields Document}
    (lossless : Lossless table node sifted.readings sifted.unclaimed)
    (taken : sift table sifted rest = .ok next) :
    Lossless table (node ++ rest) next.readings next.unclaimed := by
  -- The members taken so far are the accumulator of the induction.
  induction rest generalizing node sifted with
  | nil =>
    cases taken
    rwa [List.append_nil]
  | cons member rest ih =>
    obtain ⟨between, first, others⟩ := bind_eq_ok_iff.1 taken
    rw [List.append_cons]
    exact ih (lossless.siftMember first) others

theorem lossless_nil : Lossless table [] [] [] := ⟨rfl, fun _ => .none⟩

theorem exists_sift_iff (table : AliasTable) (sifted : Sifted) (node : Fields Document) :
    (∃ next, sift table sifted node = .ok next) ↔ ∀ member ∈ node, MemberPasses table member := by
  induction node generalizing sifted with
  | nil => simp [Status.sift]
  | cons member rest ih =>
    rw [List.forall_mem_cons, ← exists_siftMember_iff sifted member, Status.sift]
    cases siftMember table sifted member with
    | error failure => simp [bind, Except.bind]
    | ok between => simpa [bind, Except.bind] using ih between

theorem sift_claimed (sifted other : Sifted) (same : sifted.readings = other.readings)
    (node : Fields Document) : (sift table sifted node).map (·.readings) =
      (sift table other (node.filter fun member => table.has member.1)).map (·.readings) := by
  induction node generalizing sifted other with
  | nil => simp [Status.sift, same, Except.map]
  | cons member rest ih =>
    cases claimed : table.lookup member.1 with
    | none =>
      have skipped : table.has member.1 = false := by simp [Fields.has, claimed]
      have passed : siftMember table sifted member =
          .ok { sifted with unclaimed := sifted.unclaimed ++ [member] } := by
        simp [siftMember, claimed]
      rw [List.filter_cons_of_neg (by simp [skipped]), Status.sift, passed]
      exact ih _ other same
    | some attr =>
      have taken : table.has member.1 = true := by simp [Fields.has, claimed]
      rw [List.filter_cons_of_pos (by simpa using taken), Status.sift, Status.sift]
      cases given : member.2.isNull with
      | true => simpa [siftMember, claimed, given, bind, Except.bind] using ih sifted other same
      | false =>
        cases read : Reading.ofDocument attr.kind member.2 with
        | error fault => simp [siftMember, claimed, given, read, bind, Except.bind, Except.map]
        | ok reading =>
          simpa [siftMember, claimed, given, read, bind, Except.bind]
            using ih _ { other with readings := other.readings.record attr reading } (by simp [same])

end Sift

/-- What cannot be decoded: what is no object, and an object that has in its node a value other than
null which has no reading for the attribute that claims it. -/
inductive Refused (model : StatusModel) (table : AliasTable) : Except ReadFault Document → Prop where
  | unread (fault : ReadFault) : Refused model table (.error fault)
  | notObject {document : Document} (none : document.object? = none) :
      Refused model table (.ok document)
  | value {members node : Fields Document} {key : String} {value : Document} {attr : Attribute}
      {fault : ConversionFault} (selects : Selects model members node) (inside : (key, value) ∈ node)
      (claimed : table.lookup key = some attr) (given : value.isNull = false)
      (refused : Reading.ofDocument attr.kind value = .error fault) :
      Refused model table (.ok (.object members))

section Whole

variable {family : Family} {capability : Option Capability} {model : StatusModel} {table : AliasTable}
  {members node : Fields Document} {read : Except ReadFault Document}

theorem modelOf_eq_ok_iff : modelOf family = .ok model ↔ family.statusModel? = some model := by
  unfold modelOf
  cases family.statusModel? <;> simp

theorem exists_aliasTable (modelled : family.statusModel? = some model)
    (suits : Suits family capability) : ∃ table, aliasTable family capability = .ok table := by
  have found := modelOf_eq_ok_iff.2 modelled
  simp only [aliasTable, found, bind, Except.bind]
  split
  · exact ⟨_, rfl⟩
  · next laundry named =>
    cases modelled.symm.trans (suits laundry named)
    obtain ⟨extra, made⟩ := exists_courseAliases laundry
    exact ⟨_, by rw [made]; rfl⟩

theorem not_memberPasses_iff {member : String × Document} : ¬ MemberPasses table member ↔
    ∃ attr fault, table.lookup member.1 = some attr ∧ member.2.isNull = false ∧
      Reading.ofDocument attr.kind member.2 = .error fault := by
  unfold MemberPasses
  constructor
  · intro stops
    simp only [not_forall, not_or] at stops
    obtain ⟨attr, claimed, given, unread⟩ := stops
    cases outcome : Reading.ofDocument attr.kind member.2 with
    | ok reading => exact absurd ⟨reading, outcome⟩ unread
    | error fault =>
      refine ⟨attr, fault, claimed, ?_, outcome⟩
      cases value : member.2 <;> simp_all [Document.isNull]
  · rintro ⟨attr, fault, claimed, given, refused⟩ passes
    obtain null | ⟨reading, made⟩ := passes attr claimed
    · rw [null] at given
      cases given
    · cases made.symm.trans refused

theorem refused_object_iff : Refused model table (.ok (.object members)) ↔
    ∃ member ∈ selected model members, ¬ MemberPasses table member := by
  constructor
  · intro refused
    cases refused with
    | notObject none => cases none
    | value selects inside claimed given refused =>
      rw [selects_iff.1 selects] at inside
      exact ⟨_, inside, not_memberPasses_iff.2 ⟨_, _, claimed, given, refused⟩⟩
  · rintro ⟨member, inside, stops⟩
    obtain ⟨attr, fault, claimed, given, refused⟩ := not_memberPasses_iff.1 stops
    exact .value (selects_iff.2 rfl) inside claimed given refused

theorem ofRead_object (modelled : family.statusModel? = some model)
    (named : aliasTable family capability = .ok table) (online : Bool) (members : Fields Document) :
    ofRead family capability online (.ok (.object members)) =
      (sift table {} (selected model members)).map fun sifted => {
        family
        online
        readings := sifted.readings
        reported := selected model members
        document := members
        unclaimed := sifted.unclaimed } := by
  have found := modelOf_eq_ok_iff.2 modelled
  simp only [ofRead, ofDocument, found, named, Document.object?, bind, Except.bind]
  cases sift table {} (selected model members) <;> rfl

theorem ofRead_unread (capability : Option Capability)
    (modelled : family.statusModel? = some model) (online : Bool)
    (other : ∀ members, read ≠ .ok (.object members)) :
    ∃ fault, ofRead family capability online read = .error (.decoding fault) := by
  have found := modelOf_eq_ok_iff.2 modelled
  cases read with
  | error fault => exact ⟨.invalidText fault, by simp only [ofRead, found, bind, Except.bind]⟩
  | ok document =>
    refine ⟨.notObject, ?_⟩
    cases document with
    | object members => exact absurd rfl (other members)
    | _ => simp only [ofRead, ofDocument, found, Document.object?, bind, Except.bind]

theorem failed_ofRead_iff (modelled : family.statusModel? = some model)
    (named : aliasTable family capability = .ok table) (online : Bool) :
    (∃ failure, ofRead family capability online read = .error failure) ↔ Refused model table read := by
  by_cases isObject : ∃ members, read = .ok (.object members)
  · obtain ⟨members, rfl⟩ := isObject
    have passes := exists_sift_iff table {} (selected model members)
    rw [ofRead_object modelled named, refused_object_iff]
    simp only [map_eq_error_iff]
    cases sifted : sift table {} (selected model members) with
    | ok next => simpa using passes.1 ⟨next, sifted⟩
    | error failure => simpa [sifted] using passes
  · push Not at isObject
    obtain ⟨fault, failed⟩ := ofRead_unread capability modelled online isObject
    refine iff_of_true ⟨_, failed⟩ ?_
    cases read with
    | error fault => exact .unread fault
    | ok document =>
      refine .notObject ?_
      cases document with
      | object members => exact absurd rfl (isObject members)
      | _ => rfl

theorem ofRead_ok (modelled : family.statusModel? = some model)
    (named : aliasTable family capability = .ok table) {online : Bool} {status : Status}
    (decoded : ofRead family capability online read = .ok status) :
    status.family = family ∧ status.online = online ∧
      read = .ok (.object status.document) ∧ Selects model status.document status.reported ∧
      Lossless table status.reported status.readings status.unclaimed := by
  by_cases isObject : ∃ members, read = .ok (.object members)
  · obtain ⟨members, rfl⟩ := isObject
    rw [ofRead_object modelled named] at decoded
    cases sifted : sift table {} (selected model members) with
    | error failure => simp [sifted, Except.map] at decoded
    | ok next =>
      simp only [sifted, Except.map, Except.ok.injEq] at decoded
      subst decoded
      exact ⟨rfl, rfl, rfl, selects_iff.2 rfl, lossless_nil.sift sifted⟩
  · push Not at isObject
    obtain ⟨fault, failed⟩ := ofRead_unread capability modelled online isObject
    cases failed.symm.trans decoded

theorem decoding_of_isModest (suits : Suits family capability)
    (modelled : family.statusModel? = some model)
    (named : aliasTable family capability = .ok table) {online : Bool} {failure : Failure}
    (modest : ∀ members node, read = .ok (.object members) → Selects model members node →
      ∀ member ∈ node, table.has member.1 = true → member.2.IsModest)
    (failed : ofRead family capability online read = .error failure) :
    ∃ fault, failure = .decoding fault := by
  have decodes := decodes_ofRead suits online read
  obtain decoding | ⟨fault, rfl⟩ := decodes.known failure failed
  · exact decoding
  · obtain ⟨_, rfl, _, _, members, found, again, rfl, before, member, after, split, -, breaks⟩ :=
      (decodes.breaks_iff fault).1 failed
    obtain ⟨attr, claimed, breaks⟩ := breaks
    cases (modelOf_eq_ok_iff.1 found).symm.trans modelled
    cases again.symm.trans named
    have inside : member ∈ selected model members := by simp [split]
    have modest := modest members _ rfl (selects_iff.2 rfl) member inside (by simp [Fields.has, claimed])
    exact absurd breaks (Reading.not_breaks_of_isModest modest)

end Whole

/-- Decoding loses nothing, and it fails exactly for what is refused: as a decoding fault, if every
integer that an attribute claims has a floating-point number. Members that no attribute claims make no
difference to the readings or to the failure. -/
theorem lossless_ofRead {family : Family} {capability : Option Capability} {model : StatusModel}
    (modelled : family.statusModel? = some model) (suits : Suits family capability) :
    ∃ table, aliasTable family capability = .ok table ∧ ∀ online,
      (∀ document, ofDocument family capability online document =
        ofRead family capability online (.ok document)) ∧
      (∀ read,
        (∀ status, ofRead family capability online read = .ok status →
          status.family = family ∧ status.online = online ∧
          read = .ok (.object status.document) ∧ Selects model status.document status.reported ∧
          Lossless table status.reported status.readings status.unclaimed) ∧
        ((∃ failure, ofRead family capability online read = .error failure) ↔
          Refused model table read) ∧
        ((∀ members node, read = .ok (.object members) → Selects model members node →
            ∀ member ∈ node, table.has member.1 = true → member.2.IsModest) →
          ((∃ fault, ofRead family capability online read = .error (.decoding fault)) ↔
            Refused model table read))) ∧
      ∀ members node others otherNode, Selects model members node → Selects model others otherNode →
        (node.filter fun member => table.has member.1) =
          (otherNode.filter fun member => table.has member.1) →
        (ofRead family capability online (.ok (.object members))).map (·.readings) =
          (ofRead family capability online (.ok (.object others))).map (·.readings) := by
  obtain ⟨table, named⟩ := exists_aliasTable modelled suits
  refine ⟨table, named, fun online => ⟨fun document => ?_, fun read => ⟨?_, ?_, ?_⟩, ?_⟩⟩
  · simp only [ofRead, modelOf_eq_ok_iff.2 modelled, bind, Except.bind]
  · intro status decoded
    exact ofRead_ok modelled named decoded
  · exact failed_ofRead_iff modelled named online
  · intro modest
    rw [← failed_ofRead_iff modelled named online]
    constructor
    · rintro ⟨fault, failed⟩
      exact ⟨_, failed⟩
    · rintro ⟨failure, failed⟩
      obtain ⟨fault, rfl⟩ := decoding_of_isModest suits modelled named modest failed
      exact ⟨fault, failed⟩
  · intro members node others otherNode selects otherSelects same
    cases selects_iff.1 selects
    cases selects_iff.1 otherSelects
    have readings (fields : Fields Document) :
        (ofRead family capability online (.ok (.object fields))).map (·.readings) =
          (sift table {} ((selected model fields).filter fun member => table.has member.1)).map
            (·.readings) := by
      rw [ofRead_object modelled named, ← sift_claimed {} {} rfl]
      cases sift table {} (selected model fields) <;> rfl
    rw [readings, readings, same]

def sampleNode : Fields Document :=
  [("Remain_Time_H", .int 1), ("spare", .list [.int 7, .null]), ("remainTimeHour", .int 2),
   ("state", .text "RUNNING"), ("State", .null)]

def sampleMembers : Fields Document :=
  [("meta", .bool true), ("snapshot", .object [("mid", .int 5), ("washerDryer", .object sampleNode)])]

theorem lossless_ofRead_sample : Family.washer.statusModel? = some .laundry ∧ Suits .washer none ∧
    ∃ status, ofRead .washer none true (.ok (.object sampleMembers)) = .ok status ∧
      status.document = sampleMembers ∧ status.reported = sampleNode ∧
      status.unclaimed = [("spare", .list [.int 7, .null])] ∧
      status.readings.lookup .remainHours = some (.integer 2) ∧
      status.readings.lookup .state = some (.text "RUNNING") ∧
      status.readings.lookup .course = none ∧
      ∃ fault, ofRead .washer none true (.ok (.object [("spare", .null), ("state", .list [])])) =
        .error (.decoding fault) := by
  have suits : Suits .washer none := by
    intro laundry named
    cases named
  obtain ⟨table, named, decodes⟩ := lossless_ofRead rfl suits
  cases named
  obtain ⟨-, decodes, -⟩ := decodes true
  obtain ⟨lossless, -, -⟩ := decodes (.ok (.object sampleMembers))
  obtain ⟨-, -, whole, selects, found⟩ := lossless _ rfl
  refine ⟨rfl, suits, _, rfl, rfl, selects_iff.1 selects, found.unclaimed, rfl, rfl, rfl, ?_⟩
  obtain ⟨-, -, decoding_iff⟩ := decodes (.ok (.object [("spare", .null), ("state", .list [])]))
  refine (decoding_iff ?_).2 (.value (selects_iff.2 rfl) (.tail _ (.head _)) rfl rfl rfl)
  rintro _ node ⟨⟩ selects member inside claimed n holds
  cases selects_iff.1 selects
  obtain _ | ⟨_, _ | ⟨_, ⟨⟩⟩⟩ := inside
  · cases claimed
  · cases holds with
    | item none => cases none

end Status

end ApplianceCloud
