import ApplianceCloud.Proofs.Status.Lossless

/-!
# Reports in another order

Decoding takes the fields of a layout, or the members of a status document, one after the other. What
one of them does is the same in every state, and two of different names and different attributes do
not get into each other's way. So `agree_of_rearranged`: reports that give the same in another order
are decoded alike, or both fail.
-/

namespace ApplianceCloud

section Outcomes

variable {ε σ α : Type}

inductive Agree (Alike : σ → σ → Prop) : Except ε σ → Except ε σ → Prop where
  | ok {s t : σ} (alike : Alike s t) : Agree Alike (.ok s) (.ok t)
  | error (failure other : ε) : Agree Alike (.error failure) (.error other)

/-- Steps of which each fails in every state or has one effect on all of them, and of which two that
are apart have the same effect in both orders. -/
structure Interchange (step : σ → α → Except ε σ) (Effect : α → (σ → σ) → Prop)
    (Apart : α → α → Prop) (Alike : σ → σ → Prop) : Prop where
  steady : ∀ item, (∃ failure, ∀ s, step s item = .error failure) ∨
    ∃ effect, Effect item effect ∧ ∀ s, step s item = .ok (effect s)
  equivalence : Equivalence Alike
  respects : ∀ {item effect s t}, Effect item effect → Alike s t → Alike (effect s) (effect t)
  symmetric : ∀ {item other}, Apart item other → Apart other item
  commutes : ∀ {item other effect after}, Apart item other → Effect item effect →
    Effect other after → ∀ s, Alike (after (effect s)) (effect (after s))

variable {Alike : σ → σ → Prop} {step : σ → α → Except ε σ} {Effect : α → (σ → σ) → Prop}
  {Apart : α → α → Prop} {items others : List α} {s t : σ}

theorem Agree.trans {x y z : Except ε σ} (equivalence : Equivalence Alike) (first : Agree Alike x y)
    (second : Agree Alike y z) : Agree Alike x z := by
  cases first with
  | error failure other =>
    cases second with
    | error _ last => exact .error failure last
  | ok here =>
    cases second with
    | ok there => exact .ok (equivalence.trans here there)

theorem Agree.map {τ : Type} {Same : τ → τ → Prop} {f g : σ → τ} {x y : Except ε σ}
    (agree : Agree Alike x y) (same : ∀ {s t}, Alike s t → Same (f s) (g t)) :
    Agree Same (x.map f) (y.map g) := by
  cases agree with
  | ok alike => exact .ok (same alike)
  | error failure other => exact .error failure other

namespace Interchange

variable (interchange : Interchange step Effect Apart Alike)

include interchange

theorem agree_cons {rest rest' : List α} (item : α)
    (later : ∀ {s t}, Alike s t → Agree Alike (rest.foldlM step s) (rest'.foldlM step t))
    (alike : Alike s t) :
    Agree Alike ((item :: rest).foldlM step s) ((item :: rest').foldlM step t) := by
  rw [List.foldlM_cons, List.foldlM_cons]
  obtain ⟨failure, failed⟩ | ⟨effect, does, done⟩ := interchange.steady item
  · rw [failed, failed]
    exact .error failure failure
  · rw [done, done]
    exact later (interchange.respects does alike)

theorem agree_foldlM (items : List α) (alike : Alike s t) :
    Agree Alike (items.foldlM step s) (items.foldlM step t) := by
  induction items generalizing s t with
  | nil => exact .ok alike
  | cons item rest ih => exact interchange.agree_cons item ih alike

theorem agree_swap {item first : α} (rest : List α) (apart : Apart first item) (alike : Alike s t) :
    Agree Alike ((first :: item :: rest).foldlM step s) ((item :: first :: rest).foldlM step t) := by
  simp only [List.foldlM_cons]
  obtain ⟨failure, failed⟩ | ⟨effect, does, done⟩ := interchange.steady item <;>
    obtain ⟨failure', failed'⟩ | ⟨effect', does', done'⟩ := interchange.steady first
  · simp only [failed, failed', error_bind]
    exact .error failure' failure
  · simp only [failed, done', ok_bind, error_bind]
    exact .error failure failure
  · simp only [done, failed', ok_bind, error_bind]
    exact .error failure' failure'
  · simp only [done, done', ok_bind]
    have swapped : Alike (effect (effect' s)) (effect' (effect s)) :=
      interchange.commutes apart does' does s
    have moved : Alike (effect' (effect s)) (effect' (effect t)) :=
      interchange.respects does' (interchange.respects does alike)
    exact interchange.agree_foldlM rest (interchange.equivalence.trans swapped moved)

theorem agree_of_perm (perm : items.Perm others) (apart : items.Pairwise Apart) (alike : Alike s t) :
    Agree Alike (items.foldlM step s) (others.foldlM step t) := by
  induction perm generalizing s t with
  | nil => exact .ok alike
  | cons item _ ih => exact interchange.agree_cons item (ih (List.pairwise_cons.1 apart).2) alike
  | swap item first rest =>
    exact interchange.agree_swap rest ((List.pairwise_cons.1 apart).1 item List.mem_cons_self) alike
  | trans first _ ihFirst ihSecond =>
    have between := (first.pairwise_iff interchange.symmetric).1 apart
    have start := ihFirst apart (interchange.equivalence.refl s)
    exact start.trans interchange.equivalence (ihSecond between alike)

end Interchange

end Outcomes

section Names

/-- Whether two names are different, and do not stand for the same attribute. -/
def AliasTable.Apart (table : AliasTable) (name other : String) : Prop :=
  name ≠ other ∧ (table.lookup name = none ∨ table.lookup name ≠ table.lookup other)

instance (table : AliasTable) (name other : String) : Decidable (table.Apart name other) :=
  inferInstanceAs (Decidable (_ ∧ _))

variable {table : AliasTable} {name other : String}

theorem AliasTable.Apart.symm (apart : table.Apart name other) : table.Apart other name := by
  refine ⟨apart.1.symm, ?_⟩
  rcases apart.2 with free | differ
  · cases found : table.lookup other with
    | none => exact .inl rfl
    | some attr => exact .inr (by simp [free])
  · exact .inr differ.symm

theorem AliasTable.Apart.attribute_ne {attr attr' : Attribute} (apart : table.Apart name other)
    (here : table.lookup name = some attr) (there : table.lookup other = some attr') :
    attr ≠ attr' := by
  rintro rfl
  rcases apart.2 with free | differ
  · cases free.symm.trans here
  · exact differ (here.trans there.symm)

theorem Readings.record_comm {attr attr' : Attribute} (differ : attr ≠ attr') (readings : Readings)
    (reading reading' : Reading) (asked : Attribute) :
    ((readings.record attr reading).record attr' reading').lookup asked =
      ((readings.record attr' reading').record attr reading).lookup asked := by
  simp only [Readings.lookup_record]
  by_cases here : asked = attr
  · simp [here, differ]
  · simp [here]

theorem Fields.put_comm {β : Type} (differ : name ≠ other) (fields : Fields β) (value value' : β)
    (asked : String) : ((fields.put name value).put other value').lookup asked =
      ((fields.put other value').put name value).lookup asked := by
  simp only [Fields.lookup_put]
  by_cases here : asked = name
  · simp [here, differ]
  · simp [here]

end Names

namespace Telemetry

structure Alike (telemetry other : Telemetry) : Prop where
  readings : ∀ attr, telemetry.readings.lookup attr = other.readings.lookup attr
  values : ∀ name, telemetry.values.lookup name = other.values.lookup name
  unclaimed : ∀ name, telemetry.unclaimed.lookup name = other.unclaimed.lookup name

inductive Effect (table : AliasTable) (field : ReportField) : (Telemetry → Telemetry) → Prop where
  | unclaimed (n : Nat) (free : table.lookup field.name = none) :
      Effect table field fun telemetry => { telemetry with
        values := telemetry.values.put field.name n
        unclaimed := telemetry.unclaimed.put field.name n }
  | claimed (n : Nat) {attr : Attribute} (reading : Reading)
      (claimed : table.lookup field.name = some attr) :
      Effect table field fun telemetry => { telemetry with
        values := telemetry.values.put field.name n
        readings := telemetry.readings.record attr reading }

variable {table : AliasTable} {field other : ReportField} {effect after : Telemetry → Telemetry}
  {telemetry later : Telemetry}

theorem equivalence_alike : Equivalence Alike where
  refl _ := ⟨fun _ => rfl, fun _ => rfl, fun _ => rfl⟩
  symm alike := ⟨fun attr => (alike.readings attr).symm, fun name => (alike.values name).symm,
    fun name => (alike.unclaimed name).symm⟩
  trans first second := ⟨fun attr => (first.readings attr).trans (second.readings attr),
    fun name => (first.values name).trans (second.values name),
    fun name => (first.unclaimed name).trans (second.unclaimed name)⟩

theorem steady_addField (bytes : List UInt8) (table : AliasTable) (field : ReportField) :
    (∃ failure, ∀ telemetry, addField bytes table telemetry field = .error failure) ∨
      ∃ effect, Effect table field effect ∧
        ∀ telemetry, addField bytes table telemetry field = .ok (effect telemetry) := by
  by_cases outside : field.IsOutside bytes.length
  · exact .inl ⟨_, fun telemetry => addField_outside outside⟩
  · cases claimed : table.lookup field.name with
    | none =>
      exact .inr ⟨_, .unclaimed (field.number bytes) claimed,
        fun telemetry => addField_unclaimed outside claimed⟩
    | some attr =>
      cases read : readingOf field attr (field.number bytes) with
      | error failure =>
        refine .inl ⟨failure, fun telemetry => ?_⟩
        rw [addField_eq_bind outside claimed, read]
        rfl
      | ok reading =>
        refine .inr ⟨_, .claimed (field.number bytes) reading claimed, fun telemetry => ?_⟩
        rw [addField_eq_bind outside claimed, read]
        rfl

theorem Effect.respects (does : Effect table field effect) (alike : Alike telemetry later) :
    Alike (effect telemetry) (effect later) := by
  cases does with
  | unclaimed n free =>
    refine ⟨alike.readings, fun name => ?_, fun name => ?_⟩
    · simp only [Fields.lookup_put, alike.values]
    · simp only [Fields.lookup_put, alike.unclaimed]
  | claimed n reading claimed =>
    refine ⟨fun attr => ?_, fun name => ?_, alike.unclaimed⟩
    · simp only [Readings.lookup_record, alike.readings]
    · simp only [Fields.lookup_put, alike.values]

theorem Effect.commutes (apart : table.Apart field.name other.name)
    (does : Effect table field effect) (doesAfter : Effect table other after)
    (telemetry : Telemetry) : Alike (after (effect telemetry)) (effect (after telemetry)) := by
  cases does with
  | unclaimed n free =>
    cases doesAfter with
    | unclaimed n' free' =>
      exact ⟨fun _ => rfl, Fields.put_comm apart.1 _ n n', Fields.put_comm apart.1 _ n n'⟩
    | claimed n' reading' claimed' =>
      exact ⟨fun _ => rfl, Fields.put_comm apart.1 _ n n', fun _ => rfl⟩
  | claimed n reading claimed =>
    cases doesAfter with
    | unclaimed n' free' => exact ⟨fun _ => rfl, Fields.put_comm apart.1 _ n n', fun _ => rfl⟩
    | claimed n' reading' claimed' =>
      exact ⟨Readings.record_comm (apart.attribute_ne claimed claimed') _ reading reading',
        Fields.put_comm apart.1 _ n n', fun _ => rfl⟩

theorem interchange (bytes : List UInt8) (table : AliasTable) :
    Interchange (addField bytes table) (Effect table)
      (fun field other => table.Apart field.name other.name) Alike where
  steady := steady_addField bytes table
  equivalence := equivalence_alike
  respects := Effect.respects
  symmetric := AliasTable.Apart.symm
  commutes := Effect.commutes

theorem agree_decode (bytes : List UInt8) (table : AliasTable) {layout others : List ReportField}
    (perm : layout.Perm others) (apart : (layout.map (·.name)).Pairwise table.Apart) :
    Agree Alike (decode bytes layout table) (decode bytes others table) := by
  simp only [decode, addFields_eq_foldlM]
  exact (interchange bytes table).agree_of_perm perm (List.pairwise_map.1 apart)
    (equivalence_alike.refl {})

end Telemetry

namespace Status

namespace Sifted

structure Alike (sifted other : Sifted) : Prop where
  readings : ∀ attr, sifted.readings.lookup attr = other.readings.lookup attr
  unclaimed : ∀ name, sifted.unclaimed.lookup name = other.unclaimed.lookup name

inductive Effect (table : AliasTable) (member : String × Document) : (Sifted → Sifted) → Prop where
  | unclaimed (free : table.lookup member.1 = none) :
      Effect table member fun sifted => { sifted with unclaimed := sifted.unclaimed ++ [member] }
  | null : Effect table member id
  | claimed {attr : Attribute} (reading : Reading) (claimed : table.lookup member.1 = some attr) :
      Effect table member fun sifted => { sifted with readings := sifted.readings.record attr reading }

variable {table : AliasTable} {member other : String × Document} {effect after : Sifted → Sifted}
  {sifted later : Sifted}

theorem equivalence_alike : Equivalence Alike where
  refl _ := ⟨fun _ => rfl, fun _ => rfl⟩
  symm alike := ⟨fun attr => (alike.readings attr).symm, fun name => (alike.unclaimed name).symm⟩
  trans first second := ⟨fun attr => (first.readings attr).trans (second.readings attr),
    fun name => (first.unclaimed name).trans (second.unclaimed name)⟩

theorem steady_siftMember (table : AliasTable) (member : String × Document) :
    (∃ failure, ∀ sifted, siftMember table sifted member = .error failure) ∨
      ∃ effect, Effect table member effect ∧
        ∀ sifted, siftMember table sifted member = .ok (effect sifted) := by
  cases claimed : table.lookup member.1 with
  | none => exact .inr ⟨_, .unclaimed claimed, fun sifted => by simp only [siftMember, claimed]⟩
  | some attr =>
    cases given : member.2.isNull with
    | true =>
      exact .inr ⟨_, .null, fun sifted => by simp only [siftMember, claimed, given, if_true, id]⟩
    | false =>
      cases read : Reading.ofDocument attr.kind member.2 with
      | error fault =>
        refine .inl ⟨conversionFailure member.1 attr member.2 fault, fun sifted => ?_⟩
        simp [siftMember, claimed, given, read]
      | ok reading =>
        refine .inr ⟨_, .claimed reading claimed, fun sifted => ?_⟩
        simp [siftMember, claimed, given, read]

theorem Effect.respects (does : Effect table member effect) (alike : Alike sifted later) :
    Alike (effect sifted) (effect later) := by
  cases does with
  | unclaimed free =>
    refine ⟨alike.readings, fun name => ?_⟩
    rw [List.lookup_append, List.lookup_append, alike.unclaimed]
  | null => exact alike
  | claimed reading claimed =>
    refine ⟨fun attr => ?_, alike.unclaimed⟩
    simp only [Readings.lookup_record, alike.readings]

theorem lookup_append_comm (differ : member.1 ≠ other.1) (members : Fields Document) (name : String) :
    (members ++ [member] ++ [other]).lookup name = (members ++ [other] ++ [member]).lookup name := by
  obtain ⟨key, value⟩ := member
  obtain ⟨key', value'⟩ := other
  simp only [List.lookup_append, Option.or_assoc, List.lookup_cons, List.lookup_nil]
  by_cases here : name = key
  · subst here
    have there : (name == key') = false := beq_eq_false_iff_ne.2 differ
    simp [there]
  · simp [beq_eq_false_iff_ne.2 here]

theorem Effect.commutes (apart : table.Apart member.1 other.1) (does : Effect table member effect)
    (doesAfter : Effect table other after) (sifted : Sifted) :
    Alike (after (effect sifted)) (effect (after sifted)) := by
  cases does with
  | unclaimed free =>
    cases doesAfter with
    | unclaimed free' => exact ⟨fun _ => rfl, lookup_append_comm apart.1 _⟩
    | null => exact equivalence_alike.refl _
    | claimed reading' claimed' => exact equivalence_alike.refl _
  | null => exact equivalence_alike.refl _
  | claimed reading claimed =>
    cases doesAfter with
    | unclaimed free' => exact equivalence_alike.refl _
    | null => exact equivalence_alike.refl _
    | claimed reading' claimed' =>
      exact ⟨Readings.record_comm (apart.attribute_ne claimed claimed') _ reading reading',
        fun _ => rfl⟩

theorem interchange (table : AliasTable) : Interchange (siftMember table) (Effect table)
    (fun member other => table.Apart member.1 other.1) Alike where
  steady := steady_siftMember table
  equivalence := equivalence_alike
  respects := Effect.respects
  symmetric := AliasTable.Apart.symm
  commutes := Effect.commutes

end Sifted

theorem agree_sift {table : AliasTable} {node others : Fields Document} (perm : node.Perm others)
    (apart : node.keys.Pairwise table.Apart) :
    Agree Sifted.Alike (sift table {} node) (sift table {} others) := by
  simp only [sift_eq_foldlM]
  exact (Sifted.interchange table).agree_of_perm perm (List.pairwise_map.1 apart)
    (Sifted.equivalence_alike.refl {})

structure Alike (status other : Status) : Prop where
  readings : ∀ attr, status.reading? attr = other.reading? attr
  powerState : status.powerState = other.powerState
  unclaimed : ∀ name, status.unclaimed.lookup name = other.unclaimed.lookup name

theorem powerState_congr {status other : Status} (family : status.family = other.family)
    (online : status.online = other.online)
    (readings : ∀ attr, status.reading? attr = other.reading? attr) :
    status.powerState = other.powerState := by
  simp only [powerState, integer?, text?, family, online, readings]

/-- Objects that hold in their status nodes the same members, in any order, of which no two have the
same name or stand for the same attribute. -/
def Rearranged (family : Family) (capability : Option Capability)
    (members others : Fields Document) : Prop :=
  ∀ model table, family.statusModel? = some model → aliasTable family capability = .ok table →
    ∃ node node', Selects model members node ∧ Selects model others node' ∧ node.Perm node' ∧
      node.keys.Pairwise table.Apart

theorem agree_ofRead {family : Family} {capability : Option Capability}
    {members others : Fields Document} (rearranged : Rearranged family capability members others)
    (online : Bool) : Agree Alike (ofRead family capability online (.ok (.object members)))
      (ofRead family capability online (.ok (.object others))) := by
  cases modelled : family.statusModel? with
  | none =>
    simp only [ofRead, modelOf, modelled, error_bind]
    exact .error _ _
  | some model =>
    cases named : aliasTable family capability with
    | error failure =>
      have found := modelOf_eq_ok_iff.2 modelled
      simp only [ofRead, ofDocument, found, named, Document.object?, ok_bind, error_bind]
      exact .error _ _
    | ok table =>
      obtain ⟨node, node', selects, selects', perm, apart⟩ := rearranged model table modelled named
      rw [ofRead_object modelled named, ofRead_object modelled named, ← selects_iff.1 selects,
        ← selects_iff.1 selects']
      refine (agree_sift perm apart).map fun alike => ?_
      exact ⟨alike.readings, powerState_congr rfl rfl alike.readings, alike.unclaimed⟩

/-- The order of the fields of a layout, or of the members of a status document, makes no difference
to what is decoded from a report. -/
theorem agree_of_rearranged :
    (∀ (bytes : List UInt8) (table : AliasTable) (layout others : List ReportField),
      layout.Perm others → (layout.map (·.name)).Pairwise table.Apart →
      Agree Telemetry.Alike (Telemetry.decode bytes layout table)
        (Telemetry.decode bytes others table)) ∧
    ∀ (family : Family) (capability : Option Capability) (online : Bool)
      (members others : Fields Document), Rearranged family capability members others →
      Agree Alike (ofRead family capability online (.ok (.object members)))
        (ofRead family capability online (.ok (.object others))) :=
  ⟨fun bytes table _ _ perm apart => Telemetry.agree_decode bytes table perm apart,
    fun _ _ online _ _ rearranged => agree_ofRead rearranged online⟩

def spreadLayout : List ReportField :=
  [{ name := "TempCur", start := 2, length := 1 }, { name := "Spare", start := 0, length := 2 },
   { name := "Operation", start := 0, length := 1 }]

def spreadNode : Fields Document :=
  [("remainTimeHour", .int 2), ("spare", .list [.null]), ("state", .text "RUNNING")]

def wrapped : Fields Document :=
  [("snapshot", .object [("mid", .int 5), ("washerDryer", .object spreadNode)])]

def turned : Fields Document := [("washerDryer", .object spreadNode.reverse)]

theorem agree_of_rearranged_sample :
    (spreadLayout.Perm spreadLayout.reverse ∧
      (spreadLayout.map (·.name)).Pairwise StatusModel.airConditioner.aliases.Apart ∧
      ∃ telemetry other,
        Telemetry.decode [1, 0, 22] spreadLayout StatusModel.airConditioner.aliases = .ok telemetry ∧
        Telemetry.decode [1, 0, 22] spreadLayout.reverse StatusModel.airConditioner.aliases =
          .ok other ∧
        Telemetry.Alike telemetry other ∧ telemetry.values ≠ other.values ∧
        other.readings.lookup .operation = some (.integer 1)) ∧
    Rearranged .washer none wrapped turned ∧
      ∃ status other, ofRead .washer none true (.ok (.object wrapped)) = .ok status ∧
        ofRead .washer none true (.ok (.object turned)) = .ok other ∧
        Alike status other ∧ status.text? .state = some "RUNNING" := by
  obtain ⟨layouts, documents⟩ := agree_of_rearranged
  have perm : spreadLayout.Perm spreadLayout.reverse := (List.reverse_perm spreadLayout).symm
  have apart : (spreadLayout.map (·.name)).Pairwise StatusModel.airConditioner.aliases.Apart := by
    decide
  have rearranged : Rearranged .washer none wrapped turned := by
    rintro model table ⟨⟩ ⟨⟩
    exact ⟨spreadNode, spreadNode.reverse, selects_iff.2 rfl, selects_iff.2 rfl,
      (List.reverse_perm spreadNode).symm, by decide⟩
  refine ⟨⟨perm, apart, _, _, rfl, rfl, ?_, by decide, rfl⟩, rearranged, _, _, rfl, rfl, ?_, rfl⟩
  · cases layouts [1, 0, 22] StatusModel.airConditioner.aliases _ _ perm apart with
    | ok alike => exact alike
  · cases documents .washer none true _ _ rearranged with
    | ok alike => exact alike

end Status

end ApplianceCloud
