import ApplianceCloud.Proofs.Status.Lossless

namespace ApplianceCloud.Status

/-- An object in which no name of a wrapper holds an object. -/
structure IsInnermost (model : StatusModel) (inside : Fields Document) : Prop where
  unwrapped : ∀ node, inside.lookup "snapshot" ≠ some (.object node)
  unplaced : ∀ key ∈ model.deviceNode?, ∀ node, inside.lookup key ≠ some (.object node)

/-- The ways in which an object is wrapped. Beside the wrapped object, a wrapper may have any members
with other names. -/
inductive Wraps (model : StatusModel) (inside : Fields Document) : Fields Document → Prop where
  | bare : Wraps model inside inside
  | snapshot {members : Fields Document}
      (found : members.lookup "snapshot" = some (.object inside)) : Wraps model inside members
  | device {members : Fields Document} {key : String} (named : model.deviceNode? = some key)
      (outermost : ∀ node, members.lookup "snapshot" ≠ some (.object node))
      (found : members.lookup key = some (.object inside)) : Wraps model inside members
  | both {members node : Fields Document} {key : String} (named : model.deviceNode? = some key)
      (outer : members.lookup "snapshot" = some (.object node))
      (found : node.lookup key = some (.object inside)) : Wraps model inside members

variable {model : StatusModel} {inside members : Fields Document}

theorem IsInnermost.selects (innermost : IsInnermost model inside)
    (unwraps : Unwraps "snapshot" members inside) : Selects model members inside := by
  refine ⟨inside, unwraps, ?_⟩
  cases named : model.deviceNode? with
  | none => rfl
  | some key => exact .bare (innermost.unplaced key named)

theorem selects_of_named {key : String} {node : Fields Document}
    (named : model.deviceNode? = some key) (unwraps : Unwraps "snapshot" members node)
    (found : node.lookup key = some (.object inside)) : Selects model members inside := by
  refine ⟨node, unwraps, ?_⟩
  rw [named]
  exact .wrapped found

theorem Wraps.selects (wraps : Wraps model inside members) (innermost : IsInnermost model inside) :
    Selects model members inside := by
  cases wraps with
  | bare => exact innermost.selects (.bare innermost.unwrapped)
  | snapshot found => exact innermost.selects (.wrapped found)
  | device named outermost found => exact selects_of_named named (.bare outermost) found
  | both named outer found => exact selects_of_named named (.wrapped outer) found

theorem ofRead_of_selected {family : Family} {others : Fields Document}
    (modelled : family.statusModel? = some model)
    (same : selected model members = selected model others) (capability : Option Capability)
    (online : Bool) : ofRead family capability online (.ok (.object members)) =
      (ofRead family capability online (.ok (.object others))).map
        fun status => { status with document := members } := by
  cases named : aliasTable family capability with
  | error failure =>
    simp only [ofRead, ofDocument, modelOf_eq_ok_iff.2 modelled, named, Document.object?, ok_bind,
      error_bind]
    rfl
  | ok table =>
    rw [ofRead_object modelled named, ofRead_object modelled named, same]
    cases sift table {} (selected model others) <;> rfl

inductive SameReading : Except Failure Status → Except Failure Status → Prop where
  | failed (failure : Failure) : SameReading (.error failure) (.error failure)
  | read {status other : Status} (readings : ∀ attr, other.reading? attr = status.reading? attr)
      (reported : other.reported = status.reported) (unclaimed : other.unclaimed = status.unclaimed)
      (powerState : other.powerState = status.powerState) : SameReading (.ok status) (.ok other)

/-- However an object is wrapped, the outcome of reading it is the same. -/
theorem read_wrapped {family : Family} {others : Fields Document}
    (modelled : family.statusModel? = some model) (innermost : IsInnermost model inside)
    (wraps : Wraps model inside members) (wraps' : Wraps model inside others)
    (capability : Option Capability) (online : Bool) :
    SameReading (ofRead family capability online (.ok (.object members)))
      (ofRead family capability online (.ok (.object others))) := by
  have same : selected model members = selected model others := calc
    selected model members = inside := (selects_iff.1 (wraps.selects innermost)).symm
    _ = selected model others := selects_iff.1 (wraps'.selects innermost)
  rw [ofRead_of_selected modelled same]
  cases ofRead family capability online (.ok (.object others)) with
  | error failure => exact .failed failure
  | ok status => exact .read (fun _ => rfl) rfl rfl rfl

def plainNode : Fields Document :=
  [("state", .text "RUNNING"), ("snapshot", .text "none"), ("remainTimeHour", .text "2")]

def deviceWrapper : Fields Document :=
  [("state", .text "POWEROFF"), ("washerDryer", .object plainNode), ("mid", .int 5)]

def outerWrapper : Fields Document :=
  [("online", .bool true), ("snapshot", .object deviceWrapper), ("state", .list [])]

theorem read_wrapped_sample : Family.washer.statusModel? = some .laundry ∧
    IsInnermost .laundry plainNode ∧ Wraps .laundry plainNode outerWrapper ∧
    Wraps .laundry plainNode deviceWrapper ∧ ∃ status other,
      ofRead .washer none true (.ok (.object outerWrapper)) = .ok status ∧
      ofRead .washer none true (.ok (.object deviceWrapper)) = .ok other ∧
      other.text? .state = some "RUNNING" ∧ status.reported = plainNode ∧
      status.unclaimed = [("snapshot", .text "none")] ∧ other.unclaimed = status.unclaimed ∧
      other.powerState = status.powerState := by
  have innermost : IsInnermost .laundry plainNode := by
    refine ⟨fun node found => ?_, ?_⟩
    · cases found
    · rintro key ⟨⟩ node found
      cases found
  have outer : Wraps .laundry plainNode outerWrapper := .both rfl rfl rfl
  have device : Wraps .laundry plainNode deviceWrapper := by
    refine .device rfl (fun node found => ?_) rfl
    cases found
  have modelled : Family.washer.statusModel? = some .laundry := rfl
  refine ⟨modelled, innermost, outer, device, _, _, rfl, rfl, rfl, rfl, rfl, ?_⟩
  cases read_wrapped modelled innermost outer device none true with
  | read _ _ unclaimed powerState => exact ⟨unclaimed, powerState⟩

end ApplianceCloud.Status
