import ApplianceCloud.Proofs.Cloud.Classification
import ApplianceCloud.Proofs.Keeper.Conduct

namespace ApplianceCloud

open Activity

variable {σ α β : Type}

namespace CloudCall

/-- Whether a call lets an appliance be: what it posts, if anything, has to do with a work or keeps
reports coming. -/
def Reads : CloudCall → Prop
  | .request message => ∀ payload ∈ message.payload?,
      payload.lookup "ctrlKey" = some (.text "allEventEnable") ∨
        ∃ work, payload.lookup "lgedmRoot" = some (.object work) ∧
          (work.lookup "cmd" = some (.text "Mon") ∨ (work.lookup "workList").isSome)
  | _ => True

end CloudCall

def Cloud.Reads (activity : Cloud σ α) : Prop := ∀ what : CloudCall, activity.MayAsk what → what.Reads

namespace Cloud

theorem reads_bind {activity : Cloud σ α} {next : α → Cloud σ β} (h : activity.Reads)
    (rest : ∀ a, (next a).Reads) : Reads (activity >>= next) := by
  intro what asked
  rcases asked.of_bind with first | ⟨a, later⟩
  · exact h what first
  · exact rest a what later

theorem reads_attempt {activity : Cloud σ α} (h : activity.Reads) : Reads activity.attempt :=
  fun what asked => h what asked.of_attempt

theorem reads_pure {a : α} : Reads (pure a : Cloud σ α) := fun _ asked => asked.elim

theorem reads_fail {failure : Failure} : Reads (Activity.fail failure : Cloud σ α) :=
  fun _ asked => asked.elim

theorem reads_lift {result : Except Failure α} : Reads (liftM result : Cloud σ α) :=
  fun _ asked => asked.elim

theorem reads_ask {what : CloudCall} (reads : what.Reads) :
    Reads (Activity.ask (I := cloud) what : Cloud σ _) := by
  rintro other (rfl | ⟨answer, asked⟩)
  · exact reads
  · exact asked.elim

theorem reads_send {method : Method} {path : String} {payload? : Option (Fields Document)}
    (quiet : ∀ payload ∈ payload?, payload.lookup "ctrlKey" = some (.text "allEventEnable")) :
    Reads (send method path payload? : Cloud σ (Fields Document)) :=
  reads_bind (reads_ask trivial) fun _ => reads_bind reads_lift fun _ =>
    reads_bind (reads_ask trivial) fun _ =>
      reads_bind (reads_ask fun payload posted => .inl (quiet payload posted)) fun _ => reads_lift

theorem reads_post {path : String} {work : Fields Document}
    (reports : work.lookup "cmd" = some (.text "Mon") ∨ (work.lookup "workList").isSome) :
    Reads (post path work : Cloud σ (Fields Document)) := by
  refine reads_bind (reads_ask trivial) fun _ => reads_bind reads_lift fun _ =>
    reads_bind (reads_ask ?_) fun _ => reads_lift
  intro payload posted
  cases posted
  exact .inr ⟨work, rfl, reports⟩

theorem reads_download {device : ListedDevice} :
    Reads (downloadCapability device : Cloud σ Capability) := by
  unfold downloadCapability
  split
  · exact reads_fail
  · exact reads_bind (reads_ask nofun) fun _ => reads_bind reads_lift fun _ => reads_lift

theorem reads_readDevice {device : String} {unit : Capability} :
    Reads (readDevice device unit : Cloud σ Status) := by
  refine reads_bind (reads_attempt (reads_send nofun)) fun answer => ?_
  split
  · exact reads_lift
  · exact reads_lift
  · exact reads_fail

theorem reads_keepAlive {device : String} {family : Family} :
    Reads (Control.keepAlive device family : Cloud σ Unit) := by
  unfold Control.keepAlive
  split
  · refine reads_bind (reads_send ?_) fun _ => reads_pure
    rintro _ ⟨⟩
    rfl
  · exact reads_pure

theorem reads_perform {device : String} {unit? : Option Capability} (what : Watch.WatchCall) :
    Reads (Watch.perform device unit? what : Cloud σ (Watch.remote.Answer what)) := by
  cases what with
  | start =>
    exact reads_bind (reads_ask trivial) fun _ => reads_bind (reads_post (.inl rfl)) fun _ => reads_lift
  | poll workId =>
    cases unit? with
    | none => exact reads_lift
    | some unit => exact reads_bind (reads_post (.inr rfl)) fun _ => reads_lift
  | stop workId => exact reads_bind (reads_post (.inl rfl)) fun _ => reads_pure
  | pause seconds => exact reads_ask trivial

end Cloud

theorem Keeper.Attends.reads {device : ListedDevice} {generation? : Option Generation}
    {seen : Keeper} {what : CloudCall} (attends : Keeper.Attends device generation? seen what) :
    what.Reads := by
  cases attends with
  | download _ asked => exact Cloud.reads_download what asked
  | watch _ asked => exact Cloud.reads_perform _ what asked
  | keepAlive _ asked => exact Cloud.reads_keepAlive what asked
  | read _ asked => exact Cloud.reads_readDevice what asked

namespace Order

def Permitted (status? : Option Status) : Order → Prop
  | set _ _ => True
  | remoteStart _ reported? => reported? = laundryStatus status? ∧
      ∀ status ∈ reported?, status.isStandby = false ∧ status.truth? .remoteStart ≠ some false
  | wakeUp _ => ∃ status ∈ laundryStatus status?, status.isStandby = true

variable {status? : Option Status} {command : DeviceCommand} {order : Order}

theorem permitted_of_choice {setting : Control.AirSetting} {offered : Setting} {value : Document}
    (ordered : choice setting offered value = .ok (some order)) : order.Permitted status? := by
  unfold choice at ordered
  split at ordered
  · cases ordered
  · split at ordered
    · cases code : Control.integerOf value <;> rw [code] at ordered <;> cases ordered
      trivial
    · cases ordered

theorem permitted_of_air {unit : AirConditioner}
    (ordered : ofAirCommand unit command = .ok (some order)) : order.Permitted status? := by
  unfold ofAirCommand at ordered
  split at ordered
  · cases ordered
    trivial
  · exact permitted_of_choice ordered
  · exact permitted_of_choice ordered
  · cases degrees : Control.numberOf command.value <;> rw [degrees] at ordered <;> cases ordered
    trivial
  · split at ordered
    · next toggle _ =>
      cases available : toggle.available <;> simp [available] at ordered
      cases ordered
      trivial
    · cases ordered

theorem permitted_of_laundry {unit : Laundry}
    (ordered : ofLaundryCommand unit (laundryStatus status?) command = some order) :
    order.Permitted status? := by
  unfold ofLaundryCommand at ordered
  dsimp only at ordered
  split at ordered
  · split at ordered
    · cases ordered
    · next allowed =>
      cases ordered
      refine ⟨rfl, fun status reported => ?_⟩
      rw [Option.mem_def] at reported
      simpa [reported] using allowed
  · split at ordered
    · next standsBy =>
      cases ordered
      exact (Option.any_eq_true _ _).1 standsBy
    · cases ordered
  · cases ordered

theorem permitted_of_ofCommand {unit : Capability}
    (ordered : ofCommand unit status? command = .ok (some order)) : order.Permitted status? := by
  cases unit with
  | airConditioner unit => exact permitted_of_air ordered
  | laundry unit => exact permitted_of_laundry (Except.ok.inj ordered)
  | refrigerator unit => cases ordered

theorem ofCommand_laundry_iff (laundry : Laundry) (status? : Option Status) (value : Document) :
    (ofCommand (.laundry laundry) status? { name := "remote_start", value } =
        .ok (some (remoteStart laundry (laundryStatus status?))) ↔
      (remoteStart laundry (laundryStatus status?)).Permitted status?) ∧
    (ofCommand (.laundry laundry) status? { name := "wake_up", value } =
        .ok (some (wakeUp laundry)) ↔ (wakeUp laundry).Permitted status?) := by
  refine ⟨⟨permitted_of_ofCommand, ?_⟩, ⟨permitted_of_ofCommand, ?_⟩⟩
  · rintro ⟨-, allowed⟩
    have free : ((laundryStatus status?).any (·.isStandby) ||
        (laundryStatus status?).any (·.truth? .remoteStart = some false)) = false := by
      cases reported : laundryStatus status? with
      | none => rfl
      | some status => simpa [reported] using allowed status (by simp [reported])
    simp [ofCommand, ofLaundryCommand, free]
  · rintro ⟨status, reported, standsBy⟩
    rw [Option.mem_def] at reported
    simp [ofCommand, ofLaundryCommand, reported, standsBy]

end Order

namespace Keeper

end Keeper

end ApplianceCloud
