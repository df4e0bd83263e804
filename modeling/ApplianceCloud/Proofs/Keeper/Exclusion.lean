import ApplianceCloud.Keeper.Basic
import ApplianceCloud.Proofs.Interleaving.Section

namespace ApplianceCloud

open Activity

namespace Watch

variable {settings : Settings} {family : Family} {workId : String}

abbrev HoldsLock (activity : Watching α) : Prop :=
  Activity.Stays (fun _ => true) (fun _ => True) .inside activity

theorem stays_answerTo {what : WatchCall} : HoldsLock (answerTo what) :=
  sectioned_attempt (stays_ask fun _ => rfl)

theorem stays_move {phase : Phase} : HoldsLock (move settings phase workId) :=
  stays_gets.bind fun _ => stays_lift.bind fun _ => stays_modify fun _ _ => trivial

theorem stays_close : HoldsLock (close workId) := by
  unfold close
  split
  · exact stays_pure
  · exact stays_answerTo.bind fun _ => stays_pure

theorem stays_abandon : HoldsLock (abandon settings workId) :=
  stays_gets.bind fun _ => stays_close.bind fun _ => stays_modify fun _ _ => trivial

theorem stays_endBy {wrap : String → CallFault} {failure : Failure} :
    HoldsLock (endBy settings family wrap failure) := by
  unfold endBy
  split
  · exact stays_abandon.bind fun _ => stays_lift.bind fun _ => stays_pure
  · split
    · exact stays_abandon.bind fun _ => stays_fail
    · exact stays_fail

theorem stays_exhaust : HoldsLock (exhaust settings) := stays_abandon.bind fun _ => stays_fail

theorem stays_polls {bound : Nat} : HoldsLock (polls settings family workId bound) := by
  induction bound with
  | zero => exact stays_exhaust
  | succ bound ih =>
    refine stays_gets.bind fun session => ?_
    split
    · exact stays_exhaust
    refine stays_move.bind fun _ => stays_answerTo.bind fun answer => ?_
    split
    · exact stays_close.bind fun _ => stays_move.bind fun _ => stays_pure
    · refine (stays_modify fun _ _ => trivial).bind fun _ => stays_gets.bind fun session => ?_
      split
      · exact (stays_ask fun _ => rfl).bind fun _ => ih
      · exact ih
    · exact stays_move.bind fun _ => stays_abandon.bind fun _ => stays_pure
    · exact stays_endBy

theorem stays_pollOpen {bound : Nat} : HoldsLock (pollOpen settings family bound) :=
  stays_gets.bind fun _ => (stays_modify fun _ _ => trivial).bind fun _ => stays_polls

theorem stays_cycle {bound : Nat} : HoldsLock (cycle settings family bound) := by
  refine stays_gets.bind fun session => ?_
  split
  · exact stays_pollOpen
  · refine stays_answerTo.bind fun answer => ?_
    split
    · exact stays_move.bind fun _ => stays_pollOpen
    · exact stays_endBy

theorem sectioned_snapshot : (snapshot settings family).Sectioned (fun _ => true) (fun _ => True)
    (· = .after) .before :=
  sectioned_locked stays_cycle

end Watch

section Calls

variable {σ : Type} {counts : CloudCall → Bool} {inv : σ → Prop}

abbrev Cloud.HoldsLock (counts : CloudCall → Bool) (inv : σ → Prop) (activity : Cloud σ α) : Prop :=
  Activity.Stays (I := cloud) counts inv .inside activity

theorem Cloud.stays_post {path : String} {payload : Fields Document} :
    HoldsLock counts inv (Cloud.post path payload : Cloud σ (Fields Document)) :=
  (stays_ask fun _ => rfl).bind fun _ => stays_lift.bind fun _ => (stays_ask fun _ => rfl).bind fun _ =>
    stays_lift

theorem Cloud.stays_download {device : ListedDevice} {place : Place}
    (free : counts (.request { method := .get, url := device.capabilityAddress }) = true →
      place = .inside) :
    Activity.Stays (I := cloud) counts inv place (Cloud.downloadCapability device : Cloud σ _) := by
  unfold Cloud.downloadCapability
  split
  · exact stays_fail
  · exact (stays_ask free).bind fun _ => stays_lift.bind fun _ => stays_lift

theorem Watch.stays_perform {device : String} {capability? : Option Capability} (what : WatchCall) :
    Cloud.HoldsLock counts inv (perform device capability? what : Cloud σ (remote.Answer what)) := by
  cases what with
  | start =>
    exact (stays_ask fun _ => rfl).bind fun _ => Cloud.stays_post.bind fun _ => stays_lift
  | poll workId =>
    cases capability? with
    | none => exact stays_lift
    | some capability => exact Cloud.stays_post.bind fun _ => stays_lift
  | stop workId => exact Cloud.stays_post.bind fun _ => stays_pure
  | pause seconds => exact stays_ask fun _ => rfl

namespace Control

theorem stays_setValue {device : String} {setting : AirSetting} {value : Document} :
    Cloud.HoldsLock counts inv (setValue .first device setting value : Cloud σ Unit) :=
  stays_lift.bind fun _ => ((stays_ask fun _ => rfl).bind fun _ => Cloud.stays_post).bind fun _ =>
    stays_pure

theorem stays_sendDeclared {device name : String} {laundry : Laundry} {values : Fields Document} :
    Cloud.HoldsLock counts inv (sendDeclared device laundry name values : Cloud σ Unit) :=
  stays_lift.bind fun _ => stays_lift.bind fun _ => (stays_ask fun _ => rfl).bind fun _ =>
    Cloud.stays_post.bind fun _ => stays_pure

end Control

theorem Order.stays_carryOut {device : String} (order : Order) :
    Cloud.HoldsLock counts inv (order.carryOut .first device : Cloud σ Unit) := by
  cases order with
  | set setting value => exact Control.stays_setValue
  | remoteStart laundry status => exact Control.stays_sendDeclared
  | wakeUp laundry => exact Control.stays_sendDeclared

end Calls

namespace Keeper

open Scene (Outside)

/-- Whether a call is part of a cycle, of a forced stop or of a command; the others are downloads of
the capability. -/
def isTurn (device : ListedDevice) : CloudCall → Bool
  | .request request => !(request.method = .get && request.url = device.capabilityAddress)
  | _ => true

def Watched (device : ListedDevice) (keeper : Keeper) : Prop :=
  keeper.generation? = some .first ∧ keeper.device = device

variable {device : ListedDevice} {place : Place}

theorem outside_of_stays {activity : Keeping α} (outside : place ≠ .inside)
    (h : activity.Stays (isTurn device) (Watched device) place) :
    activity.Sectioned (isTurn device) (Watched device) Outside place := by
  refine sectioned_mono h ?_
  rintro _ rfl
  exact outside

section

variable {counts : CloudCall → Bool} {inv : Keeper → Prop}

theorem stays_capability_of
    (keeps : ∀ keeper unit, inv keeper → inv { keeper with capability? := some unit })
    (free : ∀ keeper, inv keeper →
      counts (.request { method := .get, url := keeper.device.capabilityAddress }) = true →
        place = .inside) :
    capability.Stays (I := cloud) counts inv place := by
  refine sectioned_gets fun keeper holds => ?_
  split
  · exact stays_pure
  · refine (Cloud.stays_download (free keeper holds)).bind fun unit => ?_
    exact (stays_modify fun keeper holds => keeps keeper unit holds).bind fun _ => stays_pure

theorem sectioned_watching_of {activity : Watch.Watching α}
    (keeps : ∀ keeper session, inv keeper → inv { keeper with session })
    (h : activity.Sectioned (fun _ => true) (fun _ => True) (· = .after) .before) :
    (watching activity).Sectioned (I := cloud) counts inv (· = .after) .before := by
  refine sectioned_gets fun keeper _ => ?_
  exact sectioned_through Watch.stays_perform
    (sectioned_onPart (fun session keeper holds => keeps keeper session holds) h)

end

theorem stays_capability : capability.Stays (isTurn device) (Watched device) place := by
  refine stays_capability_of (fun _ _ watched => watched) fun keeper watched counts => ?_
  simp [isTurn, watched.2] at counts

theorem sectioned_watching {activity : Watch.Watching α}
    (h : activity.Sectioned (fun _ => true) (fun _ => True) (· = .after) .before) :
    (watching activity).Sectioned (isTurn device) (Watched device) Outside .before := by
  refine sectioned_mono (sectioned_watching_of (fun _ _ watched => watched) h) ?_
  rintro _ rfl
  exact nofun

theorem sectioned_poll : poll.Sectioned (isTurn device) (Watched device) Outside .before := by
  refine stays_capability.then nofun fun capability => sectioned_gets fun keeper watched => ?_
  rw [id, watched.1]
  exact sectioned_watching Watch.sectioned_snapshot

theorem sectioned_update : update.Sectioned (isTurn device) (Watched device) Outside .before := by
  refine sectioned_attempt_bind sectioned_poll fun result place outside => ?_
  apply outside_of_stays outside
  have noted (availability : Availability) :
      (note availability).Stays (isTurn device) (Watched device) place :=
    stays_modify fun _ watched => watched
  split
  · exact stays_pure
  · exact (noted _).bind fun _ => stays_pure
  · split
    · exact (noted _).bind fun _ => stays_fail
    · exact stays_fail

theorem sectioned_refresh : refresh.Sectioned (isTurn device) (Watched device) Outside .before := by
  refine sectioned_gets fun keeper _ => ?_
  split
  · exact outside_of_stays nofun stays_pure
  · refine sectioned_attempt_bind sectioned_update fun result place outside => ?_
    apply outside_of_stays outside
    split
    · exact (stays_modify fun _ watched => watched).bind fun _ => stays_pure
    · exact (stays_modify fun _ watched => watched).bind fun _ => stays_pure

theorem stays_obey {capability : Capability} {command : DeviceCommand} :
    (obey capability command).Stays (isTurn device) (Watched device) .inside := by
  refine sectioned_gets fun keeper watched => stays_lift.bind fun ordered => ?_
  rw [id, watched.1]
  split
  · exact stays_pure
  · next order => exact (order.stays_carryOut).bind fun _ => stays_pure

theorem sectioned_process {command : DeviceCommand} :
    (process command).Sectioned (isTurn device) (Watched device) Outside .before := by
  refine stays_capability.then nofun fun capability => ?_
  refine sectioned_bind (sectioned_locked stays_obey) ?_ ?_
  · rintro _ rfl
    exact nofun
  · rintro done _ rfl
    have outside : Outside .after := nofun
    apply outside_of_stays outside
    split
    · exact stays_modify fun _ watched => watched
    · exact stays_pure

theorem Watched.finish {keeper : Keeper} (watched : Watched device keeper)
    (outcome : Except Failure Unit) : Watched device (keeper.finish outcome) := by
  unfold Keeper.finish
  split
  split
  · exact watched
  · exact watched

theorem sectioned_work : work.Sectioned (isTurn device) (Watched device) Outside .before := by
  refine sectioned_gets fun keeper _ => ?_
  split
  · exact outside_of_stays nofun stays_pure
  · refine (stays_modify fun _ watched => watched).then nofun fun _ => ?_
    refine sectioned_attempt_bind sectioned_process fun outcome place outside => ?_
    exact outside_of_stays outside (stays_modify fun _ watched => Watched.finish watched outcome)

theorem sectioned_stopWatching :
    stopWatching.Sectioned (isTurn device) (Watched device) Outside .before := by
  refine sectioned_gets fun keeper watched => ?_
  rw [id, watched.1]
  exact sectioned_watching (sectioned_locked Watch.stays_abandon)

inductive Duty where
  | refresh
  | send (command : DeviceCommand)
  | start
  | work
  | forceStop

def Duty.activity : Duty → Keeping Unit
  | refresh => do
      let _ ← Keeper.refresh
  | send command => Activity.modify fun keeper => (keeper.send command).2
  | start => Activity.modify Keeper.start
  | work => Keeper.work
  | forceStop => stopWatching

theorem Watched.send {keeper : Keeper} (watched : Watched device keeper) (command : DeviceCommand) :
    Watched device (keeper.send command).2 := by
  unfold Keeper.send
  split
  · exact watched
  · exact watched

theorem Duty.sectioned_activity (duty : Duty) :
    duty.activity.Sectioned (isTurn device) (Watched device) Outside .before := by
  cases duty with
  | refresh =>
    refine sectioned_bind sectioned_refresh (fun _ outside => outside) fun _ place outside => ?_
    exact outside_of_stays outside stays_pure
  | send command => exact outside_of_stays nofun (stays_modify fun _ watched => Watched.send watched command)
  | start => exact outside_of_stays nofun (stays_modify fun _ watched => watched)
  | work => exact sectioned_work
  | forceStop => exact sectioned_stopWatching

/-- In every interleaving of refreshes, commands and forced stops, the calls of each cycle, of each
forced stop and of each command follow one another, with no call of another one between them. -/
theorem contiguous_turns (device : ListedDevice) (moves : List (Move cloud Duty)) :
    Contiguous ((Scene.play Duty.activity (.fresh device (some .first)) moves).counted
      (isTurn device)) := by
  have initially : Watched device (.fresh device (some .first)) := ⟨rfl, rfl⟩
  exact Scene.contiguous_play initially Duty.sectioned_activity moves

end Keeper

end ApplianceCloud
