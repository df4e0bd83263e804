import ApplianceCloud.Proofs.Interleaving.Conduct
import ApplianceCloud.Proofs.Keeper.Exclusion
import ApplianceCloud.Proofs.Queue.Stopping

/-!
# The conduct of a keeper

All that the errands of a keeper write, one write at a time, and all that they ask of the cloud, given
what they read before. What is true of a keeper in every interleaving follows from `Write` by cases,
and what it sends from `Asks`.
-/

namespace ApplianceCloud

open Activity

section Talks

variable {σ : Type}

namespace Cloud

theorem talks_post {path : String} {payload : Fields Document} :
    (post path payload : Cloud σ (Fields Document)).Talks :=
  talks_bind talks_ask fun _ => talks_bind talks_lift fun _ => talks_bind talks_ask fun _ => talks_lift

theorem talks_send {method : Method} {path : String} {payload? : Option (Fields Document)} :
    (send method path payload? : Cloud σ (Fields Document)).Talks :=
  talks_bind talks_ask fun _ => talks_bind talks_lift fun _ => talks_bind talks_ask fun _ =>
    talks_bind talks_ask fun _ => talks_lift

theorem talks_download {device : ListedDevice} :
    (downloadCapability device : Cloud σ Capability).Talks := by
  unfold downloadCapability
  split
  · exact talks_fail
  · exact talks_bind talks_ask fun _ => talks_bind talks_lift fun _ => talks_lift

theorem talks_readDevice {device : String} {unit : Capability} :
    (readDevice device unit : Cloud σ Status).Talks := by
  refine talks_bind (talks_attempt talks_send) fun answer => ?_
  split
  · exact talks_lift
  · exact talks_lift
  · exact talks_fail

end Cloud

theorem Watch.talks_perform {device : String} {unit? : Option Capability} (what : WatchCall) :
    (perform device unit? what : Cloud σ (remote.Answer what)).Talks := by
  cases what with
  | start => exact talks_bind talks_ask fun _ => talks_bind Cloud.talks_post fun _ => talks_lift
  | poll workId =>
    cases unit? with
    | none => exact talks_lift
    | some unit => exact talks_bind Cloud.talks_post fun _ => talks_lift
  | stop workId => exact talks_bind Cloud.talks_post fun _ => talks_pure
  | pause seconds => exact talks_ask

namespace Control

variable {device : String}

theorem talks_keepAlive {family : Family} : (keepAlive device family : Cloud σ Unit).Talks := by
  unfold keepAlive
  split
  · exact talks_bind Cloud.talks_send fun _ => talks_pure
  · exact talks_pure

theorem talks_sendDeclared {name : String} {laundry : Laundry} {values : Fields Document} :
    (sendDeclared device laundry name values : Cloud σ Unit).Talks :=
  talks_bind talks_lift fun _ => talks_bind talks_lift fun _ => talks_bind talks_ask fun _ =>
    talks_bind Cloud.talks_post fun _ => talks_pure

theorem talks_setValue {generation : Generation} {setting : AirSetting} {value : Document} :
    (setValue generation device setting value : Cloud σ Unit).Talks := by
  cases generation with
  | first =>
    exact talks_bind talks_lift fun _ => talks_bind
      (talks_bind talks_ask fun _ => Cloud.talks_post) fun _ => talks_pure
  | second => exact talks_bind Cloud.talks_send fun _ => talks_pure

theorem talks_remoteStart {generation : Generation} {laundry : Laundry} {status : Option Status} :
    (remoteStart generation device laundry status : Cloud σ Unit).Talks := by
  cases generation with
  | first => exact talks_sendDeclared
  | second =>
    exact talks_bind talks_lift fun _ => talks_bind talks_lift fun _ =>
      talks_bind Cloud.talks_send fun _ => talks_pure

theorem talks_wakeUp {generation : Generation} {laundry : Laundry} :
    (wakeUp generation device laundry : Cloud σ Unit).Talks := by
  cases generation with
  | first => exact talks_sendDeclared
  | second => exact talks_bind talks_lift fun _ => talks_bind Cloud.talks_send fun _ => talks_pure

end Control

theorem Order.talks_carryOut {generation : Generation} {device : String} (order : Order) :
    (order.carryOut generation device : Cloud σ Unit).Talks := by
  cases order with
  | set setting value => exact Control.talks_setValue
  | remoteStart laundry status => exact Control.talks_remoteStart
  | wakeUp laundry => exact Control.talks_wakeUp

end Talks

theorem CommandQueue.finish_idle {κ : Type} {queue : CommandQueue κ} (idle : queue.inFlight? = none)
    (outcome : Except Failure Unit) (report : κ → Failure → Except Failure Unit) :
    queue.finish outcome report = (queue, none) := by
  cases worker : queue.worker with
  | busy command => simp [inFlight?, worker] at idle
  | absent | idle | ended => simp [finish, worker]

namespace Keeper

/-- What an errand makes of a keeper at once. A report on the device is only made if reports are among
the errands, and that the device is gone is only noted if removals are. -/
inductive Write (reports removes : Prop) (keeper : Keeper) : Keeper → Prop where
  | describe (unit : Capability) : Write reports removes keeper { keeper with capability? := some unit }
  | watch (session : Watch.Session) : Write reports removes keeper { keeper with session }
  | note (allowed : reports) (availability : Availability) (present : availability.trouble ≠ .gone) :
      Write reports removes keeper { keeper with availability }
  | succeed (status? : Option Status) : Write reports removes keeper
      { keeper with status? := status?.or keeper.status?, lastFailure? := none }
  | fail (failure : Failure) : Write reports removes keeper { keeper with lastFailure? := some failure }
  | send (allowed : reports) (command : DeviceCommand) :
      Write reports removes keeper (keeper.send command).2
  | start : Write reports removes keeper keeper.start
  | take {command queue} (next : keeper.queue.next? = some (command, queue)) :
      Write reports removes keeper { keeper with queue }
  | ask : Write reports removes keeper { keeper with refreshRequests := keeper.refreshRequests + 1 }
  | finish (allowed : reports) (outcome : Except Failure Unit) :
      Write reports removes keeper (keeper.finish outcome)
  | stop {queue} (stopped : keeper.queue.stop = .ok queue) :
      Write reports removes keeper { keeper with queue }
  | shutDown : Write reports removes keeper { keeper with isShutDown := true }
  | remove (allowed : removes) : Write reports removes keeper keeper.markGone

inductive Attends (device : ListedDevice) (generation? : Option Generation) (seen : Keeper) :
    cloud.Call → Prop where
  | download {what} (unknown : seen.capability? = none)
      (asked : (Cloud.downloadCapability device : Keeping Capability).MayAsk what) :
      Attends device generation? seen what
  | watch {what unit? call} (first : generation? = some .first)
      (asked : (Watch.perform device.id unit? call : Keeping _).MayAsk what) :
      Attends device generation? seen what
  | keepAlive {what family} (second : generation? = some .second)
      (asked : (Control.keepAlive device.id family : Keeping Unit).MayAsk what) :
      Attends device generation? seen what
  | read {what unit} (second : generation? = some .second)
      (asked : (Cloud.readDevice device.id unit : Keeping Status).MayAsk what) :
      Attends device generation? seen what

/-- What an errand asks of the cloud: what an order needs is asked by the status that was seen. -/
inductive Asks (device : ListedDevice) (generation? : Option Generation) (seen : Keeper) :
    cloud.Call → Prop where
  | attend {what} (attends : Attends device generation? seen what) : Asks device generation? seen what
  | obey {what unit command order generation}
      (ordered : Order.ofCommand unit seen.status? command = .ok (some order))
      (reached : generation? = some generation)
      (asked : (order.carryOut generation device.id : Keeping Unit).MayAsk what) :
      Asks device generation? seen what

structure Sound (device : ListedDevice) (generation? : Option Generation) (keeper : Keeper) :
    Prop where
  counted : keeper.queue.IsCounted 0
  alive : ∀ failure, keeper.queue.worker ≠ .ended failure
  unused : keeper.queue.fresh = { device := device.id }
  device : keeper.device = device
  generation : keeper.generation? = generation?

section Sound

variable {device : ListedDevice} {generation? : Option Generation} {keeper after : Keeper}

theorem sound_fresh (device : ListedDevice) (generation? : Option Generation) :
    (fresh device generation?).Sound device generation? :=
  ⟨rfl, fun _ => nofun, rfl, rfl, rfl⟩

theorem Sound.send (sound : keeper.Sound device generation?) (command : DeviceCommand) :
    (keeper.send command).2.Sound device generation? := by
  obtain ⟨counted, alive, unused, device, generation⟩ := sound
  unfold Keeper.send
  split
  · next queue accepted =>
    have worker := CommandQueue.enqueue_worker accepted
    exact ⟨counted.enqueue accepted, worker ▸ alive,
      (CommandQueue.fresh_enqueue accepted).trans unused, device, generation⟩
  · exact ⟨counted, alive, unused, device, generation⟩

theorem Sound.start (sound : keeper.Sound device generation?) :
    keeper.start.Sound device generation? := by
  obtain ⟨counted, alive, unused, device, generation⟩ := sound
  refine ⟨counted.start, fun failure ended => ?_, CommandQueue.fresh_start.trans unused, device,
    generation⟩
  have running : keeper.queue.start.isRunning = true := CommandQueue.isRunning_start
  simp [CommandQueue.isRunning, show keeper.queue.start.worker = _ from ended] at running

theorem Sound.take (sound : keeper.Sound device generation?) {command : DeviceCommand}
    {queue : CommandQueue DeviceCommand} (next : keeper.queue.next? = some (command, queue)) :
    { keeper with queue }.Sound device generation? := by
  obtain ⟨counted, alive, unused, device, generation⟩ := sound
  obtain ⟨-, -, busy⟩ := CommandQueue.next?_some next
  have worker : queue.worker = .busy command := CommandQueue.worker_of_inFlight? busy
  refine ⟨counted.next? next, fun failure ended => ?_, (CommandQueue.fresh_next? next).trans unused,
    device, generation⟩
  cases worker.symm.trans ended

/-- A keeper reports a failure without failing, so its worker goes on. -/
theorem Sound.finish (sound : keeper.Sound device generation?) (outcome : Except Failure Unit) :
    (keeper.finish outcome).Sound device generation? := by
  obtain ⟨counted, alive, unused, device, generation⟩ := sound
  have quiet : ∀ (command : DeviceCommand) (failure : Failure),
      (fun _ _ => .ok () : DeviceCommand → Failure → Except Failure Unit) command failure = .ok () :=
    fun _ _ => rfl
  have left : (keeper.queue.finish outcome fun _ _ => .ok ()).1.IsCounted 0 ∧
      ∀ failure, (keeper.queue.finish outcome fun _ _ => .ok ()).1.worker ≠ .ended failure := by
    cases busy : keeper.queue.inFlight? with
    | some command =>
      have worker := CommandQueue.worker_of_inFlight? busy
      refine ⟨counted.finish busy outcome _, fun failure ended => ?_⟩
      rw [CommandQueue.finish_quiet quiet worker] at ended
      cases ended
    | none =>
      rw [CommandQueue.finish_idle busy]
      exact ⟨counted, alive⟩
  have made := (CommandQueue.fresh_finish outcome fun _ _ => .ok ()).trans unused
  unfold Keeper.finish
  split
  next queue notice finished =>
  rw [finished] at left made
  split
  · exact ⟨left.1, left.2, made, device, generation⟩
  · exact ⟨left.1, left.2, made, device, generation⟩

theorem Sound.stop_eq (sound : keeper.Sound device generation?) :
    keeper.queue.stop = .ok { device := device.id } := by
  rw [sound.counted.stop_eq sound.alive, CommandQueue.emptied, sound.unused]

theorem Write.sound {reports removes : Prop} (write : Write reports removes keeper after)
    (sound : keeper.Sound device generation?) : after.Sound device generation? := by
  cases write with
  | send _ command => exact sound.send command
  | start => exact sound.start
  | take next => exact sound.take next
  | finish _ outcome => exact sound.finish outcome
  | stop stopped =>
    have unused := Except.ok.inj (stopped.symm.trans sound.stop_eq)
    subst unused
    exact ⟨rfl, fun _ => nofun, rfl, sound.device, sound.generation⟩
  | describe | watch | note | succeed | fail | ask | shutDown | remove =>
    exact ⟨sound.counted, sound.alive, sound.unused, sound.device, sound.generation⟩

end Sound

def conduct (device : ListedDevice) (generation? : Option Generation) (reports removes : Prop) :
    Conduct cloud Keeper where
  inv := Sound device generation?
  writes := Write reports removes
  asks := Asks device generation?
  inv_of_writes := Write.sound

variable {device : ListedDevice} {generation? : Option Generation} {reports removes : Prop}
  {holding : Bool}

abbrev Conducted (device : ListedDevice) (generation? : Option Generation) (reports removes : Prop)
    (holding : Bool) (activity : Keeping α) : Prop :=
  activity.Conforms (conduct device generation? reports removes) holding

theorem conducted_capability : Conducted device generation? reports removes holding capability := by
  refine conforms_gets_bind fun keeper sound => ?_
  split
  · rfl
  · next unknown =>
    have asks : ∀ what, (Cloud.downloadCapability keeper.device : Keeping _).MayAsk what →
        Asks device generation? keeper what :=
      fun _ asked => .attend (.download unknown (sound.device ▸ asked))
    refine conformsFrom_bind (conformsFrom_of_talks Cloud.talks_download asks) sound fun unit => ?_
    exact (conforms_modify fun keeper _ => Write.describe unit).bind fun _ => conforms_pure

theorem conducted_perform (first : generation? = some .first) {unit? : Option Capability}
    (what : Watch.WatchCall) :
    Conducted device generation? reports removes true (Watch.perform device.id unit? what) :=
  fun _ _ _ => conformsFrom_of_talks (Watch.talks_perform what) fun _ asked =>
    .attend (.watch first asked)

theorem conducted_watching (first : generation? = some .first) {activity : Watch.Watching α}
    (sectioned : activity.Sectioned (fun _ => true) (fun _ => True) (· = .after) .before) :
    Conducted device generation? reports removes false (watching activity) := by
  refine conforms_gets_bind fun keeper sound => ?_
  rw [id, sound.device]
  refine conformsFrom_through (conducted_perform first) (fun keeper session _ => Write.watch session)
    ?_ sectioned sound
  rintro _ rfl
  rfl

theorem conducted_poll : Conducted device generation? reports removes false poll := by
  refine conducted_capability.bind fun unit => conforms_gets_bind fun keeper sound => ?_
  have reached : keeper.generation? = generation? := sound.generation
  rw [id, sound.device]
  split
  · next first =>
    exact conducted_watching (reached.symm.trans first) Watch.sectioned_snapshot _ _ sound
  · next second =>
    have kept : ∀ what, (Control.keepAlive device.id unit.family : Keeping Unit).MayAsk what →
        Asks device generation? keeper what :=
      fun _ asked => .attend (.keepAlive (reached.symm.trans second) asked)
    refine conformsFrom_attempt_bind (conformsFrom_of_talks Control.talks_keepAlive kept) sound ?_
    intro result seen now sound
    have read : ∀ what, (Cloud.readDevice device.id unit : Keeping Status).MayAsk what →
        Asks device generation? seen what :=
      fun _ asked => .attend (.read (reached.symm.trans second) asked)
    split
    · exact conformsFrom_bind (conformsFrom_of_talks Cloud.talks_readDevice read) sound
        fun _ _ _ _ => rfl
    · exact (conforms_lift.bind fun _ => conforms_pure) _ _ sound
    · rfl
  · rfl

theorem conducted_note {availability : Availability} (present : availability.trouble ≠ .gone) :
    Conducted device generation? True removes holding (note availability) :=
  conforms_modify fun _ _ => Write.note trivial availability present

theorem conducted_update : Conducted device generation? True removes false update := by
  refine conducted_poll.attempt_bind fun result => ?_
  split
  · exact conforms_pure
  · next status =>
    have present : (Availability.ofOnline status.online).trouble ≠ .gone := by
      cases status.online <;> decide
    exact (conducted_note present).bind fun _ => conforms_pure
  · split
    · exact (conducted_note (by simp [Availability.unreachable])).bind fun _ => conforms_fail
    · exact conforms_fail

theorem conducted_refresh : Conducted device generation? True removes false refresh := by
  refine conforms_gets_bind fun keeper sound => ?_
  split
  · rfl
  · refine (conducted_update.attempt_bind fun result => ?_) _ _ sound
    split
    · next status? =>
      exact (conforms_modify fun _ _ => Write.succeed status?).bind fun _ => conforms_pure
    · next failure =>
      exact (conforms_modify fun _ _ => Write.fail failure).bind fun _ => conforms_pure

theorem conducted_obey {unit : Capability} {command : DeviceCommand} :
    Conducted device generation? reports removes holding (obey unit command) := by
  refine conforms_gets_bind fun keeper sound => ?_
  have reached : keeper.generation? = generation? := sound.generation
  rw [id, sound.device]
  refine conformsFrom_lift_bind fun order? ordered => ?_
  split
  · rfl
  · next order =>
    split
    · next generation known =>
      have asks : ∀ what, (order.carryOut generation device.id : Keeping Unit).MayAsk what →
          Asks device generation? keeper what :=
        fun _ => .obey ordered (reached.symm.trans known)
      exact conformsFrom_bind (conformsFrom_of_talks order.talks_carryOut asks) sound
        fun _ _ _ _ => rfl
    · rfl

theorem conducted_process {command : DeviceCommand} :
    Conducted device generation? reports removes false (process command) := by
  refine conducted_capability.bind fun unit => (conforms_locked conducted_obey).bind fun acted => ?_
  split
  · exact conforms_modify fun _ _ => Write.ask
  · exact conforms_pure

theorem conducted_work : Conducted device generation? True removes false work := by
  refine conforms_gets_bind fun keeper sound => ?_
  split
  · rfl
  · next command queue next =>
    -- The row was read in the same move, so the keeper is still the one that was read.
    refine ⟨Write.take next, ?_⟩
    refine (conducted_process.attempt_bind fun outcome => ?_) _ _ (sound.take next)
    exact conforms_modify fun _ _ => Write.finish trivial outcome

theorem conducted_stopWatching : Conducted device generation? reports removes false stopWatching := by
  refine conforms_gets_bind fun keeper sound => ?_
  split
  · next first =>
    have closes : Conducted device generation? reports removes false
        (watching (Watch.forceStop keeper.settings)) :=
      conducted_watching (sound.generation.symm.trans first) (sectioned_locked Watch.stays_abandon)
    exact closes _ _ sound
  · rfl

theorem conducted_shutdown : Conducted device generation? reports removes false shutdown := by
  refine conforms_gets_bind fun keeper sound => ?_
  rw [id, sound.stop_eq]
  refine ⟨Write.stop sound.stop_eq, ?_⟩
  have stopped := Write.sound (@Write.stop reports removes _ _ sound.stop_eq) sound
  exact (conducted_stopWatching.bind fun _ => conforms_modify fun _ _ => Write.shutDown) _ _ stopped

theorem Duty.conducted_activity (duty : Duty) :
    Conducted device generation? True removes false duty.activity := by
  cases duty with
  | refresh => exact conducted_refresh.bind fun _ => conforms_pure
  | send command => exact conforms_modify fun _ _ => Write.send trivial command
  | start => exact conforms_modify fun _ _ => Write.start
  | work => exact conducted_work
  | forceStop => exact conducted_stopWatching

inductive Errand where
  | duty (duty : Duty)
  | markGone
  | shutdown

def Errand.activity : Errand → Keeping Unit
  | .duty task => task.activity
  | .markGone => Activity.modify Keeper.markGone
  | .shutdown => Keeper.shutdown

theorem Errand.conducted_activity (errand : Errand) :
    Conducted device generation? True True false errand.activity := by
  cases errand with
  | duty task => exact task.conducted_activity
  | markGone => exact conforms_modify fun _ _ => Write.remove trivial
  | shutdown => exact conducted_shutdown

end Keeper

end ApplianceCloud
