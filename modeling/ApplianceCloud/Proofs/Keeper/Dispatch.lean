import ApplianceCloud.Proofs.Keeper.Commands
import ApplianceCloud.Proofs.Keeper.Polling

namespace ApplianceCloud

open Activity
open Control (Operation)

variable {ω : Type}

theorem Activity.Talks.among_eq {I : Interface} {σ α : Type} {activity : Activity I σ α}
    (talks : activity.Talks) (others : Surroundings I σ ω) (state : σ) (world : ω) :
    let ending := activity.among others state world
    (ending.state, ending.world) = others.during ending.calls state world := by
  induction activity generalizing state world with
  | done result => rfl
  | call what next ih => exact ih _ (talks _) _ _
  | look | write | lock | unlock => exact talks.elim

namespace Keeper

def relieved (keeper : Keeper) : Keeper :=
  { keeper with
    queue := { keeper.queue with worker := .idle, unfinished := keeper.queue.unfinished - 1 } }

def perform (keeper : Keeper) (operation : Operation) : Keeping Unit :=
  match keeper.generation? with
  | some generation => operation.activity generation keeper.device.id
  | none => pure ()

/-- What stays the same of a keeper at work when no refresh runs. -/
structure Aside (before after : Keeper) : Prop where
  device : after.device = before.device
  generation : after.generation? = before.generation?
  capability : after.capability? = before.capability?
  status : after.status? = before.status?
  lastFailure : after.lastFailure? = before.lastFailure?
  refreshRequests : after.refreshRequests = before.refreshRequests
  worker : after.queue.worker = before.queue.worker

def StandAside (others : Surroundings cloud Keeper ω) : Prop :=
  ∀ before : Keeper, others.Keep before.Aside

theorem Aside.refl (keeper : Keeper) : keeper.Aside keeper := ⟨rfl, rfl, rfl, rfl, rfl, rfl, rfl⟩

theorem Aside.perform_eq {before after : Keeper} (aside : before.Aside after) :
    after.perform = before.perform := by
  funext operation
  unfold perform
  rw [aside.device, aside.generation]

theorem Aside.send {before keeper : Keeper} (aside : before.Aside keeper) (command : DeviceCommand) :
    before.Aside (keeper.send command).2 := by
  obtain ⟨device, generation, capability, status, lastFailure, refreshRequests, worker⟩ := aside
  unfold Keeper.send
  split
  · next accepted =>
    exact ⟨device, generation, capability, status, lastFailure, refreshRequests,
      (CommandQueue.enqueue_worker accepted).trans worker⟩
  · exact ⟨device, generation, capability, status, lastFailure, refreshRequests, worker⟩

theorem talks_perform (keeper : Keeper) (operation : Operation) :
    (keeper.perform operation).Talks := by
  unfold perform
  split
  · cases operation with
    | remoteStart => exact Control.talks_remoteStart
    | wakeUp => exact Control.talks_wakeUp
    | turnPower | turn => exact Control.talks_setValue
    | selectMode | selectFanSpeed | selectTemperature =>
      exact talks_bind talks_lift fun _ => Control.talks_setValue
  · exact talks_pure

/-- How the work on a command ends that is granted the lock of the device, when the others leave the
keeper as `left`. -/
inductive Dispatched (others : Surroundings cloud Keeper ω) (unit : Capability)
    (command : DeviceCommand) (keeper : Keeper) (granted : Keeper × ω) (left : Keeper)
    (ending : Ending cloud Keeper ω Unit) : Prop where
  | refused (refused : command.IsRefused unit keeper.status?)
      (calls : ending.calls = [])
      (state : ending.state = left.relieved)
  | unconverted {failure : Failure}
      (means : command.Means unit keeper.status? (.error failure))
      (calls : ending.calls = [])
      (state : ending.state = { left.relieved with
        availability := {
          reach := .offline
          trouble := .communication
          reason := "Command " ++ command.name ++ " failed: " ++ failure.message } })
  | succeeded {operation : Operation} {did : Ending cloud Keeper ω Unit}
      (means : command.Means unit keeper.status? (.ok operation))
      (performed : (keeper.perform operation).among others granted.1 granted.2 = did)
      (succeeded : did.result = .ok ())
      (calls : ending.calls = did.calls)
      (state : ending.state = { left.relieved with refreshRequests := left.refreshRequests + 1 })
  | failed {operation : Operation} {did : Ending cloud Keeper ω Unit} {failure : Failure}
      (means : command.Means unit keeper.status? (.ok operation))
      (performed : (keeper.perform operation).among others granted.1 granted.2 = did)
      (failed : did.result = .error failure)
      (calls : ending.calls = did.calls)
      (state : ending.state = { left.relieved with
        availability := {
          reach := .offline
          trouble := .communication
          reason := "Command " ++ command.name ++ " failed: " ++ failure.message } })

section Work

variable {others : Surroundings cloud Keeper ω} {keeper : Keeper} {world : ω} {unit : Capability}
  {command : DeviceCommand} {queue : CommandQueue DeviceCommand}

def settleCommand (keeper : Keeper) (command : DeviceCommand) : Except Failure Bool → Keeper
  | .ok true => { keeper.relieved with refreshRequests := keeper.refreshRequests + 1 }
  | .ok false => keeper.relieved
  | .error failure => { keeper.relieved with availability := afterCommand command failure }

theorem obey_of_refused (refused : command.IsRefused unit keeper.status?) :
    (obey unit command).among others keeper world = { result := .ok false, state := keeper, world } := by
  rw [obey, among_gets_bind, id, DeviceCommand.isRefused_iff.1 refused]
  rfl

theorem obey_of_unconverted {failure : Failure}
    (means : command.Means unit keeper.status? (.error failure)) :
    (obey unit command).among others keeper world =
      { result := .error failure, state := keeper, world } := by
  have failed : Order.ofCommand unit keeper.status? command = .error failure := by
    have realizes := means.realizes
    generalize Order.ofCommand unit keeper.status? command = ordered at realizes
    cases realizes
    rfl
  rw [obey, among_gets_bind, id, failed]
  rfl

theorem obey_of_means {operation : Operation}
    (means : command.Means unit keeper.status? (.ok operation)) :
    let did := (keeper.perform operation).among others keeper world
    (obey unit command).among others keeper world =
      { did with result := did.result.map fun _ => true } := by
  have realizes := means.realizes
  rw [obey, among_gets_bind, id]
  generalize Order.ofCommand unit keeper.status? command = ordered at realizes
  cases realizes with
  | @done order _ isFor =>
    change (match keeper.generation? with
      | some generation => do
          let _ ← order.carryOut generation keeper.device.id
          pure true
      | none => pure true : Keeping Bool).among others keeper world = _
    cases reached : keeper.generation? with
    | some generation =>
      have performs : keeper.perform operation = operation.activity generation keeper.device.id := by
        simp [perform, reached]
      rw [performs, ← isFor]
      exact among_map others _ fun _ => true
    | none =>
      have performs : keeper.perform operation = pure () := by simp [perform, reached]
      rw [performs]
      rfl

theorem work_of_obeyed (known : keeper.capability? = some unit)
    (next : keeper.queue.next? = some (command, queue)) {obeyed : Ending cloud Keeper ω Bool}
    (obeys : (obey unit command).among others (others.grant { keeper with queue } world).1
      (others.grant { keeper with queue } world).2 = obeyed)
    (busy : obeyed.state.queue.worker = .busy command) :
    work.among others keeper world =
      { obeyed with result := .ok (), state := obeyed.state.settleCommand command obeyed.result } := by
  have cached : capability.among others { keeper with queue } world =
      { result := .ok unit, state := { keeper with queue }, world } := by
    rw [capability, among_gets_bind, id, known]
    rfl
  rw [work, among_gets_bind, id, next]
  change (modify _ >>= fun _ => (process command).attempt >>= _).among others keeper world = _
  rw [among_modify_bind, among_attempt_bind, process, among_bind, cached, Ending.then_of_ok rfl,
    Ending.behind_nil, among_bind, among_locked, obeys]
  obtain ⟨result, state, world, calls⟩ := obeyed
  change state.queue.worker = _ at busy
  cases result with
  | error failure =>
    simp [Ending.then, Ending.behind, finish, CommandQueue.finish, busy, settleCommand, relieved]
  | ok did =>
    cases did <;>
      simp [Ending.then, Ending.behind, finish, CommandQueue.finish, busy, settleCommand, relieved]

theorem StandAside.during (aside : StandAside others) (calls : List cloud.Call) :
    let granted := others.grant keeper world
    keeper.Aside (others.during calls granted.1 granted.2).1 :=
  (aside keeper).during calls _ ((aside keeper).grant keeper world (.refl keeper))

section Outcomes

variable (aside : StandAside others) (known : keeper.capability? = some unit)
  (next : keeper.queue.next? = some (command, queue))

include aside next

omit known in
theorem worker_during (calls : List cloud.Call) :
    let granted := others.grant { keeper with queue } world
    (others.during calls granted.1 granted.2).1.queue.worker = .busy command := by
  intro granted
  have kept : Aside { keeper with queue } (others.during calls granted.1 granted.2).1 :=
    aside.during calls
  exact kept.worker.trans (CommandQueue.worker_of_inFlight? (CommandQueue.next?_some next).2.2)

include known

theorem work_of_refused (refused : command.IsRefused unit keeper.status?) :
    let granted := others.grant { keeper with queue } world
    work.among others keeper world =
      { result := .ok (), state := granted.1.relieved, world := granted.2 } := by
  intro granted
  have kept : Aside { keeper with queue } granted.1 := aside.during []
  have refused : command.IsRefused unit granted.1.status? := by rwa [kept.status]
  exact work_of_obeyed known next (obey_of_refused refused) (worker_during aside next [])

theorem work_of_unconverted {failure : Failure}
    (means : command.Means unit keeper.status? (.error failure)) :
    let granted := others.grant { keeper with queue } world
    work.among others keeper world =
      { result := .ok ()
        state := { granted.1.relieved with availability := afterCommand command failure }
        world := granted.2 } := by
  intro granted
  have kept : Aside { keeper with queue } granted.1 := aside.during []
  have means : command.Means unit granted.1.status? (.error failure) := by rwa [kept.status]
  exact work_of_obeyed known next (obey_of_unconverted means) (worker_during aside next [])

theorem work_of_means {operation : Operation}
    (means : command.Means unit keeper.status? (.ok operation)) :
    let granted := others.grant { keeper with queue } world
    let did := (keeper.perform operation).among others granted.1 granted.2
    did.state = (others.during did.calls granted.1 granted.2).1 ∧
    work.among others keeper world =
      { did with
        result := .ok ()
        state := did.state.settleCommand command (did.result.map fun _ => true) } := by
  intro granted did
  have state : did.state = (others.during did.calls granted.1 granted.2).1 :=
    congrArg Prod.fst ((talks_perform keeper operation).among_eq others granted.1 granted.2)
  have kept : Aside { keeper with queue } granted.1 := aside.during []
  -- The lock may be granted late, but with the status and the reach that the worker started from.
  have obeys : (obey unit command).among others granted.1 granted.2 = _ :=
    obey_of_means (by rwa [kept.status])
  rw [kept.perform_eq] at obeys
  have busy : did.state.queue.worker = .busy command := by
    rw [state]
    exact worker_during aside next did.calls
  exact ⟨state, work_of_obeyed known next obeys busy⟩

end Outcomes

/-- The worker gets through a command in one of four ways, whatever the cloud answers and whatever
others do besides. What an appliance does not support is always refused, and in no status are a start
and a wake-up both accepted. -/
theorem dispatched_work (aside : StandAside others) (known : keeper.capability? = some unit)
    (next : keeper.queue.next? = some (command, queue)) (world : ω) :
    let taken := { keeper with queue }
    let granted := others.grant taken world
    let ending := work.among others keeper world
    let left := (others.during ending.calls granted.1 granted.2).1
    ending.result = .ok () ∧ taken.Aside left ∧
    Dispatched others unit command keeper granted left ending ∧
    (command.IsUnsupported unit → command.IsRefused unit keeper.status?) ∧
    ∀ (status? : Option Status) (value value' : Document),
      DeviceCommand.IsRefused { name := "remote_start", value } unit status? ∨
        DeviceCommand.IsRefused { name := "wake_up", value := value' } unit status? := by
  intro taken granted ending left
  have left_eq {calls : List cloud.Call} (made : ending.calls = calls) :
      left = (others.during calls granted.1 granted.2).1 := by simp only [left, made]
  suffices work : ending.result = .ok () ∧ Dispatched others unit command keeper granted left ending from
    ⟨work.1, aside.during _, work.2, fun unsupported => unsupported.isRefused _,
      DeviceCommand.isRefused_start_or_wakeUp unit⟩
  by_cases refused : command.IsRefused unit keeper.status?
  · have ended : ending = _ := work_of_refused aside known next refused
    have calls : ending.calls = [] := by rw [ended]
    refine ⟨by rw [ended], .refused refused calls ?_⟩
    rw [ended, left_eq calls]
    rfl
  obtain ⟨result, means⟩ : ∃ result, command.Means unit keeper.status? result := by
    simpa [DeviceCommand.IsRefused] using refused
  cases result with
  | error failure =>
    have ended : ending = _ := work_of_unconverted aside known next means
    have calls : ending.calls = [] := by rw [ended]
    refine ⟨by rw [ended], .unconverted means calls ?_⟩
    rw [ended, left_eq calls]
    rfl
  | ok operation =>
    obtain ⟨state, ended⟩ : _ ∧ ending = _ := work_of_means aside known next means
    generalize performed : (keeper.perform operation).among others granted.1 granted.2 = did
      at state ended
    have calls : ending.calls = did.calls := by rw [ended]
    refine ⟨by rw [ended], ?_⟩
    cases outcome : did.result with
    | ok done =>
      refine .succeeded means performed outcome calls ?_
      rw [ended, left_eq calls, ← state, outcome]
      rfl
    | error failure =>
      refine .failed means performed outcome calls ?_
      rw [ended, left_eq calls, ← state, outcome]
      rfl

end Work

def workingKeeper : Keeper :=
  { sampleKeeper with
    queue := {
      device := "unit"
      waiting := [{ name := "swing" }]
      unfinished := 1
      worker := .idle } }

def sendingSurroundings : Surroundings cloud Keeper Unit where
  reply what keeper _ := (Call.silentReplies what, (keeper.send { name := "power" }).2, ())
  grant keeper _ := ((keeper.send { name := "power" }).2, ())

theorem standAside_sending : StandAside sendingSurroundings :=
  fun _ => ⟨fun _ _ _ aside => aside.send _, fun _ _ aside => aside.send _⟩

theorem dispatched_work_unknown :
    let ending := work.among sendingSurroundings workingKeeper ()
    ending.result = .ok () ∧ ending.calls = [] ∧
      ending.state.availability = .online ∧ ending.state.refreshRequests = 0 ∧
      ending.state.queue.waiting.map DeviceCommand.name = ["power"] := by
  intro ending
  obtain ⟨unit, known⟩ : ∃ unit, workingKeeper.capability? = some unit :=
    Option.isSome_iff_exists.1 (by decide +kernel)
  obtain ⟨worked, -, dispatched, refuses, -⟩ :=
    dispatched_work standAside_sending known
      (show workingKeeper.queue.next? = some ({ name := "swing" }, _) from rfl) ()
  have refused := refuses (.unknown (by cases unit <;> simp [DeviceCommand.names]))
  cases dispatched with
  | refused _ calls state =>
    rw [calls] at state
    change ending.state = _ at state
    rw [state]
    exact ⟨worked, calls, rfl, rfl, rfl⟩
  | unconverted means | succeeded means | failed means => exact absurd means (refused _)

end Keeper

end ApplianceCloud
