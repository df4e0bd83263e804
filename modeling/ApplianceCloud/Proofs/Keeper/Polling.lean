import ApplianceCloud.Proofs.Interleaving.Surroundings
import ApplianceCloud.Proofs.Keeper.Exclusion
import ApplianceCloud.Proofs.Capability.AirConditioner
import ApplianceCloud.Proofs.Cloud.Classification

namespace ApplianceCloud

variable {ω : Type}

structure Outlook where
  status? : Option Status
  availability : Availability
  lastFailure? : Option Failure

def Outlook.heed (outlook : Outlook) : Except Failure (Option Status) → Outlook
  | .ok (some status) =>
      { status? := some status
        availability :=
          if status.online then { reach := .online, trouble := .none, reason := "" }
          else { reach := .offline, trouble := .none, reason := "Device is disconnected" }
        lastFailure? := none }
  | .ok none => { outlook with lastFailure? := none }
  | .error failure =>
      if failure.isOwn then
        { outlook with
          availability := { reach := .offline, trouble := .communication, reason := failure.message }
          lastFailure? := some (.refresh (.communication failure.message)) }
      else { outlook with lastFailure? := some failure }

namespace Keeper

open Activity

def outlook (keeper : Keeper) : Outlook :=
  { status? := keeper.status?
    availability := keeper.availability
    lastFailure? := keeper.lastFailure? }

structure Alike (before after : Keeper) : Prop where
  device : after.device = before.device
  generation : after.generation? = before.generation?
  status : after.status? = before.status?
  availability : after.availability = before.availability
  isShutDown : after.isShutDown = before.isShutDown

theorem Alike.refl (keeper : Keeper) : keeper.Alike keeper := ⟨rfl, rfl, rfl, rfl, rfl⟩

theorem Alike.settings {before after : Keeper} (alike : before.Alike after) :
    after.settings = before.settings :=
  congrArg settingsOf alike.device

/-- Surroundings in which no command and no other refresh has an effect. -/
def IsQuiet (others : Surroundings cloud Keeper ω) : Prop :=
  ∀ before : Keeper, others.Keep before.Alike

section Leaves

variable {σ : Type} {inv : σ → Prop} {place : Place}

abbrev Leaves (inv : σ → Prop) (place : Place) (activity : Cloud σ α) : Prop :=
  Activity.Stays (I := cloud) (fun _ => false) inv place activity

theorem leaves_ask {what : CloudCall} : Leaves inv place (ask (I := cloud) (σ := σ) what) :=
  stays_ask fun counted => absurd counted Bool.false_ne_true

theorem leaves_send {method : Method} {path : String} {payload? : Option (Fields Document)} :
    Leaves inv place (Cloud.send method path payload?) :=
  leaves_ask.bind fun _ => stays_lift.bind fun _ => leaves_ask.bind fun _ =>
    leaves_ask.bind fun _ => stays_lift

theorem leaves_keepAlive {device : String} {family : Family} :
    Leaves inv place (Control.keepAlive device family) := by
  unfold Control.keepAlive
  split
  · exact leaves_send.bind fun _ => stays_pure
  · exact stays_pure

theorem leaves_readDevice {device : String} {unit : Capability} :
    Leaves inv place (Cloud.readDevice device unit) := by
  refine leaves_send.attempt_then fun answer => ?_
  split
  · exact stays_lift
  · exact stays_lift
  · exact stays_fail

end Leaves

theorem leaves_capability (before : Keeper) : Leaves before.Alike .before capability :=
  stays_capability_of (fun _ _ alike => ⟨alike.1, alike.2, alike.3, alike.4, alike.5⟩)
    fun _ _ counted => absurd counted Bool.false_ne_true

theorem leaves_poll (before : Keeper) :
    poll.Sectioned (I := cloud) (fun _ => false) before.Alike (fun _ => True) .before := by
  refine (leaves_capability before).then trivial fun unit => sectioned_gets fun keeper alike => ?_
  dsimp only
  split
  · have watched : (watching (Watch.snapshot keeper.settings unit.family)).Sectioned (I := cloud)
        (fun _ => false) before.Alike (· = .after) .before :=
      sectioned_watching_of (fun _ _ alike => ⟨alike.1, alike.2, alike.3, alike.4, alike.5⟩)
        Watch.sectioned_snapshot
    exact sectioned_mono watched fun _ _ => trivial
  · refine leaves_keepAlive.attempt_then fun answer => ?_
    split
    · exact leaves_readDevice.then trivial fun _ => trivial
    · exact sectioned_mono (stays_lift.bind fun _ => stays_pure) fun _ _ => trivial
    · trivial
  · trivial

def settle (keeper : Keeper) : Except Failure (Option Status) → Keeper
  | .ok (some status) =>
      { keeper with
        status? := some status, availability := .ofOnline status.online, lastFailure? := none }
  | .ok none => { keeper with lastFailure? := none }
  | .error failure =>
      if failure.isOwn then
        { keeper with
          availability := .unreachable failure.message
          lastFailure? := some (.refresh (.communication failure.message)) }
      else { keeper with lastFailure? := some failure }

theorem outlook_settle (keeper : Keeper) (outcome : Except Failure (Option Status)) :
    (keeper.settle outcome).outlook = keeper.outlook.heed outcome := by
  unfold settle Outlook.heed
  split
  · rfl
  · rfl
  · next failure => cases own : failure.isOwn <;> rfl

theorem Alike.heed {before after : Keeper} (alike : before.Alike after)
    (outcome : Except Failure (Option Status)) :
    after.outlook.heed outcome = before.outlook.heed outcome := by
  unfold Outlook.heed outlook
  rw [alike.status, alike.availability]

section Refresh

variable {others : Surroundings cloud Keeper ω} {keeper : Keeper} {world : ω}

theorem update_among : update.among others keeper world =
    let polled := poll.among others keeper world
    (match polled.result with
    | .ok none => { polled with result := .ok none }
    | .ok (some status) =>
        { polled with
          result := .ok (some status)
          state := { polled.state with availability := .ofOnline status.online } }
    | .error failure =>
        if failure.isOwn then
          { polled with
            result := .error (.refresh (.communication failure.message))
            state := { polled.state with availability := .unreachable failure.message } }
        else { polled with result := .error failure }) := by
  rw [update, among_attempt_bind]
  generalize poll.among others keeper world = polled
  obtain ⟨result, state, world, calls⟩ := polled
  cases result with
  | error failure =>
    cases own : failure.isOwn <;> simp [own, Ending.behind, note, among_bind, Ending.then]
  | ok status? => cases status? <;> simp [Ending.behind, note, among_bind, Ending.then]

theorem refresh_among (works : keeper.isShutDown = false) :
    let polled := poll.among others keeper world
    refresh.among others keeper world =
      { polled with
        result := .ok polled.result.toOption.join
        state := polled.state.settle polled.result } := by
  unfold refresh
  rw [among_gets_bind]
  simp only [id, works, Bool.false_eq_true, if_false]
  rw [among_attempt_bind, update_among]
  generalize poll.among others keeper world = polled
  obtain ⟨result, state, world, calls⟩ := polled
  cases result with
  | error failure =>
    cases own : failure.isOwn <;>
      simp [own, settle, Ending.behind, among_bind, Ending.then, Except.toOption]
  | ok status? =>
    cases status? <;> simp [settle, Ending.behind, among_bind, Ending.then, Except.toOption]

end Refresh

/-- The outcome of a poll, by the stage that decided it, and the calls that led to it. A device that
the keep-alive reports as lost is not read. -/
inductive Sourced (others : Surroundings cloud Keeper ω) (keeper : Keeper) (world : ω) :
    Except Failure (Option Status) → List cloud.Call → Prop where
  | undescribed {described failure} (download : capability.among others keeper world = described)
      (failed : described.result = .error failure) :
      Sourced others keeper world (.error failure) described.calls
  | watched {described unit watched} (download : capability.among others keeper world = described)
      (known : described.result = .ok unit) (first : keeper.generation? = some .first)
      (cycle : (watching (Watch.snapshot keeper.settings unit.family)).among others
        described.state described.world = watched) :
      Sourced others keeper world watched.result (described.calls ++ watched.calls)
  | lost {described unit kept cause} (download : capability.among others keeper world = described)
      (known : described.result = .ok unit) (second : keeper.generation? = some .second)
      (keepAlive : (Control.keepAlive keeper.device.id unit.family).among others
        described.state described.world = kept)
      (offline : kept.result = .error (.offline cause))
      (unread : ∀ request, .request request ∈ kept.calls → request.method = .post) :
      Sourced others keeper world (.ok (some { family := unit.family, online := false }))
        (described.calls ++ kept.calls)
  | unkept {described unit kept failure} (download : capability.among others keeper world = described)
      (known : described.result = .ok unit) (second : keeper.generation? = some .second)
      (keepAlive : (Control.keepAlive keeper.device.id unit.family).among others
        described.state described.world = kept)
      (failed : kept.result = .error failure) (reached : ∀ cause, failure ≠ .offline cause) :
      Sourced others keeper world (.error failure) (described.calls ++ kept.calls)
  | read {described unit kept read} (download : capability.among others keeper world = described)
      (known : described.result = .ok unit) (second : keeper.generation? = some .second)
      (keepAlive : (Control.keepAlive keeper.device.id unit.family).among others
        described.state described.world = kept)
      (reached : kept.result = .ok ())
      (reading : (Cloud.readDevice keeper.device.id unit).among others kept.state kept.world = read) :
      Sourced others keeper world (read.result.map some)
        (described.calls ++ (kept.calls ++ read.calls))
  | sourceless {described unit} (download : capability.among others keeper world = described)
      (known : described.result = .ok unit) (none : keeper.generation? = none) :
      Sourced others keeper world (.error (.refresh (.noSource keeper.device.id))) described.calls

section Sources

variable {others : Surroundings cloud Keeper ω} {keeper : Keeper} {world : ω}
  {device : String} {family : Family} {request : Request}

theorem family_of_keepAlive_error {failure : Failure}
    (failed : ((Control.keepAlive device family).among others keeper world).result =
      .error failure) : family = .airConditioner := by
  unfold Control.keepAlive at failed
  split at failed
  · assumption
  · cases failed

theorem method_of_send {method : Method} {path : String} {payload? : Option (Fields Document)}
    (made : .request request ∈
      ((Cloud.send method path payload? : Keeping _).among others keeper world).calls) :
    request.method = method := by
  rcases mem_calls_bind others made with asked | ⟨token, _, _, made⟩
  · cases List.mem_singleton.1 asked
  rcases mem_calls_bind others made with none | ⟨url, _, _, made⟩
  · cases none
  rcases mem_calls_bind others made with asked | ⟨number, _, _, made⟩
  · cases List.mem_singleton.1 asked
  rcases mem_calls_bind others made with asked | ⟨reply, _, _, none⟩
  · cases List.mem_singleton.1 asked
    rfl
  · cases none

theorem method_of_keepAlive
    (made : .request request ∈
      ((Control.keepAlive device family : Keeping Unit).among others keeper world).calls) :
    request.method = .post := by
  unfold Control.keepAlive at made
  split at made
  · rcases mem_calls_bind others made with sent | ⟨_, _, _, none⟩
    · exact method_of_send sent
    · cases none
  · cases made

theorem sourced_poll (quiet : IsQuiet others) :
    Sourced others keeper world (poll.among others keeper world).result
      (poll.among others keeper world).calls := by
  have alike : keeper.Alike (capability.among others keeper world).state :=
    among_keeps (quiet keeper) (leaves_capability keeper) (.refl keeper)
  rw [poll, among_bind]
  cases known : (capability.among others keeper world).result with
  | error failure =>
    rw [Ending.then_of_error known]
    exact .undescribed rfl known
  | ok unit =>
    rw [Ending.then_of_ok known, among_gets_bind]
    simp only [id, alike.device, alike.generation, alike.settings]
    cases generation : keeper.generation? with
    | none =>
      rw [among_fail, Ending.result_behind, Ending.calls_behind, List.append_nil]
      exact .sourceless rfl known generation
    | some reached =>
      cases reached with
      | first =>
        exact .watched rfl known generation rfl
      | second =>
        simp only [among_attempt_bind]
        generalize download : capability.among others keeper world = described at known ⊢
        generalize keepAlive : (Control.keepAlive keeper.device.id unit.family).among others
          described.state described.world = kept
        rw [Ending.behind_behind]
        cases outcome : kept.result with
        | ok _ =>
          have read := Sourced.read download known generation keepAlive outcome rfl
          simpa only [Ending.result_behind, Ending.calls_behind, among_map, List.append_assoc]
            using read
        | error failure =>
          cases failure with
          | offline cause =>
            -- Only air conditioners are kept alive, so the unit has an offline status.
            have keeps : unit.family = .airConditioner :=
              family_of_keepAlive_error (keepAlive ▸ outcome)
            have found : Status.offline unit.family =
                .ok { family := unit.family, online := false } := by
              rw [keeps]
              rfl
            have unread (request : Request) (made : .request request ∈ kept.calls) :
                request.method = .post :=
              method_of_keepAlive (keepAlive ▸ made)
            have lost := Sourced.lost download known generation keepAlive outcome unread
            simp only [among_map, found]
            simpa [Except.map] using lost
          | _ =>
            have unkept := Sourced.unkept download known generation keepAlive outcome
              fun cause => nofun
            simpa using unkept

end Sources

def refreshes : Nat → Keeping Unit
  | 0 => pure ()
  | count + 1 => do
      let _ ← refresh
      refreshes count

def outcomes (others : Surroundings cloud Keeper ω) :
    Nat → Keeper → ω → List (Except Failure (Option Status))
  | 0, _, _ => []
  | count + 1, keeper, world =>
      let refreshed := refresh.among others keeper world
      (poll.among others keeper world).result :: outcomes others count refreshed.state refreshed.world

theorem isShutDown_settle (keeper : Keeper) (outcome : Except Failure (Option Status)) :
    (keeper.settle outcome).isShutDown = keeper.isShutDown := by
  unfold settle
  split
  · rfl
  · rfl
  · split <;> rfl

section Run

variable {others : Surroundings cloud Keeper ω} (quiet : IsQuiet others) {keeper : Keeper} {world : ω}
include quiet

theorem alike_poll : keeper.Alike (poll.among others keeper world).state :=
  among_keeps (quiet keeper) (leaves_poll keeper) (.refl keeper)

variable (works : keeper.isShutDown = false)
include works

theorem outlook_refresh : (refresh.among others keeper world).state.outlook =
    keeper.outlook.heed (poll.among others keeper world).result := by
  rw [refresh_among works, outlook_settle]
  exact (alike_poll quiet).heed _

theorem works_refresh : (refresh.among others keeper world).state.isShutDown = false := by
  rw [refresh_among works, isShutDown_settle]
  exact (alike_poll quiet).isShutDown.trans works

theorem outlook_refreshes (count : Nat) : ((refreshes count).among others keeper world).state.outlook =
    (outcomes others count keeper world).foldl Outlook.heed keeper.outlook := by
  induction count generalizing keeper world with
  | zero => rfl
  | succ count ih =>
    have answered : (refresh.among others keeper world).result =
        .ok (poll.among others keeper world).result.toOption.join := by
      rw [refresh_among works]
    have still : (refresh.among others keeper world).state.isShutDown = false :=
      works_refresh quiet works
    rw [refreshes, among_bind, Ending.then_of_ok answered, Ending.state_behind, ih still,
      outlook_refresh quiet works, outcomes, List.foldl_cons]

end Run

/-- After a refresh others see what the outcome of its poll makes of what they saw before, and so on
from refresh to refresh. -/
theorem follows_polls {others : Surroundings cloud Keeper ω} (quiet : IsQuiet others)
    {keeper : Keeper} (works : keeper.isShutDown = false) (world : ω) (count : Nat) :
    let polled := poll.among others keeper world
    let refreshed := refresh.among others keeper world
    Sourced others keeper world polled.result refreshed.calls ∧
    refreshed.state.outlook = keeper.outlook.heed polled.result ∧
    ((refreshes count).among others keeper world).state.outlook =
      (outcomes others count keeper world).foldl Outlook.heed keeper.outlook := by
  intro polled refreshed
  have calls : refreshed.calls = polled.calls := by
    rw [show refreshed = _ from refresh_among works]
  refine ⟨?_, outlook_refresh quiet works, outlook_refreshes quiet works count⟩
  rw [calls]
  exact sourced_poll quiet

theorem isQuiet_alone (answer : (what : CloudCall) → ω → Except Failure (cloud.Answer what) × ω) :
    IsQuiet (.alone answer) :=
  fun _ => ⟨fun _ _ _ alike => alike, fun _ _ alike => alike⟩

def sampleDevice : ListedDevice where
  id := "unit"
  name := "Unit"
  modelName := "Model"
  family := .airConditioner
  generation := .second

def sampleKeeper : Keeper :=
  { fresh sampleDevice (some .second) with
    capability? := (Capability.ofDocument (AirConditioner.sampleDocument .second) none).toOption
    status? := some { family := .airConditioner, online := true }
    availability := .online }

def silentSurroundings : Surroundings cloud Keeper Unit :=
  .alone fun what world => (Call.silentReplies what, world)

theorem follows_polls_silent :
    let after := (refresh.among silentSurroundings sampleKeeper ()).state
    after.availability = { reach := .offline, reason := "Device is disconnected" } ∧
      after.status?.map Status.online = some false ∧ after.lastFailure? = none := by
  intro after
  have quiet : IsQuiet silentSurroundings := isQuiet_alone _
  have works : sampleKeeper.isShutDown = false := rfl
  obtain ⟨-, seen, -⟩ := follows_polls quiet works () 1
  have lost : (poll.among silentSurroundings sampleKeeper ()).result.toOption.join.map
      Status.online = some false := by
    decide +kernel
  generalize (poll.among silentSurroundings sampleKeeper ()).result = outcome at seen lost
  change after.outlook = _ at seen
  clear_value after
  cases outcome with
  | error failure => cases lost
  | ok status? =>
    cases status? with
    | none => cases lost
    | some status =>
      have offline : status.online = false := Option.some.inj lost
      simp only [Outlook.heed, offline, outlook, Outlook.mk.injEq] at seen
      obtain ⟨taken, disconnected, succeeded⟩ := seen
      refine ⟨disconnected, ?_, succeeded⟩
      rw [taken, Option.map_some, offline]

end Keeper

end ApplianceCloud
