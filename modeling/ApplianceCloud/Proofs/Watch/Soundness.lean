import ApplianceCloud.Proofs.Interleaving.Interference
import ApplianceCloud.Proofs.Watch.Contract

namespace ApplianceCloud.Watch

open Activity

variable {settings : Settings} {session after : Session} {phase : Phase} {workId : String}

structure Session.Sound (settings : Settings) (session : Session) : Prop where
  consistent : session.Consistent
  left_nonneg : 0 ≤ session.retriesLeft
  left_le : session.retriesLeft ≤ settings.retries

/-- Whether a session may come right after another: polls were counted, the phase followed, or it is
back at the start. -/
def Session.Leads (settings : Settings) (session after : Session) : Prop :=
  after.phase = session.phase ∧ after.workId = session.workId ∨
    after.phase ∈ session.phase.next ∨ after = .fresh settings

theorem Session.Sound.budget (h : session.Sound settings) : 0 ≤ settings.retries :=
  Int.le_trans h.left_nonneg h.left_le

theorem Session.fresh_sound (budget : 0 ≤ settings.retries) : (Session.fresh settings).Sound settings :=
  ⟨Session.fresh_consistent settings, budget, Int.le_refl settings.retries⟩

theorem Session.Sound.count (h : session.Sound settings) {left : Int} (nonneg : 0 ≤ left)
    (le : left ≤ settings.retries) : { session with retriesLeft := left }.Sound settings :=
  ⟨h.consistent, nonneg, le⟩

theorem Session.move_eq_ok (h : session.move settings phase workId = .ok after) :
    phase ∈ session.phase.next ∧ (phase = .started → workId ≠ "") ∧
      after = session.enter settings phase workId := by
  unfold Session.move at h
  split at h
  · cases h
  · next follows =>
    split at h
    · cases h
    · next named =>
      cases h
      exact ⟨by simpa using follows, fun starts unnamed => named ⟨starts, unnamed⟩, rfl⟩

theorem Session.Sound.move (h : session.Sound settings)
    (moved : session.move settings phase workId = .ok after) :
    after.Sound settings ∧ after.phase = phase ∧ session.retriesLeft ≤ after.retriesLeft := by
  obtain ⟨follows, named, rfl⟩ := Session.move_eq_ok moved
  have isOpen := h.consistent
  cases phase with
  | started =>
    have work : workId ≠ "" := named rfl
    exact ⟨⟨by simp [Session.Consistent, Session.enter, Phase.isOpen, work], h.budget,
      Int.le_refl settings.retries⟩, rfl, h.left_le⟩
  | polling =>
    have before : session.phase.isOpen = true := by
      cases phase : session.phase <;> simp_all [Phase.next, Phase.isOpen]
    have work : session.workId ≠ "" := isOpen.1 before
    exact ⟨⟨by simp [Session.Consistent, Session.enter, Phase.isOpen, work], h.left_nonneg,
      h.left_le⟩, rfl, Int.le_refl session.retriesLeft⟩
  | _ =>
    exact ⟨⟨by simp [Session.Consistent, Session.enter, Phase.isOpen], h.left_nonneg, h.left_le⟩,
      rfl, Int.le_refl session.retriesLeft⟩

/-- What may happen to a session. Only a cycle uses its polls up, and it holds the lock. -/
def discipline (settings : Settings) : Discipline Session where
  inv := Session.Sound settings
  step holding session after := session.Leads settings after ∧ after.Sound settings ∧
    (holding = false → session.retriesLeft ≤ after.retriesLeft)
  rely session after := session.retriesLeft ≤ after.retriesLeft
  inv_of_step allowed _ := allowed.2.1
  rely_refl session := Int.le_refl session.retriesLeft
  rely_trans := Int.le_trans
  rely_of_step allowed := allowed.2.2 rfl

section Steps

variable {holding : Bool} {post : Bool → Except Failure Unit → Session → Prop}

theorem keeps_move (sound : session.Sound settings)
    (moved : ∀ after, session.move settings phase workId = .ok after → post holding (.ok ()) after)
    (refused : ∀ failure, session.move settings phase workId = .error failure →
      post holding (.error failure) session) :
    (move settings phase workId).Keeps (discipline settings) post holding session := by
  unfold Watch.move
  rw [keeps_bind, keeps_gets, thenKeeps_ok, keeps_bind, keeps_lift]
  change thenKeeps _ _ _ holding (session.move settings phase workId) session
  cases result : session.move settings phase workId with
  | error failure => exact refused failure result
  | ok after =>
    obtain ⟨kept, entered, more⟩ := sound.move result
    have follows := (Session.move_eq_ok result).1
    exact ⟨⟨.inr (.inl (entered ▸ follows)), kept, fun _ => more⟩, moved after result⟩

theorem keeps_answerTo {what : WatchCall}
    {post : Bool → Except Failure (Except Failure (remote.Answer what)) → Session → Prop} :
    (answerTo what).Keeps (discipline settings) post holding session ↔
      ∀ answer after, after.Sound settings →
        (holding = true → session.retriesLeft ≤ after.retriesLeft) →
        post holding (.ok answer) after := by
  rw [answerTo, keeps_attempt, keeps_ask]
  rfl

theorem keeps_close (sound : session.Sound settings)
    (done : ∀ after, after.Sound settings → post true (.ok ()) after) :
    (close workId).Keeps (discipline settings) post true session := by
  unfold close
  split
  · exact done session sound
  · rw [keeps_bind, keeps_answerTo]
    intro answer after sound _
    exact done after sound

theorem keeps_abandon (sound : session.Sound settings)
    (done : post true (.ok ()) (.fresh settings)) :
    (abandon settings workId).Keeps (discipline settings) post true session := by
  unfold abandon
  rw [keeps_bind, keeps_gets, thenKeeps_ok, keeps_bind]
  refine keeps_close sound fun after sound => ?_
  rw [thenKeeps_ok, keeps_modify]
  exact ⟨⟨.inr (.inr rfl), Session.fresh_sound sound.budget, by simp⟩, done⟩

end Steps

section Cycles

variable {family : Family} {bound : Nat}
variable {post : Bool → Except Failure (Option Status) → Session → Prop}

theorem keeps_endBy {wrap : String → CallFault} {failure : Failure} (sound : session.Sound settings)
    (ends : ∀ result session, post true result session) :
    (endBy settings family wrap failure).Keeps (discipline settings) post true session := by
  unfold endBy
  split
  · rw [keeps_bind]
    refine keeps_abandon sound ?_
    rw [thenKeeps_ok, keeps_bind, keeps_lift]
    cases Status.offline family with
    | ok status => exact ends _ _
    | error failure => exact ends _ _
  · split
    · rw [keeps_bind]
      exact keeps_abandon sound (ends _ _)
    · exact ends _ _

theorem keeps_exhaust (sound : session.Sound settings)
    (ends : ∀ result session, post true result session) :
    (exhaust settings).Keeps (discipline settings) post true session := by
  unfold exhaust
  rw [keeps_bind]
  exact keeps_abandon sound (ends _ _)

theorem keeps_polls (sound : session.Sound settings)
    (ends : ∀ result session, post true result session) :
    (polls settings family workId bound).Keeps (discipline settings) post true session := by
  induction bound generalizing session with
  | zero => exact keeps_exhaust sound ends
  | succ bound ih =>
    rw [polls, keeps_bind, keeps_gets, thenKeeps_ok]
    split
    · exact keeps_exhaust sound ends
    next some =>
    have positive : 0 < session.retriesLeft := by simpa using some
    rw [keeps_bind]
    refine keeps_move sound (fun polling moved => ?_) fun _ _ => ends _ _
    obtain ⟨_, _, more⟩ := sound.move moved
    rw [thenKeeps_ok, keeps_bind, keeps_answerTo]
    intro answer waited sound kept
    -- While the poll waited, others can only have given polls back.
    have counted : 0 < waited.retriesLeft := Int.lt_of_lt_of_le positive (Int.le_trans more (kept rfl))
    rw [thenKeeps_ok]
    split
    · rw [keeps_bind]
      refine keeps_close sound fun closed sound => ?_
      rw [thenKeeps_ok, keeps_bind]
      exact keeps_move sound (fun _ _ => ends _ _) fun _ _ => ends _ _
    · have fewer := sound.count (by omega : 0 ≤ waited.retriesLeft - 1)
        (by have := sound.left_le; omega)
      rw [keeps_bind, keeps_modify]
      refine ⟨⟨.inl ⟨rfl, rfl⟩, fewer, by simp⟩, ?_⟩
      rw [thenKeeps_ok, keeps_bind, keeps_gets, thenKeeps_ok]
      split
      · rw [keeps_bind, keeps_ask]
        intro answer paused sound _
        cases answer with
        | error failure => exact ends _ _
        | ok _ => exact ih sound
      · exact ih fewer
    · rw [keeps_bind]
      refine keeps_move sound (fun expired moved => ?_) fun _ _ => ends _ _
      rw [thenKeeps_ok, keeps_bind]
      exact keeps_abandon (sound.move moved).1 (ends _ _)
    · exact keeps_endBy sound ends

theorem keeps_pollOpen (sound : session.Sound settings)
    (ends : ∀ result session, post true result session) :
    (pollOpen settings family bound).Keeps (discipline settings) post true session := by
  have full := sound.count sound.budget (Int.le_refl settings.retries)
  rw [pollOpen, keeps_bind, keeps_gets, thenKeeps_ok, keeps_bind, keeps_modify]
  exact ⟨⟨.inl ⟨rfl, rfl⟩, full, by simp⟩, keeps_polls full ends⟩

theorem keeps_cycle (sound : session.Sound settings)
    (ends : ∀ result session, post true result session) :
    (cycle settings family bound).Keeps (discipline settings) post true session := by
  rw [cycle, keeps_bind, keeps_gets, thenKeeps_ok]
  split
  · exact keeps_pollOpen sound ends
  · rw [keeps_bind, keeps_answerTo]
    intro answer begun sound _
    rw [thenKeeps_ok]
    cases answer with
    | ok workId =>
      rw [keeps_bind]
      refine keeps_move sound (fun started moved => ?_) fun _ _ => ends _ _
      exact keeps_pollOpen (sound.move moved).1 ends
    | error failure => exact keeps_endBy sound ends

end Cycles

/-- What can be done to a session. Only the first two wait for the lock. A cycle whose session gets
polls back again and again could go on forever; it is followed for `bound` polls. -/
inductive Action where
  | snapshot (family : Family) (bound : Nat)
  | forceStop
  | move (phase : Phase) (workId : String)

structure Report where
  action : Action
  found : Session
  outcome : Except Failure (Option Status)
  left : Session

namespace Action

def activity (settings : Settings) : Action → Watching (Option Status)
  | snapshot family bound => Activity.locked (cycle settings family bound)
  | forceStop => do
      Watch.forceStop settings
      return none
  | move phase workId => do
      Watch.move settings phase workId
      return none

def reported (settings : Settings) (action : Action) : Watching Report := do
  let found ← Activity.gets id
  let outcome ← (action.activity settings).attempt
  let left ← Activity.gets id
  return { action, found, outcome, left }

end Action

def Report.Lawful (settings : Settings) (report : Report) : Prop :=
  match report.action with
  | .snapshot _ _ => True
  | .forceStop => report.outcome = .ok none ∧ report.left = .fresh settings
  | .move _ _ => ∀ failure, report.outcome = .error failure → report.left = report.found

def Reported (settings : Settings) (result : Except Failure Report) (_ : Session) : Prop :=
  ∃ report, result = .ok report ∧ report.Lawful settings

theorem Action.keeps_reported (action : Action) (sound : session.Sound settings) :
    (action.reported settings).Keeps (discipline settings) (Scene.loose (Reported settings)) false
      session := by
  rw [reported, keeps_bind, keeps_gets, thenKeeps_ok, keeps_bind, keeps_attempt]
  cases action with
  | snapshot family bound =>
    refine keeps_locked (fun session sound => keeps_cycle sound fun result left => ?_) session
    exact ⟨rfl, rfl, _, rfl, trivial⟩
  | forceStop =>
    rw [activity, keeps_bind]
    refine keeps_locked (fun session sound => keeps_abandon sound ?_) session
    exact ⟨rfl, rfl, _, rfl, rfl, rfl⟩
  | move phase workId =>
    rw [activity, keeps_bind]
    refine keeps_move sound (fun after moved => ?_) fun failure refused => ?_
    · exact ⟨rfl, _, rfl, fun failure failed => nomatch failed⟩
    · exact ⟨rfl, _, rfl, fun failure failed => rfl⟩

theorem run_forceStop (session : Session) (replies : Replies remote) :
    (forceStop settings).run (m := Id) replies session = (.ok (), .fresh settings) := by
  change ((close session.workId >>= fun _ => Activity.modify fun _ => .fresh settings).attempt.bind
    fun result => .unlock (.done result)).run (m := Id) replies session = _
  unfold close
  split <;> rfl

abbrev acted (settings : Settings) (moves : List (Move remote Action)) :
    Scene remote (History Session) Report :=
  Scene.play (fun action => (action.reported settings).recorded) ⟨.fresh settings, []⟩ moves

/-- Cycles, forced stops and changes of the phase come at any time, and calls are answered in any way:
every session that there was is sound, and came from the one before by counting polls, along
`Phase.next` or by going back to the start; a change of the phase that failed left the session as it
was, and a forced stop left it at the start, also one that nobody disturbs in a session of any kind. -/
theorem sound_play (settings : Settings) (budget : 0 ≤ settings.retries)
    (moves : List (Move remote Action)) :
    let scene := acted settings moves
    (∀ session ∈ scene.state.states, session.Sound settings) ∧
    scene.state.states.IsChain (fun after session => session.Leads settings after) ∧
    (∀ result, Stage.ended result ∈ scene.stages → ∃ report, result = .ok report ∧
      (report.action = .forceStop → report.outcome = .ok none ∧ report.left = .fresh settings) ∧
      ∀ phase workId failure, report.action = .move phase workId →
        report.outcome = .error failure → report.left = report.found) ∧
    ∀ session replies, (forceStop settings).run (m := Id) replies session =
      (.ok (), .fresh settings) := by
  intro scene
  have kept := Scene.recorded_play (d := discipline settings) (Session.fresh_sound budget)
    (fun action session sound => Action.keeps_reported action sound) moves
  obtain ⟨sound, chain, ended⟩ := kept
  refine ⟨sound, chain.imp fun _ _ ⟨_, allowed⟩ => allowed.1, fun result member => ?_,
    run_forceStop⟩
  obtain ⟨_, -, report, rfl, lawful⟩ := ended result member
  refine ⟨report, rfl, fun stops => ?_, fun phase workId failure moves failed => ?_⟩
  · simpa [Report.Lawful, stops] using lawful
  · have lawful : ∀ failure, report.outcome = .error failure → report.left = report.found := by
      simpa [Report.Lawful, moves] using lawful
    exact lawful failure failed

def sampleSettings : Settings := { device := "device", retries := 2 }

def sampleReplies : Replies remote
  | .start => .ok "work"
  | .poll _ => .ok none
  | .stop _ => .error (.foreign "OSError" "")
  | .pause _ => .ok ()

def sampleMoves : List (Move remote Action) :=
  [.enter (.snapshot .airConditioner 4), .answer 0 sampleReplies, .enter (.move .stopped ""),
   .enter (.move .started ""), .enter (.move .started "other"), .answer 0 sampleReplies,
   .enter .forceStop, .answer 0 sampleReplies, .answer 0 sampleReplies, .answer 0 sampleReplies,
   .grant]

theorem sound_sample : 0 ≤ sampleSettings.retries ∧
    (∀ session ∈ (acted sampleSettings sampleMoves).state.states, session.Sound sampleSettings) ∧
    (acted sampleSettings sampleMoves).state.states.map (·.retriesLeft) =
      [2, 2, 0, 1, 1, 2, 2, 2, 2, 2, 2] := by
  refine ⟨by decide, (sound_play sampleSettings (by decide) sampleMoves).1, ?_⟩
  decide +kernel

end ApplianceCloud.Watch
