import ApplianceCloud.Proofs.Watch.Bracket

namespace ApplianceCloud

namespace Activity

variable {I : Interface} {σ α β : Type} {state : σ}

def firstCall? : Activity I σ α → σ → Option I.Call
  | .done _, _ => none
  | .look next, state => firstCall? (next state) state
  | .write state next, _ => firstCall? next state
  | .call what _, _ => some what
  | .lock next, state => firstCall? next state
  | .unlock next, state => firstCall? next state

theorem firstCall?_bind {what : I.Call} {activity : Activity I σ α} {next : α → Activity I σ β}
    (first : firstCall? activity state = some what) :
    firstCall? (activity.bind next) state = some what := by
  induction activity generalizing state with
  | done result => cases first
  | look rest ih => exact ih _ first
  | write after rest ih => exact ih first
  | call other rest => exact first
  | lock rest ih => exact ih first
  | unlock rest ih => exact ih first

theorem firstCall?_attempt {what : I.Call} {activity : Activity I σ α}
    (first : firstCall? activity state = some what) :
    firstCall? activity.attempt state = some what := by
  induction activity generalizing state with
  | done result => cases first
  | look rest ih => exact ih _ first
  | write after rest ih => exact ih first
  | call other rest => exact first
  | lock rest ih => exact ih first
  | unlock rest ih => exact ih first

theorem firstCall?_locked {what : I.Call} {activity : Activity I σ α}
    (first : firstCall? activity state = some what) :
    firstCall? activity.locked state = some what :=
  firstCall?_bind (firstCall?_attempt first)

end Activity

namespace Watch

open Activity

def Session.IsClosed (session : Session) : Prop :=
  session.workId = "" ∧ (session.phase = .idle ∨ session.phase = .stopped)

/-- Whether a cycle breaks off at an event, in the middle of its polls. -/
def BreaksOff : RemoteEvent → Prop
  | .answered (.poll _) (.error failure) => failure.isOwn = false
  | .answered (.pause _) (.error _) => True
  | _ => False

def BrokenOff (trace : Trace remote) : Prop := ∃ event ∈ trace.getLast?, BreaksOff event.2

def Rested (session : Session) (trace : Trace remote) : Prop :=
  session.IsClosed ∧ ¬ BrokenOff trace ∨
    session.phase = .polling ∧ session.workId ≠ "" ∧ BrokenOff trace

theorem brokenOff_append {trace : Trace remote} {task : Nat} {event : RemoteEvent} :
    BrokenOff (trace ++ [(task, event)]) ↔ BreaksOff event := by
  simp [BrokenOff]

section Cycles

variable {settings : Settings} {family : Family} {session : Session} {trace : Trace remote}
  {task : Nat}

abbrev Ends (activity : Watching (Option Status)) (task : Nat) (session : Session)
    (trace : Trace remote) : Prop :=
  activity.wp (fun _ _ => True) task (fun _ => Rested) session trace

theorem rested_fresh (whole : ¬ BrokenOff trace) : Rested (.fresh settings) trace :=
  .inl ⟨⟨rfl, .inl rfl⟩, whole⟩

theorem wp_close {workId : String} {post : Except Failure Unit → Session → Trace remote → Prop}
    (whole : workId = "" → ¬ BrokenOff trace)
    (done : ∀ trace, ¬ BrokenOff trace → post (.ok ()) session trace) :
    (close workId).wp (fun _ _ => True) task post session trace := by
  unfold close
  split
  · next unnamed => exact done trace (whole unnamed)
  · rw [wp_bind, wp_answerTo]
    refine ⟨trivial, fun answer => done _ ?_⟩
    rw [brokenOff_append]
    exact id

theorem wp_abandon_fresh {workId : String}
    {post : Except Failure Unit → Session → Trace remote → Prop}
    (whole : session.workId = "" → ¬ BrokenOff trace)
    (done : ∀ trace, ¬ BrokenOff trace → post (.ok ()) (.fresh settings) trace) :
    (abandon settings workId).wp (fun _ _ => True) task post session trace := by
  simp only [abandon, wp_bind, wp_gets, id, thenPost_ok]
  refine wp_close (fun unnamed => whole ?_) fun trace whole => done trace whole
  split at unnamed
  · exact unnamed
  · contradiction

theorem ends_endBy {wrap : String → CallFault} {failure : Failure}
    (whole : session.workId = "" → ¬ BrokenOff trace)
    (foreign : failure.isOwn = false → Rested session trace) :
    Ends (endBy settings family wrap failure) task session trace := by
  unfold endBy
  split
  · rw [Ends, wp_bind]
    refine wp_abandon_fresh whole fun trace whole => ?_
    simp only [thenPost_ok, wp_bind, wp_lift]
    cases Status.offline family with
    | ok status => exact rested_fresh whole
    | error failure => exact rested_fresh whole
  · split
    · rw [Ends, wp_bind]
      exact wp_abandon_fresh whole fun trace whole => rested_fresh whole
    · next unknown => exact foreign (by simpa using unknown)

theorem ends_exhaust (named : session.workId ≠ "") :
    Ends (exhaust settings) task session trace := by
  rw [Ends, exhaust, wp_bind]
  exact wp_abandon_fresh (fun unnamed => absurd unnamed named) fun trace whole => rested_fresh whole

theorem ends_polls {workId : String} (bound : Nat) (isOpen : session.phase.isOpen = true)
    (known : session.workId = workId) (named : workId ≠ "") :
    Ends (polls settings family workId bound) task session trace := by
  -- The session stays open with its work from one poll to the next, which carries the induction.
  induction bound generalizing session trace with
  | zero => exact ends_exhaust (known ▸ named)
  | succ bound ih =>
    have moves : session.move settings .polling "" = .ok { session with phase := .polling } :=
      Session.move_ok (Phase.polling_mem_next isOpen) (by simp)
    rw [Ends, polls, wp_bind, wp_gets, thenPost_ok]
    split
    · exact ends_exhaust (known ▸ named)
    rw [wp_bind, wp_move moves, thenPost_ok, wp_bind, wp_answerTo]
    refine ⟨trivial, fun answer => ?_⟩
    rw [thenPost_ok]
    split
    · rw [wp_bind]
      refine wp_close (fun unnamed => absurd unnamed named) fun trace whole => ?_
      rw [thenPost_ok, wp_bind, wp_move (Session.move_ok (by simp [Phase.next]) (by simp)),
        thenPost_ok]
      exact .inl ⟨⟨rfl, .inr rfl⟩, whole⟩
    · rw [wp_bind, wp_modify, thenPost_ok, wp_bind, wp_gets, thenPost_ok]
      split
      · rw [wp_bind, wp_ask]
        refine ⟨trivial, fun answer => ?_⟩
        cases answer with
        | error failure =>
          refine .inr ⟨rfl, known ▸ named, ?_⟩
          rw [brokenOff_append]
          trivial
        | ok _ => exact ih rfl known
      · exact ih rfl known
    · rw [wp_bind, wp_move (Session.move_ok (by simp [Phase.next]) (by simp)), thenPost_ok, wp_bind]
      refine wp_abandon_fresh (fun _ => ?_) fun trace whole => rested_fresh whole
      rw [brokenOff_append]
      exact Bool.noConfusion
    · next failure _ =>
      refine ends_endBy (fun unnamed => absurd (known.symm.trans unnamed) named) fun foreign => ?_
      refine .inr ⟨rfl, known ▸ named, ?_⟩
      rw [brokenOff_append]
      exact foreign

theorem ends_pollOpen {bound : Nat} (isOpen : session.phase.isOpen = true)
    (named : session.workId ≠ "") :
    Ends (pollOpen settings family bound) task session trace := by
  simp only [Ends, pollOpen, wp_bind, wp_gets, wp_modify, thenPost_ok, id]
  exact ends_polls bound isOpen rfl named

theorem ends_cycle {bound : Nat} (rested : Rested session trace) :
    Ends (cycle settings family bound) task session trace := by
  rw [Ends, cycle, wp_bind, wp_gets, thenPost_ok]
  rcases rested with ⟨⟨unnamed, phase⟩, whole⟩ | ⟨polling, named, -⟩
  · have closed : session.phase.isOpen = false := by
      rcases phase with idle | stopped <;> simp [Phase.isOpen, *]
    rw [if_neg (by simp [closed]), wp_bind, wp_answerTo]
    refine ⟨trivial, fun answer => ?_⟩
    have whole : ¬ BrokenOff (trace ++ [(task, .asked .start)] ++ [(task, .answered .start answer)]) := by
      rw [brokenOff_append]
      exact id
    have still : Rested session
        (trace ++ [(task, .asked .start)] ++ [(task, .answered .start answer)]) :=
      .inl ⟨⟨unnamed, phase⟩, whole⟩
    rw [thenPost_ok]
    cases answer with
    | error failure => exact ends_endBy (fun _ => whole) fun _ => still
    | ok workId =>
      by_cases named : workId = ""
      · have stays : session.move settings .started workId = .error (.phase .noWorkId) :=
          Session.move_unnamed closed named
        rw [wp_bind, wp_move_error stays, thenPost_error]
        exact still
      · have moves : session.move settings .started workId =
            .ok (session.enter settings .started workId) :=
          Session.move_ok (Phase.started_mem_next closed) fun _ => named
        rw [wp_bind, wp_move moves, thenPost_ok]
        exact ends_pollOpen rfl named
  · have isOpen : session.phase.isOpen = true := by simp [polling, Phase.isOpen]
    rw [if_pos (by exact isOpen)]
    exact ends_pollOpen isOpen named

end Cycles

section NextCycle

variable {settings : Settings} {family : Family} {session : Session}

theorem firstCall?_of_isClosed (closed : session.IsClosed) :
    firstCall? (snapshot settings family) session = some .start := by
  obtain ⟨_, idle | stopped⟩ := closed
  · cases session
    cases idle
    rfl
  · cases session
    cases stopped
    rfl

theorem firstCall?_exhaust (named : session.workId ≠ "") :
    firstCall? (exhaust settings) session = some (.stop session.workId) := by
  have closing : firstCall? (close session.workId) session = some (.stop session.workId) := by
    rw [close, if_neg named]
    rfl
  refine firstCall?_bind ?_
  change firstCall? (close session.workId >>= fun _ => modify fun _ => .fresh settings) session = _
  exact firstCall?_bind closing

theorem firstCall?_move_bind {phase : Phase} {workId : String} {moved : Session}
    {next : Unit → Watching (Option Status)}
    (h : session.move settings phase workId = .ok moved) :
    firstCall? (move settings phase workId >>= next) session = firstCall? (next ()) moved := by
  change firstCall? (((ofExcept (session.move settings phase workId)).bind fun moved =>
    modify fun _ => moved).bind next) session = _
  rw [h]
  rfl

theorem firstCall?_of_isOpen (isOpen : session.phase.isOpen = true) (named : session.workId ≠ "") :
    firstCall? (snapshot settings family) session =
      some (if 0 < settings.retries then .poll session.workId else .stop session.workId) := by
  refine firstCall?_locked ?_
  have again : firstCall? (cycle settings family settings.retries.toNat) session =
      firstCall? (polls settings family session.workId settings.retries.toNat)
        { session with retriesLeft := settings.retries } := by
    change firstCall? (if session.phase.isOpen = true then _ else _) session = _
    rw [if_pos isOpen]
    rfl
  rw [again]
  split
  · next positive =>
    obtain ⟨n, retries⟩ : ∃ n, settings.retries.toNat = n + 1 :=
      ⟨settings.retries.toNat - 1, by omega⟩
    have moves : Session.move settings { session with retriesLeft := settings.retries } .polling "" =
        .ok { session with phase := .polling, retriesLeft := settings.retries } :=
      Session.move_ok (Phase.polling_mem_next isOpen) (by simp)
    rw [retries, polls]
    change firstCall? (if settings.retries ≤ 0 then _ else _) _ = _
    rw [if_neg (by omega), firstCall?_move_bind moves]
    rfl
  · next none =>
    have empty : settings.retries.toNat = 0 := by omega
    rw [empty]
    exact firstCall?_exhaust named

end NextCycle

theorem Operation.guarded_rested {settings : Settings} {task : Nat} (operation : Operation) :
    (operation.activity settings).Guarded Rested (fun _ _ => True) task none := by
  cases operation with
  | snapshot family => exact guarded_locked fun session trace rested => ends_cycle rested
  | forceStop =>
    refine guarded_bind (guarded_locked fun session trace rested => ?_) fun _ => trivial
    refine wp_abandon_fresh (fun unnamed => ?_) fun trace whole => rested_fresh whole
    rcases rested with ⟨-, whole⟩ | ⟨-, named, -⟩
    · exact whole
    · exact absurd unnamed named

/-- Between two operations the session is closed, and the next cycle begins with a start, unless the
last that happened is a poll or a pause that broke a cycle off: then the work is still open. -/
theorem rested_play (settings : Settings) (moves : List (Move remote Operation))
    (free : (watched settings moves).holder? = none) :
    let scene := watched settings moves
    (scene.state.IsClosed ↔ ¬ BrokenOff scene.trace) ∧
      (BrokenOff scene.trace → scene.state.phase = .polling ∧ scene.state.workId ≠ "") ∧
      ∀ family, firstCall? (snapshot settings family) scene.state = some .start ↔
        ¬ BrokenOff scene.trace := by
  intro scene
  have initially : Rested (.fresh settings) [] := rested_fresh (by simp [BrokenOff])
  have kept : scene.Kept Rested fun _ _ => True :=
    Scene.kept_play initially (fun operation _ => operation.guarded_rested) moves
  rcases kept.free free with ⟨closed, whole⟩ | ⟨polling, named, broken⟩
  · exact ⟨iff_of_true closed whole, fun broken => absurd broken whole,
      fun family => iff_of_true (firstCall?_of_isClosed closed) whole⟩
  · have isOpen : scene.state.phase.isOpen = true := by simp [polling, Phase.isOpen]
    refine ⟨iff_of_false (fun closed => named closed.1) (not_not_intro broken),
      fun _ => ⟨polling, named⟩, fun family => iff_of_false ?_ (not_not_intro broken)⟩
    rw [firstCall?_of_isOpen isOpen named]
    split <;> simp

def brokenReplies : Replies remote
  | .start => .ok "work"
  | .poll _ => .error (.foreign "OSError" "")
  | .stop _ => .ok ()
  | .pause _ => .ok ()

def brokenMoves : List (Move remote Operation) :=
  [.enter (.snapshot .airConditioner), .answer 0 brokenReplies, .answer 0 brokenReplies]

theorem not_isClosed_broken : (watched { device := "device" } brokenMoves).holder? = none ∧
    (watched { device := "device" } brokenMoves).state.phase = .polling ∧
    ¬ (watched { device := "device" } brokenMoves).state.IsClosed := by
  have left : (watched { device := "device" } brokenMoves).state =
      { phase := .polling, workId := "work", retriesLeft := 10 } := rfl
  refine ⟨rfl, congrArg Session.phase left, ?_⟩
  rintro ⟨unnamed, -⟩
  rw [left] at unnamed
  exact absurd unnamed (by decide)

def mendedMoves : List (Move remote Operation) :=
  brokenMoves ++ [.enter .forceStop, .answer 1 brokenReplies]

theorem rested_mended : (watched { device := "device" } mendedMoves).holder? = none ∧
    (watched { device := "device" } mendedMoves).state.IsClosed := by
  have free : (watched { device := "device" } mendedMoves).holder? = none := rfl
  have last : (watched { device := "device" } mendedMoves).trace.getLast? =
      some (1, .answered (.stop "work") (.ok ())) := rfl
  refine ⟨free, (rested_play _ mendedMoves free).1.2 ?_⟩
  rintro ⟨event, member, breaks⟩
  rw [last] at member
  cases member
  exact breaks

end Watch

end ApplianceCloud
