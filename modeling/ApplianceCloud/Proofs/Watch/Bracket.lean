import ApplianceCloud.Proofs.Interleaving.Lock
import ApplianceCloud.Proofs.Watch.Contract

/-!
# Works are opened, polled and closed in turn

The calls of a report session form a row of `Block`s: a start that opens no work, or a work with its
start, its polls and its one stop. Only the last work may still be without its stop. `bracketed_play`
says so of cycles and forced stops that come in any order and at the same time.
-/

namespace ApplianceCloud.Watch

open Activity

abbrev RemoteEvent := Occurrence remote

def WatchCall.isPause : WatchCall → Bool
  | .pause _ => true
  | _ => false

def called : RemoteEvent → WatchCall
  | .asked what => what
  | .answered what _ => what

def remoteEvents (trace : Trace remote) : List RemoteEvent :=
  (trace.map Prod.snd).filter fun event => !(called event).isPause

def exchange (what : WatchCall) (answer : Except Failure (remote.Answer what)) : List RemoteEvent :=
  [.asked what, .answered what answer]

/-- The work that a start opens: none if it fails, or if it is answered without an identifier. -/
def openedWork? : Except Failure String → Option String
  | .ok workId => workOf? workId
  | .error _ => none

def openEvents (workId : String) (polls : List (Except Failure (Option Status))) : List RemoteEvent :=
  exchange .start (.ok workId) ++ polls.flatMap (exchange (.poll workId))

/-- What happens to a work from its start to its stop, or to a start that opens none. -/
inductive Block where
  | refused (answer : Except Failure String) (opensNone : openedWork? answer = none)
  | closed (workId : String) (named : workId ≠ "") (polls : List (Except Failure (Option Status)))
      (stopped : Except Failure Unit)

def Block.events : Block → List RemoteEvent
  | refused answer _ => exchange .start answer
  | closed workId _ polls stopped => openEvents workId polls ++ exchange (.stop workId) stopped

def Bracketed (events : List RemoteEvent) (open? : Option String) : Prop :=
  ∃ blocks : List Block, match open? with
    | none => events = blocks.flatMap Block.events
    | some workId => workId ≠ "" ∧ ∃ polls,
        events = blocks.flatMap Block.events ++ openEvents workId polls

namespace Bracketed

variable {events : List RemoteEvent} {workId : String}

theorem refused (h : Bracketed events none) (answer : Except Failure String)
    (opensNone : openedWork? answer = none) :
    Bracketed (events ++ exchange .start answer) none := by
  obtain ⟨blocks, rfl⟩ := h
  exact ⟨blocks ++ [.refused answer opensNone], by simp [Block.events]⟩

theorem opened (h : Bracketed events none) (named : workId ≠ "") :
    Bracketed (events ++ exchange .start (.ok workId)) (some workId) := by
  obtain ⟨blocks, rfl⟩ := h
  exact ⟨blocks, named, [], by simp [openEvents]⟩

theorem polled (h : Bracketed events (some workId)) (answer : Except Failure (Option Status)) :
    Bracketed (events ++ exchange (.poll workId) answer) (some workId) := by
  obtain ⟨blocks, named, polls, rfl⟩ := h
  exact ⟨blocks, named, polls ++ [answer], by simp [openEvents]⟩

theorem closed (h : Bracketed events (some workId)) (stopped : Except Failure Unit) :
    Bracketed (events ++ exchange (.stop workId) stopped) none := by
  obtain ⟨blocks, named, polls, rfl⟩ := h
  exact ⟨blocks ++ [.closed workId named polls stopped], by simp [Block.events]⟩

end Bracketed

def openAfter (open? : Option String) : RemoteEvent → Option String
  | .answered .start answer => (openedWork? answer).or open?
  | .answered (.stop _) _ => none
  | _ => open?

theorem foldl_openAfter_polls {workId : String} (polls : List (Except Failure (Option Status)))
    (open? : Option String) :
    (polls.flatMap (exchange (.poll workId))).foldl openAfter open? = open? := by
  induction polls with
  | nil => rfl
  | cons answer rest ih => exact ih

theorem foldl_openAfter_openEvents {workId : String} (named : workId ≠ "")
    (polls : List (Except Failure (Option Status))) (open? : Option String) :
    (openEvents workId polls).foldl openAfter open? = some workId := by
  rw [openEvents, List.foldl_append, foldl_openAfter_polls]
  simp [exchange, openAfter, openedWork?, workOf?_eq_some named]

theorem foldl_openAfter_block (block : Block) : block.events.foldl openAfter none = none := by
  cases block with
  | refused answer opensNone => simp [Block.events, exchange, openAfter, opensNone]
  | closed workId named polls stopped =>
    rw [Block.events, List.foldl_append, foldl_openAfter_openEvents named]
    rfl

theorem foldl_openAfter_blocks (blocks : List Block) :
    (blocks.flatMap Block.events).foldl openAfter none = none := by
  induction blocks with
  | nil => rfl
  | cons block rest ih => rw [List.flatMap_cons, List.foldl_append, foldl_openAfter_block, ih]

theorem Bracketed.foldl_openAfter {events : List RemoteEvent} {open? : Option String}
    (h : Bracketed events open?) : events.foldl openAfter none = open? := by
  obtain ⟨blocks, h⟩ := h
  cases open? with
  | none => rw [h, foldl_openAfter_blocks]
  | some workId =>
    obtain ⟨named, polls, rfl⟩ := h
    rw [List.foldl_append, foldl_openAfter_blocks, foldl_openAfter_openEvents named]

theorem Bracketed.unique {events : List RemoteEvent} {open? other? : Option String}
    (h : Bracketed events open?) (h' : Bracketed events other?) : other? = open? :=
  h'.foldl_openAfter.symm.trans h.foldl_openAfter

def Beginning (events : List RemoteEvent) : Prop :=
  ∃ rest open?, Bracketed (events ++ rest) open?

theorem Bracketed.beginning {events : List RemoteEvent} {open? : Option String}
    (h : Bracketed events open?) : Beginning events :=
  ⟨[], open?, by simpa using h⟩

theorem Bracketed.asked {events : List RemoteEvent} {open? : Option String} {what : WatchCall}
    {answer : Except Failure (remote.Answer what)}
    (h : Bracketed (events ++ exchange what answer) open?) : Beginning (events ++ [.asked what]) :=
  ⟨[.answered what answer], open?, by simpa [exchange] using h⟩

section RemoteEvents

variable {trace : Trace remote} {task : Nat} {what : WatchCall}
variable {answer : Except Failure (remote.Answer what)}

theorem remoteEvents_asked (h : what.isPause = false) :
    remoteEvents (trace ++ [(task, .asked what)]) = remoteEvents trace ++ [.asked what] := by
  simp [remoteEvents, called, h]

theorem remoteEvents_answered (h : what.isPause = false) :
    remoteEvents (trace ++ [(task, .asked what)] ++ [(task, .answered what answer)]) =
      remoteEvents trace ++ exchange what answer := by
  simp [remoteEvents, called, exchange, h]

theorem remoteEvents_asked_pause (h : what.isPause = true) :
    remoteEvents (trace ++ [(task, .asked what)]) = remoteEvents trace := by
  simp [remoteEvents, called, h]

theorem remoteEvents_answered_pause (h : what.isPause = true) :
    remoteEvents (trace ++ [(task, .asked what)] ++ [(task, .answered what answer)]) =
      remoteEvents trace := by
  simp [remoteEvents, called, h]

end RemoteEvents

structure Orderly (session : Session) (trace : Trace remote) : Prop where
  consistent : session.Consistent
  bracketed : Bracketed (remoteEvents trace) session.openWork?

def Waiting (_ : Session) (trace : Trace remote) : Prop := Beginning (remoteEvents trace)

variable {settings : Settings} {session : Session} {trace : Trace remote} {task : Nat}

theorem wp_stop {workId : String} {post : Except Failure Unit → Session → Trace remote → Prop}
    (h : Bracketed (remoteEvents trace) (workOf? workId))
    (done : ∀ trace, Bracketed (remoteEvents trace) none → post (.ok ()) session trace) :
    (close workId).wp Waiting task post session trace := by
  unfold close
  split
  · next unnamed =>
    rw [unnamed] at h
    exact done trace h
  · next named =>
    rw [workOf?_eq_some named] at h
    rw [wp_bind, wp_answerTo]
    refine ⟨?_, fun answer => done _ ?_⟩
    · rw [Waiting, remoteEvents_asked rfl]
      exact (h.closed (.ok ())).asked
    · rw [remoteEvents_answered rfl]
      exact h.closed answer

theorem wp_abandon {workId : String} {post : Except Failure Unit → Session → Trace remote → Prop}
    (h : Bracketed (remoteEvents trace) (workOf? (if workId = "" then session.workId else workId)))
    (done : ∀ trace, Bracketed (remoteEvents trace) none → post (.ok ()) (.fresh settings) trace) :
    (abandon settings workId).wp Waiting task post session trace := by
  simp only [abandon, wp_bind, wp_gets, id, thenPost_ok]
  exact wp_stop h fun trace stopped => done trace stopped

theorem orderly_closed (consistent : session.Consistent) (closed : session.phase.isOpen = false)
    (h : Bracketed (remoteEvents trace) none) : Orderly session trace :=
  ⟨consistent, by simpa [Session.openWork?, closed] using h⟩

theorem orderly_fresh (h : Bracketed (remoteEvents trace) none) : Orderly (.fresh settings) trace :=
  ⟨Session.fresh_consistent settings, h⟩

theorem wp_endBy {family : Family} {wrap : String → CallFault} {failure : Failure}
    (h : Orderly session trace) :
    (endBy settings family wrap failure).wp Waiting task (fun _ => Orderly) session trace := by
  have known : Bracketed (remoteEvents trace) (workOf? session.workId) :=
    h.consistent.openWork? ▸ h.bracketed
  unfold endBy
  split
  · rw [wp_bind]
    refine wp_abandon known fun trace stopped => ?_
    simp only [thenPost_ok, wp_bind, wp_lift]
    cases Status.offline family with
    | ok status => exact orderly_fresh stopped
    | error failure => exact orderly_fresh stopped
  · split
    · rw [wp_bind]
      exact wp_abandon known fun trace stopped => orderly_fresh stopped
    · exact h

structure Ongoing (session : Session) (workId : String) (trace : Trace remote) : Prop where
  isOpen : session.phase.isOpen = true
  known : session.workId = workId
  bracketed : Bracketed (remoteEvents trace) (some workId)

theorem Ongoing.named {workId : String} (h : Ongoing session workId trace) : workId ≠ "" := by
  obtain ⟨_, named, _⟩ := h.bracketed
  exact named

theorem Ongoing.orderly {workId : String} (h : Ongoing session workId trace) :
    Orderly session trace := by
  refine ⟨?_, ?_⟩
  · simp [Session.Consistent, h.isOpen, h.known, h.named]
  · rw [Session.openWork?, if_pos h.isOpen, h.known]
    exact h.bracketed

theorem Ongoing.pause {workId : String} (h : Ongoing session workId trace) (task : Nat)
    (seconds : Binary64) (answer : Except Failure (remote.Answer (.pause seconds))) :
    Ongoing session workId
      (trace ++ [(task, .asked (.pause seconds))] ++
        [(task, .answered (.pause seconds) answer)]) := by
  refine ⟨h.isOpen, h.known, ?_⟩
  rw [remoteEvents_answered_pause rfl]
  exact h.bracketed

theorem wp_exhaust {workId : String} (h : Ongoing session workId trace) :
    (exhaust settings).wp Waiting task (fun _ => Orderly) session trace := by
  rw [exhaust, wp_bind]
  refine wp_abandon ?_ fun trace stopped => orderly_fresh stopped
  rw [if_pos rfl, h.known, workOf?_eq_some h.named]
  exact h.bracketed

theorem wp_polls {family : Family} {workId : String} (bound : Nat)
    (h : Ongoing session workId trace) :
    (polls settings family workId bound).wp Waiting task (fun _ => Orderly) session trace := by
  -- The work stays open from one poll to the next, so `Ongoing` carries the induction.
  induction bound generalizing session trace with
  | zero => exact wp_exhaust h
  | succ bound ih =>
    have moves : session.move settings .polling "" = .ok { session with phase := .polling } :=
      Session.move_ok (Phase.polling_mem_next h.isOpen) (by simp)
    rw [polls, wp_bind, wp_gets, thenPost_ok]
    split
    · exact wp_exhaust h
    rw [wp_bind, wp_move moves, thenPost_ok, wp_bind, wp_answerTo]
    refine ⟨?_, fun answer => ?_⟩
    · rw [Waiting, remoteEvents_asked rfl]
      exact (h.bracketed.polled (.ok none)).asked
    have polled : Bracketed (remoteEvents (trace ++ [(task, .asked (.poll workId))] ++
        [(task, .answered (.poll workId) answer)])) (some workId) := by
      rw [remoteEvents_answered rfl]
      exact h.bracketed.polled answer
    rw [thenPost_ok]
    split
    · rw [wp_bind]
      refine wp_stop (by rwa [workOf?_eq_some h.named]) fun trace stopped => ?_
      rw [thenPost_ok, wp_bind, wp_move (Session.move_ok (by simp [Phase.next]) (by simp)),
        thenPost_ok]
      exact orderly_closed (by simp [Session.Consistent, Session.enter, Phase.isOpen]) rfl stopped
    · have again : Ongoing { session with
          phase := .polling, retriesLeft := session.retriesLeft - 1 } workId _ :=
        ⟨rfl, h.known, polled⟩
      rw [wp_bind, wp_modify, thenPost_ok, wp_bind, wp_gets, thenPost_ok]
      split
      · rw [wp_bind, wp_ask]
        refine ⟨?_, fun answer => ?_⟩
        · rw [Waiting, remoteEvents_asked_pause rfl]
          exact polled.beginning
        · have paused := again.pause task settings.interval answer
          cases answer with
          | error failure => exact paused.orderly
          | ok _ => exact ih paused
      · exact ih again
    · rw [wp_bind, wp_move (Session.move_ok (by simp [Phase.next]) (by simp)), thenPost_ok, wp_bind]
      refine wp_abandon ?_ fun trace stopped => orderly_fresh stopped
      rwa [if_neg h.named, workOf?_eq_some h.named]
    · exact wp_endBy (Ongoing.orderly ⟨rfl, h.known, polled⟩)

theorem wp_pollOpen {family : Family} {bound : Nat} (h : Orderly session trace)
    (isOpen : session.phase.isOpen = true) :
    (pollOpen settings family bound).wp Waiting task (fun _ => Orderly) session trace := by
  have bracketed := h.bracketed
  rw [Session.openWork?, if_pos isOpen] at bracketed
  simp only [pollOpen, wp_bind, wp_gets, wp_modify, thenPost_ok, id]
  exact wp_polls _ ⟨isOpen, rfl, bracketed⟩

theorem wp_begun {family : Family} {bound : Nat} (answer : Except Failure String)
    (consistent : session.Consistent) (closed : session.phase.isOpen = false)
    (h : ∀ workId, workId ≠ "" → answer = .ok workId → Bracketed (remoteEvents trace) (some workId))
    (refused : openedWork? answer = none → Bracketed (remoteEvents trace) none) :
    (match answer with
      | .ok workId => do
          move settings .started workId
          pollOpen settings family bound
      | .error failure => endBy settings family (.startFailed settings.device) failure).wp Waiting task
        (fun _ => Orderly) session trace := by
  cases answer with
  | ok workId =>
    by_cases named : workId = ""
    · have stays : session.move settings .started workId = .error (.phase .noWorkId) :=
        Session.move_unnamed closed named
      rw [wp_bind, wp_move_error stays, thenPost_error]
      exact orderly_closed consistent closed (refused (by simp [openedWork?, workOf?, named]))
    · have moves : session.move settings .started workId =
          .ok (session.enter settings .started workId) :=
        Session.move_ok (Phase.started_mem_next closed) fun _ => named
      have begun : Ongoing (session.enter settings .started workId) workId trace :=
        ⟨rfl, rfl, h workId named rfl⟩
      rw [wp_bind, wp_move moves, thenPost_ok]
      exact wp_pollOpen begun.orderly rfl
  | error failure => exact wp_endBy (orderly_closed consistent closed (refused rfl))

theorem wp_cycle {family : Family} {bound : Nat} (h : Orderly session trace) :
    (cycle settings family bound).wp Waiting task (fun _ => Orderly) session trace := by
  rw [cycle, wp_bind, wp_gets, thenPost_ok]
  split
  · next isOpen => exact wp_pollOpen h isOpen
  · next isClosed =>
    have closed : session.phase.isOpen = false := by simpa using isClosed
    have none : Bracketed (remoteEvents trace) none := by
      simpa [Session.openWork?, closed] using h.bracketed
    rw [wp_bind, wp_answerTo]
    refine ⟨?_, fun answer => ?_⟩
    · rw [Waiting, remoteEvents_asked rfl]
      exact (none.refused (.error (.foreign "" "")) rfl).asked
    · rw [thenPost_ok]
      refine wp_begun answer h.consistent closed (fun workId named opened => ?_) fun opensNone => ?_
      · rw [remoteEvents_answered rfl, opened]
        exact none.opened named
      · rw [remoteEvents_answered rfl]
        exact none.refused answer opensNone

inductive Operation where
  | snapshot (family : Family)
  | forceStop

def Operation.activity (settings : Settings) : Operation → Watching (Option Status)
  | snapshot family => Watch.snapshot settings family
  | forceStop => do
      Watch.forceStop settings
      return none

theorem Operation.guarded (operation : Operation) :
    (operation.activity settings).Guarded Orderly Waiting task none := by
  cases operation with
  | snapshot family => exact guarded_locked fun session trace h => wp_cycle h
  | forceStop =>
    refine guarded_bind (guarded_locked fun session trace h => ?_) fun _ => trivial
    refine wp_abandon ?_ fun trace stopped => orderly_fresh stopped
    rw [if_pos rfl, ← h.consistent.openWork?]
    exact h.bracketed

abbrev watched (settings : Settings) (moves : List (Move remote Operation)) :
    Scene remote Session (Option Status) :=
  Scene.play (Operation.activity settings) (.fresh settings) moves

/-- At every moment the calls are the beginning of a row of blocks, and whenever no operation is in
the middle of its calls they are such a row, whose last work is without its stop exactly if the
session is in an open phase with that work. -/
theorem bracketed_play (settings : Settings) (moves : List (Move remote Operation)) :
    let scene := watched settings moves
    Beginning (remoteEvents scene.trace) ∧
      (scene.holder? = none → ∀ open?,
        Bracketed (remoteEvents scene.trace) open? ↔ open? = scene.state.openWork?) := by
  intro scene
  have initially : Orderly (.fresh settings) [] := orderly_fresh ⟨[], rfl⟩
  have kept : scene.Kept Orderly Waiting :=
    Scene.kept_play initially (fun operation _ => operation.guarded) moves
  have settled (none : scene.holder? = none) :
      Bracketed (remoteEvents scene.trace) scene.state.openWork? := (kept.free none).bracketed
  refine ⟨?_, fun none open? => ⟨fun h => (settled none).unique h, fun h => h ▸ settled none⟩⟩
  cases held : scene.holder? with
  | none => exact (settled held).beginning
  | some task =>
    obtain ⟨stage, -, waits⟩ := kept.engaged task trivial held
    cases stage with
    | calling what next => exact waits.1
    | queued next => exact waits.elim
    | ended result => exact waits.elim

end ApplianceCloud.Watch
