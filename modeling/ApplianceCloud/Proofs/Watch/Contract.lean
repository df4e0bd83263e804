import ApplianceCloud.Proofs.Interleaving.Contract
import ApplianceCloud.Watch.Cycle

namespace ApplianceCloud.Watch

open Activity

def Session.Consistent (session : Session) : Prop := session.phase.isOpen = true ↔ session.workId ≠ ""

def Session.openWork? (session : Session) : Option String :=
  if session.phase.isOpen then some session.workId else none

def workOf? (workId : String) : Option String := if workId = "" then none else some workId

theorem workOf?_eq_some {workId : String} (named : workId ≠ "") : workOf? workId = some workId :=
  if_neg named

theorem Session.Consistent.openWork? {session : Session} (h : session.Consistent) :
    session.openWork? = workOf? session.workId := by
  unfold Session.openWork? workOf?
  by_cases isOpen : session.phase.isOpen
  · rw [if_pos isOpen, if_neg (h.1 isOpen)]
  · rw [if_neg isOpen, if_pos (Decidable.byContradiction fun named => isOpen (h.2 named))]

theorem Session.fresh_consistent (settings : Settings) : (Session.fresh settings).Consistent := by
  simp [Session.Consistent, Session.fresh, Phase.isOpen]

theorem Session.move_ok {settings : Settings} {session : Session} {phase : Phase} {workId : String}
    (follows : phase ∈ session.phase.next) (named : phase = .started → workId ≠ "") :
    session.move settings phase workId = .ok (session.enter settings phase workId) := by
  unfold Session.move
  rw [if_neg (by simpa using follows), if_neg]
  rintro ⟨starts, unnamed⟩
  exact named starts unnamed

theorem Session.move_unnamed {settings : Settings} {session : Session} {workId : String}
    (closed : session.phase.isOpen = false) (unnamed : workId = "") :
    session.move settings .started workId = .error (.phase .noWorkId) := by
  unfold Session.move
  rw [if_neg, if_pos ⟨rfl, unnamed⟩]
  cases h : session.phase <;> simp_all [Phase.next, Phase.isOpen]

theorem Phase.started_mem_next {phase : Phase} (closed : phase.isOpen = false) :
    .started ∈ phase.next := by
  cases phase <;> simp_all [Phase.next, Phase.isOpen]

theorem Phase.polling_mem_next {phase : Phase} (isOpen : phase.isOpen = true) :
    .polling ∈ phase.next := by
  cases phase <;> simp_all [Phase.next, Phase.isOpen]

variable {settings : Settings} {pending : Session → Trace remote → Prop} {task : Nat}
variable {session : Session} {trace : Trace remote}

section Steps

variable {post : Except Failure Unit → Session → Trace remote → Prop}

theorem wp_move {phase : Phase} {workId : String} {moved : Session}
    (h : session.move settings phase workId = .ok moved) :
    (move settings phase workId).wp pending task post session trace ↔ post (.ok ()) moved trace := by
  simp [move, h]

theorem wp_move_error {phase : Phase} {workId : String} {failure : Failure}
    (h : session.move settings phase workId = .error failure) :
    (move settings phase workId).wp pending task post session trace ↔
      post (.error failure) session trace := by
  simp [move, h]

end Steps

@[simp] theorem wp_answerTo {what : WatchCall}
    {post : Except Failure (Except Failure (remote.Answer what)) → Session → Trace remote → Prop} :
    (answerTo what).wp pending task post session trace ↔
      pending session (trace ++ [(task, .asked what)]) ∧ ∀ answer, post (.ok answer) session
        (trace ++ [(task, .asked what)] ++ [(task, .answered what answer)]) := by
  rw [answerTo, wp_attempt, wp_ask]

end ApplianceCloud.Watch
