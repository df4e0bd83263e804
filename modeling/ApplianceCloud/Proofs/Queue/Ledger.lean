import ApplianceCloud.Proofs.Queue.Moves
import Mathlib.Data.List.Nodup
import Mathlib.Data.List.Pairwise

/-!
# Every accepted command is accounted for

Every accepted command gets a `Ticket` with the number of its acceptance, and the log says what became
of it. A ticket has one `Fate` at every moment, and commands are begun in the order of their acceptance,
without a gap as long as the queue is not stopped. Two commands are in flight only if a start falls
into a stop, after the worker has left: the stop then forgets the new worker, and the next start adds
another one.
-/

namespace ApplianceCloud

variable {κ : Type}

namespace QueueRun

open QueueEvent

/-- The law of a queue: tickets are numbered as they are accepted, every ticket has one fate, those
that were begun are the finished, abandoned and current ones, in the order of acceptance and before
those that wait, and since the last stop no ticket was left out. -/
structure Conserved (run : QueueRun κ) : Prop where
  numbered : (run.tickets .accepted).map Ticket.number = List.range (run.tickets .accepted).length
  balanced : (run.tickets .accepted).Perm (Fate.all.flatMap run.having)
  begun : (run.tickets .begun).Perm
    (run.having .finished ++ run.having .abandoned ++ run.having .inFlight)
  inOrder : (run.tickets .begun ++ run.queue.waiting).Sublist (run.tickets .accepted)
  gapFree : ticketsOf .accepted (sinceStop run.log) =
    ticketsOf .begun (sinceStop run.log) ++ run.queue.waiting

section Note

variable (run : QueueRun κ) (queue : CommandQueue (Ticket κ)) (events : List (QueueEvent κ))

@[simp] theorem tickets_note (mark : Mark) :
    (run.note queue events).tickets mark = run.tickets mark ++ ticketsOf mark events :=
  ticketsOf_append mark run.log events

@[simp] theorem queue_note : (run.note queue events).queue = queue := rfl

@[simp] theorem astray_note : (run.note queue events).astray = run.astray := rfl

theorem sinceStop_note (going : ∀ event ∈ events, event.isStopped = false) :
    sinceStop (run.note queue events).log = sinceStop run.log ++ events :=
  sinceStop_append run.log going

end Note

theorem having_inFlight (run : QueueRun κ) :
    run.having .inFlight = run.queue.inFlight?.toList ++ run.astray := rfl

open Classical in
theorem balanced_iff (run : QueueRun κ) :
    (run.tickets .accepted).Perm (Fate.all.flatMap run.having) ↔
    ∀ ticket, (run.tickets .accepted).count ticket = (run.tickets .finished).count ticket +
      (run.having .inFlight).count ticket + run.queue.waiting.count ticket +
      (run.tickets .abandoned).count ticket + (run.tickets .discarded).count ticket := by
  simp [List.perm_iff_count, Fate.all, having, Nat.add_assoc]

open Classical in
theorem begun_iff (run : QueueRun κ) : (run.tickets .begun).Perm
      (run.having .finished ++ run.having .abandoned ++ run.having .inFlight) ↔
    ∀ ticket, (run.tickets .begun).count ticket = (run.tickets .finished).count ticket +
      (run.tickets .abandoned).count ticket + (run.having .inFlight).count ticket := by
  simp [List.perm_iff_count, having, Nat.add_assoc]

variable {run : QueueRun κ} {queue : CommandQueue (Ticket κ)} {ticket : Ticket κ}

theorem Conserved.congr {other : QueueRun κ} (h : run.Conserved) (log : other.log = run.log)
    (waiting : other.queue.waiting = run.queue.waiting)
    (inFlight : (other.having .inFlight).Perm (run.having .inFlight)) : other.Conserved := by
  classical
  have tickets (mark : Mark) : other.tickets mark = run.tickets mark := congrArg (ticketsOf mark) log
  refine ⟨?_, ?_, ?_, ?_, ?_⟩
  · simpa only [tickets] using h.numbered
  · rw [balanced_iff]
    intro ticket
    simpa only [tickets, waiting, inFlight.count_eq] using (balanced_iff run).1 h.balanced ticket
  · rw [begun_iff]
    intro ticket
    simpa only [tickets, inFlight.count_eq] using (begun_iff run).1 h.begun ticket
  · simpa only [tickets, waiting] using h.inOrder
  · simpa only [log, waiting] using h.gapFree

theorem Conserved.exchange (h : run.Conserved) (who : Option Nat) : (run.exchange who).Conserved :=
  h.congr (run.log_exchange who) (run.waiting_exchange who) (run.inFlight_exchange who)

theorem inFlight_forget (run : QueueRun κ) :
    (run.forget.having .inFlight).Perm (run.having .inFlight) := by
  cases worker : run.queue.worker <;>
    simp [having, astray, forget, CommandQueue.inFlight?_eq, CommandQueue.isRunning, worker,
      Worker.inHand?]

theorem Conserved.enqueue (h : run.Conserved) {command : κ}
    (accepted : run.queue.enqueue (run.ticketFor command) = .ok queue) :
    (run.note queue [.marked .accepted (run.ticketFor command)]).Conserved := by
  obtain ⟨waiting, inFlight⟩ := CommandQueue.enqueue_ok accepted
  refine ⟨?_, ?_, ?_, ?_, ?_⟩
  · simp [h.numbered, List.range_succ, ticketFor]
  · rw [balanced_iff]
    intro ticket
    have before := (balanced_iff run).1 h.balanced ticket
    simp [having_inFlight, waiting, inFlight] at before ⊢
    omega
  · rw [begun_iff]
    simpa [having_inFlight, inFlight] using (begun_iff run).1 h.begun
  · simpa [waiting] using h.inOrder.append_right [run.ticketFor command]
  · rw [sinceStop_note _ _ _ (by simp [isStopped])]
    simp [h.gapFree, waiting]

theorem Conserved.rejected (h : run.Conserved) (command : κ) :
    (run.note run.queue [.rejected command]).Conserved where
  numbered := by simpa using h.numbered
  balanced := by simpa [Fate.all, having] using h.balanced
  begun := by simpa [having] using h.begun
  inOrder := by simpa using h.inOrder
  gapFree := by
    rw [sinceStop_note _ _ _ (by simp [isStopped])]
    simpa using h.gapFree

theorem Conserved.take (h : run.Conserved) (next : run.queue.next? = some (ticket, queue)) :
    (run.note queue [.marked .begun ticket]).Conserved := by
  obtain ⟨waiting, idle, inFlight⟩ := CommandQueue.next?_some next
  refine ⟨?_, ?_, ?_, ?_, ?_⟩
  · simpa using h.numbered
  · rw [balanced_iff]
    intro other
    have before := (balanced_iff run).1 h.balanced other
    simp [having_inFlight, waiting, idle, inFlight, List.count_cons] at before ⊢
    omega
  · rw [begun_iff]
    intro other
    have before := (begun_iff run).1 h.begun other
    simp [having_inFlight, idle, inFlight, List.count_cons] at before ⊢
    omega
  · simpa [waiting] using h.inOrder
  · rw [sinceStop_note _ _ _ (by simp [isStopped])]
    simp [h.gapFree, waiting]

theorem Conserved.leave (h : run.Conserved) {mark : Mark}
    (leaves : mark = .finished ∨ mark = .abandoned)
    (waiting : queue.waiting = run.queue.waiting) (idle : queue.inFlight? = none) :
    (run.note queue (run.queue.inFlight?.toList.map (.marked mark))).Conserved := by
  refine ⟨?_, ?_, ?_, ?_, ?_⟩
  · obtain rfl | rfl := leaves <;> simpa using h.numbered
  · rw [balanced_iff]
    intro other
    have before := (balanced_iff run).1 h.balanced other
    obtain rfl | rfl := leaves <;> simp [having_inFlight, waiting, idle] at before ⊢ <;> omega
  · rw [begun_iff]
    intro other
    have before := (begun_iff run).1 h.begun other
    obtain rfl | rfl := leaves <;> simp [having_inFlight, idle] at before ⊢ <;> omega
  · obtain rfl | rfl := leaves <;> simpa [waiting] using h.inOrder
  · rw [sinceStop_note _ _ _ (by simp [isStopped])]
    obtain rfl | rfl := leaves <;> simpa [waiting] using h.gapFree

theorem Conserved.clear (h : run.Conserved) : run.clear.Conserved := by
  unfold QueueRun.clear
  refine ⟨?_, ?_, ?_, ?_, ?_⟩
  · simpa using h.numbered
  · rw [balanced_iff]
    intro other
    have before := (balanced_iff run).1 h.balanced other
    simp [having_inFlight] at before ⊢
    omega
  · rw [begun_iff]
    simpa [having_inFlight] using (begun_iff run).1 h.begun
  · simpa using (List.sublist_append_left _ _).trans h.inOrder
  · have none : sinceStop (run.note run.queue.discard
        (run.queue.waiting.map (.marked .discarded) ++ [.stopped])).log = [] := by
      rw [note, ← List.append_assoc, sinceStop_append_stopped]
    simp [none]

theorem Conserved.work (h : run.Conserved) {next : WorkerMove} {after : QueueRun κ}
    (step : WorkStep run next after) : after.Conserved := by
  cases step with
  | begun _ taken => exact h.take taken
  | finished _ busy =>
    obtain ⟨waiting, idle⟩ := CommandQueue.finish_busy busy _ _
    simpa [busy] using h.leave (.inl rfl) waiting idle
  | left _ dismissed =>
    obtain ⟨waiting, idle⟩ := CommandQueue.dismiss_ok dismissed
    exact (h.leave (.inr rfl) waiting idle).congr rfl rfl (.refl _)
  | impossible => exact h

theorem Conserved.step (h : run.Conserved) {next : QueueMove κ} {after : QueueRun κ}
    (step : QueueStep run next after) : after.Conserved := by
  cases step with
  | accepted accepted => exact h.enqueue accepted
  | rejected => exact h.rejected _
  | started =>
    refine h.congr (List.append_nil _) CommandQueue.start_waiting ?_
    rw [having_inFlight, queue_note, CommandQueue.start_inFlight?]
    exact .refl _
  | worked _ step => exact ((h.exchange _).work step).exchange _
  | cancelled => exact h.congr rfl rfl (.refl _)
  | stopped => exact h.clear
  | discarded =>
    have forgotten : run.forget.Conserved := h.congr rfl rfl run.inFlight_forget
    exact forgotten.clear.congr rfl rfl (.refl _)
  | impossible => exact h

theorem conserved_play (device : String) (limit? : Option Nat) (moves : List (QueueMove κ)) :
    (play device limit? moves).Conserved := by
  have unused : ({ queue := { device, limit? } } : QueueRun κ).Conserved :=
    ⟨rfl, .refl _, .refl _, .refl _, rfl⟩
  exact foldl_of_step Conserved (fun law step => law.step step) unused moves

section Conserved

variable (h : run.Conserved)
include h

theorem Conserved.getElem?_number (accepted : ticket ∈ run.tickets .accepted) :
    (run.tickets .accepted)[ticket.number]? = some ticket := by
  obtain ⟨index, below, rfl⟩ := List.mem_iff_getElem.1 accepted
  have number := congrArg (·[index]?) h.numbered
  simp only [List.getElem?_map, List.getElem?_eq_getElem below, List.getElem?_range below,
    Option.map_some, Option.some.injEq] at number
  rw [number, List.getElem?_eq_getElem below]

theorem Conserved.nodup : (run.tickets .accepted).Nodup := by
  have numbers : ((run.tickets .accepted).map Ticket.number).Nodup :=
    h.numbered ▸ List.nodup_range
  exact .of_map _ numbers

theorem Conserved.mem_having {fate : Fate} (member : ticket ∈ run.having fate) :
    ticket ∈ run.tickets .accepted :=
  h.balanced.mem_iff.2 (List.mem_flatMap.2 ⟨fate, fate.mem_all, member⟩)

theorem Conserved.existsUnique_fate (accepted : ticket ∈ run.tickets .accepted) :
    ∃! fate, ticket ∈ run.having fate := by
  obtain ⟨fate, -, member⟩ := List.mem_flatMap.1 (h.balanced.mem_iff.1 accepted)
  have apart := (List.nodup_flatMap.1 (h.balanced.nodup_iff.1 h.nodup)).2
  have : Std.Symm (Function.onFun List.Disjoint run.having) :=
    ⟨fun _ _ disjoint _ there here => disjoint here there⟩
  refine ⟨fate, member, fun other member' => ?_⟩
  by_contra differ
  exact apart.forall other.mem_all fate.mem_all differ member' member

theorem Conserved.begun_sublist : (run.tickets .begun).Sublist (run.tickets .accepted) :=
  (List.sublist_append_left _ _).trans h.inOrder

theorem Conserved.begun_isPrefix :
    ticketsOf .begun (sinceStop run.log) <+: ticketsOf .accepted (sinceStop run.log) :=
  ⟨run.queue.waiting, h.gapFree.symm⟩

end Conserved

theorem length_inFlight_le (run : QueueRun κ) :
    (run.having .inFlight).length ≤ 1 + run.strays.length := by
  rw [having_inFlight, List.length_append]
  exact Nat.add_le_add (by cases run.queue.inFlight? <;> simp) (List.length_filterMap_le _ _)

/-- Whether no worker was forgotten, and none would be by a stop under way. -/
structure IsAlone (run : QueueRun κ) : Prop where
  strays : run.strays = []
  left : 0 < run.due → run.queue.isRunning = false

theorem IsAlone.work (alone : run.IsAlone) {next : WorkerMove} {after : QueueRun κ}
    (step : WorkStep run next after) : after.IsAlone := by
  cases step with
  | begun _ taken =>
    refine ⟨alone.strays, fun due => ?_⟩
    have running := CommandQueue.isRunning_of_next? taken
    exact absurd running (Bool.eq_false_iff.1 (alone.left due))
  | finished _ busy =>
    refine ⟨alone.strays, fun due => ?_⟩
    have running := CommandQueue.isRunning_of_inFlight? busy
    exact absurd running (Bool.eq_false_iff.1 (alone.left due))
  | left _ dismissed =>
    exact ⟨alone.strays, fun _ => CommandQueue.isRunning_dismiss dismissed⟩
  | impossible => exact alone

theorem IsAlone.step (alone : run.IsAlone) {next : QueueMove κ} {after : QueueRun κ}
    (clear : next = .start → run.due = 0) (step : QueueStep run next after) : after.IsAlone := by
  cases step with
  | accepted accepted =>
    refine ⟨alone.strays, fun due => ?_⟩
    have same := CommandQueue.enqueue_worker accepted
    have left := alone.left due
    simpa only [CommandQueue.isRunning, queue_note, same] using left
  | rejected => exact ⟨alone.strays, alone.left⟩
  | started =>
    refine ⟨alone.strays, fun due => ?_⟩
    have none := clear rfl
    exact absurd none (Nat.ne_of_gt due)
  | @worked who _ after employed step =>
    cases who with
    | none => exact alone.work step
    | some index => simp [employs, alone.strays] at employed
  | cancelled => exact ⟨alone.strays, alone.left⟩
  | stopped => exact ⟨alone.strays, alone.left⟩
  | discarded resumes =>
    have left := alone.left (resumes ▸ Nat.succ_pos _)
    exact ⟨by simp [QueueRun.clear, note, forget, alone.strays, left], fun _ => rfl⟩
  | impossible => exact alone

theorem IsAlone.foldl (alone : run.IsAlone) {moves : List (QueueMove κ)}
    (clear : run.StartsClear moves) : (moves.foldl move run).IsAlone := by
  induction moves generalizing run with
  | nil => exact alone
  | cons next rest ih => exact ih (alone.step clear.1 (run.step_move next)) clear.2

theorem isAlone_play {device : String} {limit? : Option Nat} {moves : List (QueueMove κ)}
    (clear : StartsClear { queue := { device, limit? } } moves) :
    (play device limit? moves).IsAlone :=
  IsAlone.foldl ⟨rfl, fun _ => rfl⟩ clear

theorem IsAlone.length_inFlight_le (alone : run.IsAlone) : (run.having .inFlight).length ≤ 1 := by
  simpa [alone.strays] using run.length_inFlight_le

def began? : WorkEvent κ → Option κ
  | .began command => some command
  | _ => none

theorem conclude_queue (taken : CommandQueue κ) (report : κ → Failure → Except Failure Unit)
    (outcome : Except Failure Unit) :
    (taken.conclude report outcome).1 = (taken.finish outcome report).1 := by
  unfold CommandQueue.conclude
  split <;> next finished => simp [finished]

theorem conclude_began (taken : CommandQueue κ) (report : κ → Failure → Except Failure Unit)
    (outcome : Except Failure Unit) : (taken.conclude report outcome).2.filterMap began? = [] := by
  unfold CommandQueue.conclude
  split <;> rfl

theorem exists_moves_work (handle : Ticket κ → Handling)
    (report : Ticket κ → Failure → Except Failure Unit) (count : Nat) (run : QueueRun κ)
    (free : run.stops = 0) :
    ∃ deeds : List WorkerMove,
      let after := (deeds.map (.work none)).foldl move run
      after.queue = (run.queue.work handle report count).1 ∧ after.tickets .begun =
        run.tickets .begun ++ (run.queue.work handle report count).2.filterMap began? := by
  induction count generalizing run with
  | zero => exact ⟨[], rfl, by simp [CommandQueue.work]⟩
  | succ count ih =>
    cases next : run.queue.next? with
    | none => exact ⟨[], by simp [CommandQueue.work, next]⟩
    | some pair =>
      obtain ⟨ticket, taken⟩ := pair
      have take : run.move (.work none .take) = run.note taken [.marked .begun ticket] := by
        simp [move, employs, exchange, QueueRun.work, free, next]
      cases handled : handle ticket with
      | waits =>
        exact ⟨[.take], by simp [take, CommandQueue.work, next, handled, began?]⟩
      | ends outcome =>
        obtain ⟨-, -, busy⟩ := CommandQueue.next?_some next
        obtain ⟨answer, same⟩ := taken.exists_finish_eq outcome report
        have finish : (run.move (.work none .take)).move (.work none (.finish outcome answer)) =
            (run.note taken [.marked .begun ticket]).note (taken.conclude report outcome).1
              [.marked .finished ticket] := by
          rw [take]
          simp [move, employs, exchange, QueueRun.work, note, free, busy, conclude_queue, same]
        obtain ⟨deeds, queue, begun⟩ :=
          ih ((run.move (.work none .take)).move (.work none (.finish outcome answer)))
            (by rw [finish]; exact free)
        refine ⟨.take :: .finish outcome answer :: deeds, ?_, ?_⟩
        · simpa [CommandQueue.work, next, handled, finish] using queue
        · simpa [CommandQueue.work, next, handled, finish, began?, conclude_began] using begun

theorem offered_work {next : WorkerMove} {after : QueueRun κ} (step : WorkStep run next after) :
    after.log.filterMap QueueEvent.offered? = run.log.filterMap QueueEvent.offered? := by
  cases step <;> simp [note, QueueEvent.offered?, Function.comp_def]

theorem offered_step {next : QueueMove κ} {after : QueueRun κ} (step : QueueStep run next after) :
    after.log.filterMap QueueEvent.offered? =
      run.log.filterMap QueueEvent.offered? ++ next.offered?.toList := by
  cases step with
  | worked _ step => simpa [QueueMove.offered?] using offered_work step
  | @impossible next refused =>
    cases next with
    | enqueue => exact refused.elim
    | _ => simp [QueueMove.offered?]
  | _ =>
    simp [note, clear, forget, QueueMove.offered?, QueueEvent.offered?, ticketFor, Function.comp_def]

theorem offered_play (device : String) (limit? : Option Nat) (moves : List (QueueMove κ)) :
    (play device limit? moves).log.filterMap QueueEvent.offered? =
      moves.filterMap QueueMove.offered? := by
  have onward (run : QueueRun κ) : (moves.foldl move run).log.filterMap QueueEvent.offered? =
      run.log.filterMap QueueEvent.offered? ++ moves.filterMap QueueMove.offered? := by
    induction moves generalizing run with
    | nil => simp
    | cons next rest ih =>
      rw [List.foldl_cons, ih, offered_step (run.step_move next)]
      cases offered : next.offered? <;> simp [offered]
  exact onward { queue := { device, limit? } }

/-- Callers, workers and stops may act in any order: every command that was not rejected is in one of
five places, and commands are begun once, in the order of their acceptance and between two stops
without a gap. A worker has at most one command, and there is one worker as long as no start falls
into a stop after the worker has left. A stop that fails is none: what waits is begun later. Working
the queue off is one of the ways to go on. -/
theorem accounted_play (device : String) (limit? : Option Nat) (moves : List (QueueMove κ)) :
    let run := play device limit? moves
    run.log.filterMap QueueEvent.offered? = moves.filterMap QueueMove.offered? ∧
    (∀ ticket ∈ run.tickets .accepted, (run.tickets .accepted)[ticket.number]? = some ticket ∧
      ∃! fate, ticket ∈ run.having fate) ∧
    (∀ fate, ∀ ticket ∈ run.having fate, ticket ∈ run.tickets .accepted) ∧
    (run.having .inFlight).length ≤ 1 + run.strays.length ∧
    (StartsClear { queue := { device, limit? } } moves →
      run.strays = [] ∧ (run.having .inFlight).length ≤ 1) ∧
    (run.tickets .accepted).Nodup ∧
    (run.tickets .begun).Sublist (run.tickets .accepted) ∧
    (run.tickets .begun).Perm
      (run.having .finished ++ run.having .abandoned ++ run.having .inFlight) ∧
    ticketsOf .begun (sinceStop run.log) <+: ticketsOf .accepted (sinceStop run.log) ∧
    (∀ failure, run.queue.worker = .ended failure → run.move .beginStop = run) ∧
    (run.stops = 0 → ∀ handle report count, ∃ deeds : List WorkerMove,
      let after := play device limit? (moves ++ deeds.map (.work none))
      after.queue = (run.queue.work handle report count).1 ∧ after.tickets .begun =
        run.tickets .begun ++ (run.queue.work handle report count).2.filterMap began?) := by
  intro run
  have law : run.Conserved := conserved_play device limit? moves
  refine ⟨offered_play device limit? moves, fun ticket accepted => ?_, fun _ _ => law.mem_having,
    run.length_inFlight_le, fun clear => ?_, law.nodup, law.begun_sublist, law.begun,
    law.begun_isPrefix, fun failure ended => ?_, fun free handle report count => ?_⟩
  · exact ⟨law.getElem?_number accepted, law.existsUnique_fate accepted⟩
  · have alone : run.IsAlone := isAlone_play clear
    exact ⟨alone.strays, alone.length_inFlight_le⟩
  · simp [move, ended]
  · unfold play
    simp only [List.foldl_append]
    exact exists_moves_work handle report count run free

/-- The queue is started in the middle of a stop, after the worker has left, and once more behind
it. -/
theorem not_alone_restarted :
    let moves : List (QueueMove String) := [.start, .beginStop, .work none .leave, .start, .endStop,
      .start, .enqueue "Cool", .enqueue "High", .work none .take, .work (some 0) .take]
    (play "unit" (some 20) moves).having .inFlight = [⟨0, "Cool"⟩, ⟨1, "High"⟩] :=
  rfl

theorem accounted_restarted :
    let moves : List (QueueMove String) := [.start, .beginStop, .work none .leave, .endStop,
      .start, .enqueue "Cool", .enqueue "High", .work none .take, .work (some 0) .take]
    let run := play "unit" (some 20) moves
    run.strays = [] ∧ (run.having .inFlight).length ≤ 1 := by
  intro moves run
  obtain ⟨-, -, -, -, clear, -⟩ := accounted_play "unit" (some 20) moves
  exact clear ⟨fun _ => rfl, nofun, nofun, nofun, fun _ => rfl, nofun, nofun, nofun, nofun, trivial⟩

end QueueRun

end ApplianceCloud
