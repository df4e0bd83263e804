import ApplianceCloud.Proofs.Queue.Survival

namespace ApplianceCloud

variable {κ : Type}

namespace CommandQueue

def fresh (queue : CommandQueue κ) : CommandQueue κ :=
  { device := queue.device, limit? := queue.limit? }

section Fresh

variable {queue after : CommandQueue κ}

theorem fresh_enqueue {command : κ} (accepted : queue.enqueue command = .ok after) :
    after.fresh = queue.fresh := by
  unfold enqueue at accepted
  split at accepted <;> cases accepted
  rfl

@[simp] theorem fresh_start : queue.start.fresh = queue.fresh := by
  unfold start
  split <;> rfl

theorem fresh_next? {command : κ} (next : queue.next? = some (command, after)) :
    after.fresh = queue.fresh := by
  unfold next? at next
  split at next <;> cases next
  rfl

@[simp] theorem fresh_finish (outcome : Except Failure Unit)
    (report : κ → Failure → Except Failure Unit) :
    (queue.finish outcome report).1.fresh = queue.fresh := by
  unfold finish
  split
  · cases outcome <;> rfl
  · rfl

theorem fresh_dismiss (dismissed : queue.dismiss = .ok after) : after.fresh = queue.fresh := by
  unfold dismiss at dismissed
  split at dismissed <;> cases dismissed <;> rfl

theorem dismiss_worker (dismissed : queue.dismiss = .ok after) : after.worker = .absent := by
  unfold dismiss at dismissed
  split at dismissed <;> cases dismissed <;> rfl

theorem dismiss_eq_error_iff {failure : Failure} :
    queue.dismiss = .error failure ↔ queue.worker = .ended failure := by
  cases worker : queue.worker <;> simp [dismiss, worker]

theorem stop_eq_error_iff {failure : Failure} :
    queue.stop = .error failure ↔ queue.worker = .ended failure := by
  rw [← dismiss_eq_error_iff, stop]
  cases queue.dismiss <;> simp [Except.map]

theorem exists_dismiss (alive : ∀ failure, queue.worker ≠ .ended failure) :
    ∃ after, queue.dismiss = .ok after := by
  cases dismissed : queue.dismiss with
  | ok after => exact ⟨after, rfl⟩
  | error failure => exact absurd (dismiss_eq_error_iff.1 dismissed) (alive failure)

def emptied (queue : CommandQueue κ) (elsewhere : Nat) : CommandQueue κ :=
  { queue.fresh with unfinished := elsewhere }

theorem IsCounted.discard_eq {elsewhere : Nat} (counted : queue.IsCounted elsewhere)
    (absent : queue.worker = .absent) : queue.discard = queue.emptied elsewhere := by
  have unfinished : queue.unfinished = queue.waiting.length + elsewhere := by
    simpa [IsCounted, inFlight?, absent] using counted
  rw [CommandQueue.discard, unfinished, Nat.add_sub_cancel_left, absent, emptied, fresh]

theorem IsCounted.stop_eq {elsewhere : Nat} (counted : queue.IsCounted elsewhere)
    (alive : ∀ failure, queue.worker ≠ .ended failure) :
    queue.stop = .ok (queue.emptied elsewhere) := by
  obtain ⟨after, dismissed⟩ := exists_dismiss alive
  have left : after.discard = after.emptied elsewhere :=
    (counted.dismiss dismissed).discard_eq (dismiss_worker dismissed)
  rw [stop, dismissed, Except.map, left, emptied, fresh_dismiss dismissed, emptied]

theorem begins_emptied (queue : CommandQueue κ) (elsewhere : Nat) (room : queue.limit? ≠ some 0)
    (command : κ) : ∃ full taken, (queue.emptied elsewhere).start.enqueue command = .ok full ∧
      full.next? = some (command, taken) := by
  have free : (queue.emptied elsewhere).start.isFull = false := by
    cases limit : queue.limit? with
    | none => simp [isFull, start, isRunning, emptied, fresh, limit]
    | some bound => simp_all [isFull, start, isRunning, emptied, fresh]
  have accepted : (queue.emptied elsewhere).start.enqueue command =
      .ok { queue.fresh with
        waiting := [command]
        unfinished := elsewhere + 1
        worker := .idle } := by
    rw [enqueue, free]
    rfl
  exact ⟨_, _, accepted, rfl⟩

end Fresh

end CommandQueue

namespace QueueMove

def endsStop : QueueMove κ → Bool
  | .endStop => true
  | _ => false

end QueueMove

namespace QueueRun

@[simp] theorem fresh_exchange (run : QueueRun κ) (who : Option Nat) :
    (run.exchange who).queue.fresh = run.queue.fresh :=
  run.exchange_congr who (·.queue.fresh) fun _ _ _ => rfl

theorem fresh_work {run after : QueueRun κ} {next : WorkerMove} (step : WorkStep run next after) :
    after.queue.fresh = run.queue.fresh := by
  cases step with
  | begun _ taken => exact CommandQueue.fresh_next? taken
  | finished => exact CommandQueue.fresh_finish _ _
  | left _ dismissed => exact CommandQueue.fresh_dismiss dismissed
  | impossible => rfl

theorem fresh_step {run after : QueueRun κ} {next : QueueMove κ} (step : QueueStep run next after) :
    after.queue.fresh = run.queue.fresh := by
  cases step with
  | accepted accepted => exact CommandQueue.fresh_enqueue accepted
  | started => exact CommandQueue.fresh_start
  | worked _ step => simpa using fresh_work step
  | rejected | cancelled | stopped | discarded | impossible => rfl

theorem fresh_foldl (run : QueueRun κ) (moves : List (QueueMove κ)) :
    (moves.foldl move run).queue.fresh = run.queue.fresh :=
  foldl_of_step (·.queue.fresh = run.queue.fresh) (fun same step => (fresh_step step).trans same)
    rfl moves

theorem fresh_play (device : String) (limit? : Option Nat) (moves : List (QueueMove κ)) :
    (play device limit? moves).queue.fresh = { device, limit? } :=
  fresh_foldl { queue := { device, limit? } } moves

def IsAlive (run : QueueRun κ) : Prop := ∀ failure, run.queue.worker ≠ .ended failure

theorem IsAlive.work {run after : QueueRun κ} {next : WorkerMove} (alive : run.IsAlive)
    (quiet : (@QueueMove.work κ none next).raises = false) (step : WorkStep run next after) :
    after.IsAlive := by
  intro failure ended
  cases step with
  | begun _ taken =>
    obtain ⟨-, -, busy⟩ := CommandQueue.next?_some taken
    have worker := CommandQueue.worker_of_inFlight? busy
    cases worker.symm.trans ended
  | finished _ busy =>
    have worker := worker_finish busy quiet
    cases worker.symm.trans ended
  | left _ dismissed =>
    have worker := CommandQueue.dismiss_worker dismissed
    cases worker.symm.trans ended
  | impossible => exact alive failure ended

theorem isAlive_step {run after : QueueRun κ} {next : QueueMove κ} (alive : run.IsAlive)
    (quiet : next.raises = false) (step : QueueStep run next after) : after.IsAlive := by
  cases step with
  | accepted accepted =>
    have same := CommandQueue.enqueue_worker accepted
    exact fun failure ended => alive failure (same.symm.trans ended)
  | started =>
    have running : run.queue.start.isRunning = true := CommandQueue.isRunning_start
    intro failure ended
    simp [CommandQueue.isRunning, show run.queue.start.worker = .ended failure from ended] at running
  | @worked who _ _ employed step =>
    cases who with
    | none => exact alive.work quiet step
    | some index =>
      obtain ⟨worker, -⟩ := own_of_workStep employed step
      exact fun failure ended => alive failure (worker.symm.trans ended)
  | discarded =>
    intro failure ended
    cases ended
  | rejected | cancelled | stopped | impossible => exact alive

theorem isAlive_play (device : String) (limit? : Option Nat) {moves : List (QueueMove κ)}
    (quiet : ∀ next ∈ moves, next.raises = false) : (play device limit? moves).IsAlive := by
  refine List.foldlRecOn (motive := IsAlive) moves move (fun _ => nofun) ?_
  intro run alive next member
  exact isAlive_step alive (quiet next member) (run.step_move next)

/-- Whether a stop is under way that the only worker has to leave for, or has left for. -/
structure IsHalted (run : QueueRun κ) : Prop where
  alone : run.strays = []
  halted : 0 < run.stops ∧ run.due = 0 ∨ 0 < run.due ∧ run.queue.worker = .absent

theorem IsHalted.work {run after : QueueRun κ} {next : WorkerMove} (halted : run.IsHalted)
    (step : WorkStep run next after) : after.IsHalted ∧ after.tickets .begun = run.tickets .begun := by
  obtain ⟨alone, halted⟩ := halted
  cases step with
  | begun free taken =>
    obtain ⟨cancelled, -⟩ | ⟨-, absent⟩ := halted
    · exact absurd free (Nat.ne_of_gt cancelled)
    · simp [CommandQueue.next?, absent] at taken
  | finished free busy =>
    obtain ⟨cancelled, -⟩ | ⟨-, absent⟩ := halted
    · exact absurd free (Nat.ne_of_gt cancelled)
    · simp [CommandQueue.inFlight?, absent] at busy
  | left cancelled dismissed =>
    have absent := CommandQueue.dismiss_worker dismissed
    exact ⟨⟨alone, .inr ⟨Nat.add_pos_right _ cancelled, absent⟩⟩, by simp [note, tickets]⟩
  | impossible => exact ⟨⟨alone, halted⟩, rfl⟩

theorem IsHalted.step {run after : QueueRun κ} {next : QueueMove κ} (halted : run.IsHalted)
    (holds : next.endsStop = false) (clear : next = .start → run.due = 0)
    (step : QueueStep run next after) :
    after.IsHalted ∧ after.tickets .begun = run.tickets .begun := by
  cases step with
  | accepted accepted =>
    have same := CommandQueue.enqueue_worker accepted
    exact ⟨⟨halted.alone, halted.halted.imp_right fun left => ⟨left.1, same.trans left.2⟩⟩, by simp⟩
  | rejected => exact ⟨⟨halted.alone, halted.halted⟩, by simp⟩
  | started =>
    have waits := halted.halted.resolve_right fun left => absurd (clear rfl) (Nat.ne_of_gt left.1)
    exact ⟨⟨halted.alone, .inl waits⟩, by simp⟩
  | @worked who _ _ employed step =>
    cases who with
    | none => exact halted.work step
    | some index => simp [employs, halted.alone] at employed
  | cancelled =>
    refine ⟨⟨halted.alone, ?_⟩, rfl⟩
    exact halted.halted.imp_left fun waits => ⟨Nat.lt_succ_of_lt waits.1, waits.2⟩
  | stopped => exact ⟨⟨halted.alone, halted.halted⟩, by simp [QueueRun.clear]⟩
  | discarded => cases holds
  | impossible => exact ⟨halted, rfl⟩

theorem IsHalted.foldl {run : QueueRun κ} (halted : run.IsHalted) {during : List (QueueMove κ)}
    (holds : ∀ next ∈ during, next.endsStop = false) (clear : run.StartsClear during) :
    (during.foldl move run).IsHalted ∧
      (during.foldl move run).tickets .begun = run.tickets .begun := by
  induction during generalizing run with
  | nil => exact ⟨halted, rfl⟩
  | cons next rest ih =>
    obtain ⟨here, begun⟩ :=
      halted.step (holds next List.mem_cons_self) clear.1 (run.step_move next)
    obtain ⟨there, later⟩ := ih here (fun other member => holds other (.tail _ member)) clear.2
    exact ⟨there, later.trans begun⟩

section Stop

variable {run : QueueRun κ}

theorem move_beginStop (running : run.queue.isRunning = true) :
    run.move .beginStop = { run with stops := run.stops + 1 } := by
  cases worker : run.queue.worker <;> simp_all [move, CommandQueue.isRunning]

theorem queue_clear (counted : run.IsCounted) (absent : run.queue.worker = .absent) :
    run.clear.queue = run.queue.emptied run.astray.length :=
  (isCounted_iff.1 counted).discard_eq absent

theorem move_endStop (due : 0 < run.due) :
    run.move .endStop = { run.forget.clear with due := run.due - 1 } := by
  cases resumes : run.due with
  | zero => exact absurd resumes (Nat.ne_of_gt due)
  | succ rest => simp [move, resumes]

theorem queue_endStop (counted : run.IsCounted) (due : 0 < run.due) :
    (run.move .endStop).queue = run.queue.emptied (run.move .endStop).astray.length ∧
      (run.move .endStop).tickets .begun = run.tickets .begun := by
  have left : run.forget.clear.queue = run.forget.queue.emptied run.forget.astray.length :=
    queue_clear counted.forget rfl
  rw [move_endStop due]
  exact ⟨left, by simp [QueueRun.clear, forget, tickets, note]⟩

theorem queue_of_halted (alone : run.strays = []) (free : run.due = 0)
    (running : run.queue.isRunning = true) (counted : run.IsCounted) {during : List (QueueMove κ)}
    (holds : ∀ next ∈ during, next.endsStop = false)
    (clear : (run.move .beginStop).StartsClear during) :
    let waited := during.foldl move (run.move .beginStop)
    let after := waited.move .endStop
    0 < waited.due → after.queue = run.queue.fresh ∧ after.strays = [] ∧
      after.tickets .begun = run.tickets .begun := by
  intro waited after due
  have begins := move_beginStop running
  have halted : (run.move .beginStop).IsHalted := by
    rw [begins]
    exact ⟨alone, .inl ⟨Nat.succ_pos _, free⟩⟩
  obtain ⟨waits, later⟩ := halted.foldl holds clear
  obtain ⟨-, absent⟩ := waits.halted.resolve_left fun waits => absurd waits.2 (Nat.ne_of_gt due)
  have strays : after.strays = [] := by
    simp [after, move_endStop due, QueueRun.clear, note, forget, CommandQueue.isRunning, absent,
      waits.alone, waited]
  have kept : waited.IsCounted := foldl_of_step IsCounted
    (fun counted step => counted_step counted step) counted (.beginStop :: during)
  obtain ⟨made, last⟩ := queue_endStop kept due
  have same : waited.queue.fresh = run.queue.fresh := fresh_foldl run (.beginStop :: during)
  have none : after.astray.length = 0 := by simp [astray, strays]
  refine ⟨?_, strays, ?_⟩
  · rw [made, none, CommandQueue.emptied, same]
    rfl
  · rw [last, later, begins]
    rfl

theorem stop_of_isRunning (running : run.queue.isRunning = true) : run.queue.stop =
    .ok ([.beginStop, .work none .leave, .endStop].foldl move run).queue := by
  have alive : run.IsAlive := by
    intro failure ended
    simp [CommandQueue.isRunning, ended] at running
  obtain ⟨after, dismissed⟩ := CommandQueue.exists_dismiss alive
  have absent := CommandQueue.dismiss_worker dismissed
  have leaves : ({ run with stops := run.stops + 1 } : QueueRun κ).move (.work none .leave) =
      { run.note after (run.queue.inFlight?.toList.map (.marked .abandoned)) with
        stops := 0
        due := run.due + (run.stops + 1) } := by
    simp [move, employs, exchange, work, note, dismissed]
  rw [List.foldl_cons, List.foldl_cons, List.foldl_cons, List.foldl_nil, move_beginStop running,
    leaves, move_endStop (Nat.add_pos_right _ (Nat.succ_pos _))]
  simp [CommandQueue.stop, dismissed, Except.map, CommandQueue.discard, QueueRun.clear, forget, absent]

theorem stop_of_absent (absent : run.queue.worker = .absent) :
    run.queue.stop = .ok (run.move .beginStop).queue := by
  simp [move, absent, CommandQueue.stop, CommandQueue.dismiss, Except.map, QueueRun.clear,
    CommandQueue.discard]

end Stop

theorem Conserved.not_begun {run : QueueRun κ} (law : run.Conserved) {ticket : Ticket κ}
    (discarded : ticket ∈ run.having .discarded) : ticket ∉ run.tickets .begun := by
  intro begun
  have accepted := law.mem_having discarded
  have unique {fate : Fate} (member : ticket ∈ run.having fate) : fate = .discarded :=
    (law.existsUnique_fate accepted).unique member discarded
  have placed := law.begun.mem_iff.1 begun
  simp only [List.mem_append] at placed
  rcases placed with (finished | abandoned) | inFlight
  · cases unique finished
  · cases unique abandoned
  · cases unique inFlight

theorem exists_failure_of_not_isAlive {run : QueueRun κ} (dead : ¬ run.IsAlive) :
    ∃ failure, run.queue.worker = .ended failure := by
  simpa [IsAlive] using dead

/-- A stop fails if and only if the worker ended by a report that failed, and then it changes nothing.
Any other stop leaves the queue as it was made, but for what forgotten workers have in hand, and no
command that it discards is begun. None is begun either while it waits for the only worker, whatever
happens meanwhile, if no start falls into it after the worker has left. -/
theorem stopped_play (device : String) (limit? : Option Nat) (moves : List (QueueMove κ)) :
    let run := play device limit? moves
    let unused : CommandQueue (Ticket κ) := { device, limit? }
    let emptied := { unused with unfinished := run.astray.length }
    (∀ failure, run.queue.stop = .error failure ↔ run.queue.worker = .ended failure) ∧
    (∀ after, run.queue.stop = .ok after → after = emptied) ∧
    ((∀ next ∈ moves, next.raises = false) → run.queue.stop = .ok emptied) ∧
    (run.queue.worker = .absent → run.queue.stop = .ok (run.move .beginStop).queue) ∧
    (run.queue.isRunning = true → run.queue.stop =
      .ok ([.beginStop, .work none .leave, .endStop].foldl move run).queue) ∧
    (0 < run.due → let after := run.move .endStop
      after.queue = { unused with unfinished := after.astray.length } ∧
        after.tickets .begun = run.tickets .begun) ∧
    (run.strays = [] → run.due = 0 → run.queue.isRunning = true →
      ∀ during : List (QueueMove κ), (∀ next ∈ during, next.endsStop = false) →
        (run.move .beginStop).StartsClear during →
        let waited := play device limit? (moves ++ .beginStop :: during)
        let after := waited.move .endStop
        0 < waited.due → after.queue = unused ∧ after.strays = [] ∧
          after.tickets .begun = run.tickets .begun) ∧
    (¬ run.IsAlive → run.move .beginStop = run ∧ run.queue.start.waiting = run.queue.waiting ∧
      run.queue.start.stop = .ok emptied) ∧
    (∀ ticket ∈ run.having .discarded, ticket ∉ run.tickets .begun) ∧
    (limit? ≠ some 0 → ∀ command, ∃ full taken, emptied.start.enqueue command = .ok full ∧
      full.next? = some (command, taken)) := by
  intro run unused emptied
  have law : run.Conserved := conserved_play device limit? moves
  have counted : run.IsCounted := counted_play device limit? moves
  have made : run.queue.fresh = unused := fresh_play device limit? moves
  have empties : run.queue.emptied run.astray.length = emptied := by
    rw [CommandQueue.emptied, made]
  have stops_eq : run.IsAlive → run.queue.stop = .ok emptied := fun alive =>
    empties ▸ (isCounted_iff.1 counted).stop_eq alive
  refine ⟨fun failure => CommandQueue.stop_eq_error_iff, ?_, ?_, stop_of_absent, stop_of_isRunning,
    ?_, ?_, ?_, fun ticket => law.not_begun, ?_⟩
  · intro after stopped
    have alive : run.IsAlive := by
      intro failure ended
      rw [CommandQueue.stop_eq_error_iff.2 ended] at stopped
      cases stopped
    rw [stops_eq alive] at stopped
    exact (Except.ok.inj stopped).symm
  · exact fun quiet => stops_eq (isAlive_play device limit? quiet)
  · intro due after
    obtain ⟨left, begun⟩ := queue_endStop counted due
    rw [CommandQueue.emptied, made] at left
    exact ⟨left, begun⟩
  · intro alone free running during holds clear waited after due
    have played : waited = during.foldl move (run.move .beginStop) := List.foldl_append
    rw [played] at due
    obtain ⟨left, strays, begun⟩ := queue_of_halted alone free running counted holds clear due
    rw [← played] at left strays begun
    exact ⟨left.trans made, strays, begun⟩
  · intro dead
    obtain ⟨failure, ended⟩ := exists_failure_of_not_isAlive dead
    have revived : ∀ cause, run.queue.start.worker ≠ .ended cause := by
      simp [CommandQueue.start, CommandQueue.isRunning, ended]
    have again := (isCounted_iff.1 counted).start.stop_eq revived
    rw [CommandQueue.emptied, CommandQueue.fresh_start, made] at again
    exact ⟨by simp [move, ended], CommandQueue.start_waiting, again⟩
  · intro room command
    have limited : run.queue.limit? = limit? :=
      congrArg CommandQueue.limit? made
    rw [← empties]
    exact run.queue.begins_emptied run.astray.length (limited ▸ room) command

theorem stopped_busy :
    let moves : List (QueueMove String) :=
      [.start, .enqueue "Cool", .enqueue "High", .work none .take]
    let waited := play "unit" (some 20)
      (moves ++ .beginStop :: [.enqueue "Low", .start, .work none .leave, .work none .take])
    let after := waited.move .endStop
    after.queue = { device := "unit" } ∧ after.tickets .begun = [⟨0, "Cool"⟩] ∧
      after.tickets .discarded = [⟨1, "High"⟩, ⟨2, "Low"⟩] := by
  intro moves waited after
  obtain ⟨-, -, -, -, -, -, stops, -⟩ := stopped_play "unit" (some 20) moves
  obtain ⟨left, -, begun⟩ := stops rfl rfl rfl
    [.enqueue "Low", .start, .work none .leave, .work none .take] (by simp [QueueMove.endsStop])
    ⟨nofun, fun _ => rfl, nofun, nofun, trivial⟩ (by decide)
  exact ⟨left, begun, rfl⟩

/-- The report of the first command fails, and the stop leaves the second one waiting. -/
theorem not_stopped_dead :
    let cause : Failure := .foreign "RuntimeError" "on_error"
    let moves : List (QueueMove String) := [.start, .enqueue "Cool", .enqueue "High",
      .work none .take, .work none (.finish (.error (.foreign "OSError" "bad")) (.error cause))]
    let run := play "unit" (some 20) moves
    run.stops = 0 ∧ run.due = 0 ∧ run.queue.stop = .error cause ∧
      (run.move .beginStop).queue.waiting = [⟨1, "High"⟩] := by
  refine ⟨rfl, rfl, rfl, rfl⟩

end QueueRun

end ApplianceCloud
