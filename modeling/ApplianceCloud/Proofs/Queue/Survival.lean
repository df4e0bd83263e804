import ApplianceCloud.Proofs.Queue.Ledger

/-!
# A worker outlives the commands that fail

A failure ends one command and not the worker, unless its report fails as well. Until the queue is
stopped the worker goes on with the commands behind it, and every failure is reported once.

The count of unfinished commands is touched at three places: by an enqueue, by the end of a command in
flight, and when waiting commands are discarded. It counts the waiting commands and those in flight at
every moment, whatever becomes of the workers.
-/

namespace ApplianceCloud

variable {κ : Type}

namespace CommandQueue

/-- Whether the unfinished commands are those that wait, the one in flight and so many elsewhere. -/
def IsCounted (queue : CommandQueue κ) (elsewhere : Nat) : Prop :=
  queue.unfinished = queue.waiting.length + queue.inFlight?.toList.length + elsewhere

section IsCounted

variable {queue after : CommandQueue κ} {elsewhere : Nat} (counted : queue.IsCounted elsewhere)
include counted

theorem IsCounted.enqueue {command : κ} (accepted : queue.enqueue command = .ok after) :
    after.IsCounted elsewhere := by
  obtain ⟨waiting, inFlight⟩ := enqueue_ok accepted
  have unfinished := enqueue_unfinished accepted
  simp only [IsCounted, waiting, inFlight, unfinished, List.length_append, List.length_singleton]
    at counted ⊢
  omega

theorem IsCounted.start : queue.start.IsCounted elsewhere := by
  simpa [IsCounted] using counted

theorem IsCounted.next? {command : κ} (next : queue.next? = some (command, after)) :
    after.IsCounted elsewhere := by
  obtain ⟨waiting, idle, busy⟩ := next?_some next
  have unfinished := next?_unfinished next
  simpa [IsCounted, waiting, idle, busy, unfinished] using counted

theorem IsCounted.finish {command : κ} (busy : queue.inFlight? = some command)
    (outcome : Except Failure Unit) (report : κ → Failure → Except Failure Unit) :
    (queue.finish outcome report).1.IsCounted elsewhere := by
  obtain ⟨waiting, idle⟩ := finish_busy busy outcome report
  have unfinished := finish_unfinished busy outcome report
  simp only [IsCounted, busy, waiting, idle, unfinished, Option.toList_some, Option.toList_none,
    List.length_singleton, List.length_nil] at counted ⊢
  omega

theorem IsCounted.dismiss (dismissed : queue.dismiss = .ok after) : after.IsCounted elsewhere := by
  obtain ⟨waiting, idle⟩ := dismiss_ok dismissed
  have unfinished := dismiss_unfinished dismissed
  simp only [IsCounted, waiting, idle, unfinished, Option.toList_none, List.length_nil]
    at counted ⊢
  omega

theorem IsCounted.discard : queue.discard.IsCounted elsewhere := by
  simp only [IsCounted, discard_unfinished, discard_waiting, discard_inFlight?, List.length_nil]
    at counted ⊢
  omega

end IsCounted

end CommandQueue

def WorkEvent.verdict (command : κ) : Except Failure Unit → WorkEvent κ
  | .ok () => .ended command
  | .error failure => .failed command failure

namespace CommandQueue

section Quiet

variable {queue : CommandQueue κ} {report : κ → Failure → Except Failure Unit}
  (quiet : ∀ command failure, report command failure = .ok ())
include quiet

theorem finish_quiet {command : κ} (busy : queue.worker = .busy command)
    (outcome : Except Failure Unit) : (queue.finish outcome report).1 =
      { queue with worker := .idle, unfinished := queue.unfinished - 1 } := by
  cases outcome <;> simp [finish, busy, quiet]

theorem conclude_quiet (queue : CommandQueue κ) {command : κ} (busy : queue.worker = .busy command)
    (outcome : Except Failure Unit) : queue.conclude report outcome =
      ({ queue with worker := .idle, unfinished := queue.unfinished - 1 },
        [.verdict command outcome]) := by
  have after := (QueueRun.conclude_queue queue report outcome).trans (finish_quiet quiet busy outcome)
  have events : (queue.conclude report outcome).2 = [.verdict command outcome] := by
    cases outcome <;> simp [conclude, inFlight?, finish, busy, WorkEvent.verdict]
  exact Prod.ext after events

theorem work_idle (handle : κ → Except Failure Unit) (waiting : List κ) (queue : CommandQueue κ)
    (idle : queue.worker = .idle) (row : queue.waiting = waiting) :
    queue.work (fun command => .ends (handle command)) report waiting.length =
      ({ queue with waiting := [], unfinished := queue.unfinished - waiting.length },
        waiting.flatMap fun command => [.began command, .verdict command (handle command)]) := by
  induction waiting generalizing queue with
  | nil =>
    cases queue
    cases row
    rfl
  | cons command rest ih =>
    -- Whatever the outcome of the first command is, the worker is idle after it, with the rest left.
    have next : queue.next? =
        some (command, { queue with waiting := rest, worker := .busy command }) := by
      simp [next?, idle, row]
    have done := conclude_quiet quiet { queue with waiting := rest, worker := .busy command } rfl
      (handle command)
    have behind := ih { queue with
      waiting := rest, worker := .idle, unfinished := queue.unfinished - 1 } rfl rfl
    simp [work, next, done, behind, idle]
    omega

theorem workOff_conclude {elsewhere : Nat} (counted : queue.IsCounted elsewhere)
    (running : queue.isRunning = true) (handle : κ → Except Failure Unit)
    (outcome : Except Failure Unit) :
    (queue.conclude report outcome).1.workOff (fun command => .ends (handle command)) report =
      ({ queue with waiting := [], worker := .idle, unfinished := elsewhere },
        queue.waiting.flatMap fun command =>
          [.began command, .verdict command (handle command)]) := by
  unfold isRunning at running
  split at running
  · next idle =>
    have nothing : (queue.conclude report outcome).1 = queue := by
      simp [conclude, inFlight?, finish, idle]
    have drained := work_idle quiet handle queue.waiting queue idle rfl
    rw [nothing, workOff, drained, idle, counted]
    simp [inFlight?, idle]
  · next busy =>
    have drained := work_idle quiet handle queue.waiting
      { queue with worker := .idle, unfinished := queue.unfinished - 1 } rfl rfl
    rw [conclude_quiet quiet queue busy, workOff, drained, counted]
    simp [inFlight?, busy]
  · cases running

end Quiet

end CommandQueue

namespace QueueMove

def isStop : QueueMove κ → Bool
  | .beginStop | .endStop => true
  | _ => false

def raises : QueueMove κ → Bool
  | .work _ (.finish _ (.error _)) => true
  | _ => false

end QueueMove

def Fate.settled : List Fate := [finished, abandoned, discarded]

namespace QueueRun

def IsCounted (run : QueueRun κ) : Prop :=
  run.queue.unfinished = run.queue.waiting.length + (run.having .inFlight).length

section Counted

variable {run : QueueRun κ}

theorem isCounted_iff : run.IsCounted ↔ run.queue.IsCounted run.astray.length := by
  rw [IsCounted, CommandQueue.IsCounted, having_inFlight, List.length_append, Nat.add_assoc]

theorem IsCounted.exchange (counted : run.IsCounted) (who : Option Nat) :
    (run.exchange who).IsCounted := by
  rw [IsCounted, unfinished_exchange, waiting_exchange, (run.inFlight_exchange who).length_eq]
  exact counted

theorem IsCounted.forget (counted : run.IsCounted) : run.forget.IsCounted := by
  rw [IsCounted, run.inFlight_forget.length_eq]
  exact counted

theorem IsCounted.clear (counted : run.IsCounted) : run.clear.IsCounted :=
  isCounted_iff.2 (isCounted_iff.1 counted).discard

theorem IsCounted.work (counted : run.IsCounted) {next : WorkerMove} {after : QueueRun κ}
    (step : WorkStep run next after) : after.IsCounted := by
  rw [isCounted_iff] at counted ⊢
  cases step with
  | begun _ taken => exact counted.next? taken
  | finished _ busy => exact counted.finish busy _ _
  | left _ dismissed => exact counted.dismiss dismissed
  | impossible => exact counted

theorem counted_step (counted : run.IsCounted) {next : QueueMove κ} {after : QueueRun κ}
    (step : QueueStep run next after) : after.IsCounted := by
  cases step with
  | accepted accepted => exact isCounted_iff.2 ((isCounted_iff.1 counted).enqueue accepted)
  | started => exact isCounted_iff.2 (isCounted_iff.1 counted).start
  | worked _ step => exact ((counted.exchange _).work step).exchange _
  | stopped => exact counted.clear
  | discarded => exact counted.forget.clear
  | rejected | cancelled | impossible => exact counted

theorem counted_play (device : String) (limit? : Option Nat) (moves : List (QueueMove κ)) :
    (play device limit? moves).IsCounted := by
  have unused : ({ queue := { device, limit? } } : QueueRun κ).IsCounted := rfl
  exact foldl_of_step IsCounted (fun counted step => counted_step counted step) unused moves

variable (law : run.Conserved) (counted : run.IsCounted)
include law counted

theorem length_accepted : (run.tickets .accepted).length =
    run.queue.unfinished + (Fate.settled.flatMap run.having).length := by
  have places := law.balanced.length_eq
  rw [IsCounted] at counted
  simp only [Fate.all, Fate.settled, having, List.flatMap_cons, List.flatMap_nil,
    List.length_append, List.length_nil] at counted places ⊢
  omega

theorem isSettled_iff : run.queue.isSettled = true ↔
    ∀ ticket ∈ run.tickets .accepted, ticket ∈ Fate.settled.flatMap run.having := by
  have settled_iff : run.queue.isSettled = true ↔
      run.having .waiting = [] ∧ run.having .inFlight = [] := by
    rw [IsCounted] at counted
    simp [CommandQueue.isSettled, counted, having]
  rw [settled_iff]
  constructor
  · rintro ⟨waiting, idle⟩ ticket accepted
    have placed := law.balanced.mem_iff.1 accepted
    simpa [Fate.all, Fate.settled, waiting, idle] using placed
  · intro settled
    -- A command that waits or is in flight would have two fates.
    have elsewhere (fate : Fate) (unsettled : fate ∉ Fate.settled) : run.having fate = [] := by
      refine List.eq_nil_iff_forall_not_mem.2 fun ticket member => ?_
      have accepted := law.mem_having member
      obtain ⟨other, listed, member'⟩ := List.mem_flatMap.1 (settled ticket accepted)
      have same : fate = other := (law.existsUnique_fate accepted).unique member member'
      exact unsettled (same ▸ listed)
    exact ⟨elsewhere .waiting (by decide), elsewhere .inFlight (by decide)⟩

end Counted

theorem worker_finish {queue : CommandQueue (Ticket κ)} {ticket : Ticket κ}
    (busy : queue.inFlight? = some ticket) {outcome report : Except Failure Unit}
    (quiet : (@QueueMove.work κ none (.finish outcome report)).raises = false) :
    (queue.finish outcome fun _ _ => report).1.worker = .idle := by
  have succeeds : report = .ok () := by
    cases report with
    | ok _ => rfl
    | error cause => cases quiet
  have worker := CommandQueue.worker_of_inFlight? busy
  rw [CommandQueue.finish_quiet (fun _ _ => succeeds) worker]

structure IsServed (run : QueueRun κ) : Prop where
  running : run.queue.isRunning = true
  wanted : run.stops = 0

theorem IsServed.work {run after : QueueRun κ} {next : WorkerMove} (served : run.IsServed)
    (quiet : (@QueueMove.work κ none next).raises = false) (step : WorkStep run next after) :
    after.IsServed := by
  cases step with
  | begun _ taken =>
    obtain ⟨-, -, busy⟩ := CommandQueue.next?_some taken
    exact ⟨CommandQueue.isRunning_of_inFlight? busy, served.wanted⟩
  | finished _ busy =>
    exact ⟨by simp [CommandQueue.isRunning, worker_finish busy quiet], served.wanted⟩
  | left cancelled => exact absurd served.wanted (Nat.ne_of_gt cancelled)
  | impossible => exact served

theorem IsServed.step {run after : QueueRun κ} {next : QueueMove κ} (served : run.IsServed)
    (goes : next.isStop = false) (quiet : next.raises = false) (step : QueueStep run next after) :
    after.IsServed := by
  cases step with
  | accepted accepted =>
    have running := served.running
    refine ⟨?_, served.wanted⟩
    simpa [CommandQueue.isRunning, CommandQueue.enqueue_worker accepted] using running
  | rejected => exact ⟨served.running, served.wanted⟩
  | started => exact ⟨CommandQueue.isRunning_start, served.wanted⟩
  | @worked who next after employed step =>
    cases who with
    | none => exact served.work quiet step
    | some index =>
      obtain ⟨worker, stops⟩ := own_of_workStep employed step
      have running := served.running
      refine ⟨?_, stops.trans served.wanted⟩
      simpa only [CommandQueue.isRunning, worker] using running
  | cancelled | stopped | discarded => cases goes
  | impossible => exact served

theorem IsServed.foldl {run : QueueRun κ} (served : run.IsServed) {moves : List (QueueMove κ)}
    (goes : ∀ next ∈ moves, next.isStop = false) (quiet : ∀ next ∈ moves, next.raises = false) :
    (moves.foldl move run).IsServed := by
  induction moves generalizing run with
  | nil => exact served
  | cons next rest ih =>
    have here := served.step (goes next List.mem_cons_self) (quiet next List.mem_cons_self)
      (run.step_move next)
    exact ih here (fun later member => goes later (.tail _ member))
      fun later member => quiet later (.tail _ member)

theorem isServed_start {run : QueueRun κ} (free : run.stops = 0) : (run.move .start).IsServed :=
  ⟨CommandQueue.isRunning_start, free⟩

def workEnding? (run : QueueRun κ) : WorkerMove → Option (Ticket κ × Except Failure Unit)
  | .finish outcome _ =>
      if run.stops = 0 then run.queue.inFlight?.map fun ticket => (ticket, outcome) else none
  | _ => none

def workNotice? (run : QueueRun κ) : WorkerMove → Option (Ticket κ × Failure)
  | .finish outcome report =>
      if run.stops = 0 then (run.queue.finish outcome fun _ _ => report).2 else none
  | _ => none

def ending? (run : QueueRun κ) : QueueMove κ → Option (Ticket κ × Except Failure Unit)
  | .work who next => if run.employs who then (run.exchange who).workEnding? next else none
  | _ => none

def notice? (run : QueueRun κ) : QueueMove κ → Option (Ticket κ × Failure)
  | .work who next => if run.employs who then (run.exchange who).workNotice? next else none
  | _ => none

def collect {α : Type} (read : QueueRun κ → QueueMove κ → Option α) (run : QueueRun κ) :
    List (QueueMove κ) → List α
  | [] => []
  | next :: rest => (read run next).toList ++ collect read (run.move next) rest

def failed? : Ticket κ × Except Failure Unit → Option (Ticket κ × Failure)
  | (_, .ok ()) => none
  | (ticket, .error failure) => some (ticket, failure)

theorem workNotice?_eq (run : QueueRun κ) (next : WorkerMove) :
    run.workNotice? next = (run.workEnding? next).bind failed? := by
  cases next with
  | finish outcome report =>
    by_cases free : run.stops = 0 <;> cases worker : run.queue.worker <;> cases outcome <;>
      simp [workNotice?, workEnding?, failed?, CommandQueue.finish, CommandQueue.inFlight?, free,
        worker]
  | take | leave => rfl

theorem notice?_eq (run : QueueRun κ) (next : QueueMove κ) :
    notice? run next = (ending? run next).bind failed? := by
  cases next with
  | work who next =>
    cases employed : run.employs who <;> simp [notice?, ending?, employed, workNotice?_eq]
  | _ => rfl

theorem finished_work (run : QueueRun κ) (next : WorkerMove) : (run.work next).tickets .finished =
    run.tickets .finished ++ ((run.workEnding? next).map Prod.fst).toList := by
  cases next with
  | take =>
    simp only [work, workEnding?]
    split <;> simp [tickets, note]
  | finish outcome report =>
    cases stops : run.stops <;> cases busy : run.queue.inFlight? <;>
      simp [work, workEnding?, stops, busy, tickets, note]
  | leave =>
    simp only [work, workEnding?]
    split <;> simp [tickets, note]

theorem finished_move (run : QueueRun κ) (next : QueueMove κ) : (run.move next).tickets .finished =
    run.tickets .finished ++ ((ending? run next).map Prod.fst).toList := by
  cases next with
  | work who next =>
    cases employed : run.employs who <;> simp [move, ending?, employed, finished_work]
  | start => simp [move, ending?]
  | _ =>
    simp only [move, ending?]
    split <;> simp [tickets, note, clear, forget]

variable (run : QueueRun κ) (moves : List (QueueMove κ))

theorem notices_eq :
    run.collect notice? moves = (run.collect ending? moves).filterMap failed? := by
  induction moves generalizing run with
  | nil => rfl
  | cons next rest ih =>
    rw [collect, collect, List.filterMap_append, notice?_eq, ih]
    cases ending? run next with
    | none => rfl
    | some ending => cases reported : failed? ending <;> simp [reported]

theorem finished_foldl : (moves.foldl move run).tickets .finished =
    run.tickets .finished ++ (run.collect ending? moves).map Prod.fst := by
  induction moves generalizing run with
  | nil => simp [collect]
  | cons next rest ih =>
    rw [List.foldl_cons, ih, finished_move, collect, List.map_append, List.append_assoc]
    cases ending? run next <;> rfl

theorem Conserved.nodup_finished {run : QueueRun κ} (law : run.Conserved) :
    (run.tickets .finished).Nodup :=
  (List.nodup_append.1 (law.balanced.nodup_iff.1 law.nodup)).1

/-- Whatever commands fail, a queue that was started runs until it is stopped, unless a report fails
as well. Every command that failed is reported once, with its failure, and what waits behind it is
begun in order. The unfinished commands are those that wait and those in flight, and there is at most
one in flight as long as no start falls into a stop after the worker has left. -/
theorem survived_play (device : String) (limit? : Option Nat) (moves : List (QueueMove κ)) :
    let fresh : QueueRun κ := { queue := { device, limit? } }
    let run := play device limit? moves
    (∀ later : List (QueueMove κ), run.stops = 0 →
      (∀ next ∈ later, next.isStop = false) → (∀ next ∈ later, next.raises = false) →
      (play device limit? (moves ++ .start :: later)).queue.isRunning = true) ∧
    (fresh.collect ending? moves).map Prod.fst = run.tickets .finished ∧
    (run.tickets .finished).Nodup ∧
    fresh.collect notice? moves = (fresh.collect ending? moves).filterMap failed? ∧
    (∀ report : Ticket κ → Failure → Except Failure Unit,
      (∀ ticket failure, report ticket failure = .ok ()) → run.queue.isRunning = true →
      ∀ (handle : Ticket κ → Except Failure Unit) (outcome : Except Failure Unit),
        (run.queue.conclude report outcome).1.workOff (fun ticket => .ends (handle ticket)) report =
          ({ run.queue with waiting := [], worker := .idle, unfinished := run.astray.length },
            run.queue.waiting.flatMap fun ticket =>
              [.began ticket, .verdict ticket (handle ticket)])) ∧
    run.queue.unfinished = run.queue.waiting.length + (run.having .inFlight).length ∧
    (fresh.StartsClear moves → run.astray = [] ∧
      run.queue.unfinished = run.queue.waiting.length + run.queue.inFlight?.toList.length) ∧
    (run.tickets .accepted).length =
      run.queue.unfinished + (Fate.settled.flatMap run.having).length ∧
    (run.queue.isSettled = true ↔
      ∀ ticket ∈ run.tickets .accepted, ticket ∈ Fate.settled.flatMap run.having) := by
  intro fresh run
  have law : run.Conserved := conserved_play device limit? moves
  have counted : run.IsCounted := counted_play device limit? moves
  have finished : run.tickets .finished = (fresh.collect ending? moves).map Prod.fst :=
    finished_foldl fresh moves
  refine ⟨?_, finished.symm, law.nodup_finished, notices_eq fresh moves, ?_, counted, ?_,
    length_accepted law counted, isSettled_iff law counted⟩
  · intro later free goes quiet
    rw [play, List.foldl_append]
    exact ((isServed_start free).foldl goes quiet).running
  · intro report quiet running handle outcome
    exact CommandQueue.workOff_conclude quiet (isCounted_iff.1 counted) running handle outcome
  · intro clear
    have alone : run.IsAlone := isAlone_play clear
    have astray : run.astray = [] := by simp [QueueRun.astray, alone.strays]
    refine ⟨astray, counted.trans ?_⟩
    rw [having_inFlight, astray, List.append_nil]

theorem survived_refusal :
    let refusal : Failure := .call .bodyNotObject
    let moves : List (QueueMove String) := [.start, .enqueue "Cool", .enqueue "High",
      .work none .take, .work none (.finish (.error refusal) (.ok ()))]
    let run := play "unit" (some 20) moves
    (play "unit" (some 20) (moves ++ [.start, .work none .take])).queue.isRunning = true ∧
    QueueRun.collect notice? { queue := { device := "unit" } } moves = [(⟨0, "Cool"⟩, refusal)] ∧
    (run.queue.workOff (fun _ => .ends (.error refusal)) fun _ _ => .ok ()).2 =
      [.began ⟨1, "High"⟩, .failed ⟨1, "High"⟩ refusal] ∧
    run.queue.unfinished = 1 := by
  intro refusal moves run
  obtain ⟨runs, -, -, notices, behind, counted, -⟩ := survived_play "unit" (some 20) moves
  refine ⟨runs [.work none .take] rfl (by simp [QueueMove.isStop]) (by simp [QueueMove.raises]),
    ?_, ?_, ?_⟩
  · exact notices
  · have drained := behind (fun _ _ => .ok ()) (fun _ _ => rfl) rfl (fun _ => .error refusal) (.ok ())
    exact congrArg Prod.snd drained
  · exact counted

/-- A start in the middle of a stop, after the worker has left, and another one behind it: two commands
are in flight, and nothing waits. -/
theorem not_counted_restarted :
    let moves : List (QueueMove String) := [.start, .beginStop, .work none .leave, .start, .endStop,
      .start, .enqueue "Cool", .enqueue "High", .work none .take, .work (some 0) .take]
    let run := play "unit" (some 20) moves
    run.queue.waiting = [] ∧ run.queue.unfinished = 2 :=
  ⟨rfl, rfl⟩

end QueueRun

end ApplianceCloud
