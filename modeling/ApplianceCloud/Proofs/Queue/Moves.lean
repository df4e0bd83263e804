import ApplianceCloud.Proofs.Queue.Operations
import ApplianceCloud.Queue.Work

namespace ApplianceCloud

variable {κ : Type}

structure Ticket (κ : Type) where
  number : Nat
  command : κ

inductive Mark where
  | accepted
  | begun
  | finished
  | abandoned
  | discarded
  deriving DecidableEq

inductive QueueEvent (κ : Type) where
  | marked (mark : Mark) (ticket : Ticket κ)
  | rejected (command : κ)
  | stopped

namespace QueueEvent

def ticket? (mark : Mark) : QueueEvent κ → Option (Ticket κ)
  | marked mark' ticket => if mark' = mark then some ticket else none
  | _ => none

def offered? : QueueEvent κ → Option κ
  | marked .accepted ticket => some ticket.command
  | rejected command => some command
  | _ => none

def isStopped : QueueEvent κ → Bool
  | stopped => true
  | _ => false

def ticketsOf (mark : Mark) (log : List (QueueEvent κ)) : List (Ticket κ) :=
  log.filterMap (ticket? mark)

@[simp] theorem ticketsOf_append (mark : Mark) (log events : List (QueueEvent κ)) :
    ticketsOf mark (log ++ events) = ticketsOf mark log ++ ticketsOf mark events :=
  List.filterMap_append

@[simp] theorem ticketsOf_map_marked (mark mark' : Mark) (tickets : List (Ticket κ)) :
    ticketsOf mark (tickets.map (marked mark')) = if mark' = mark then tickets else [] := by
  induction tickets with
  | nil => simp [ticketsOf]
  | cons ticket rest ih =>
    simp only [ticketsOf] at ih
    by_cases same : mark' = mark <;> simp_all [ticketsOf, ticket?]

@[simp] theorem ticketsOf_marked (mark mark' : Mark) (ticket : Ticket κ) :
    ticketsOf mark [marked mark' ticket] = if mark' = mark then [ticket] else [] :=
  ticketsOf_map_marked mark mark' [ticket]

@[simp] theorem ticketsOf_nil (mark : Mark) : ticketsOf mark ([] : List (QueueEvent κ)) = [] := rfl

@[simp] theorem ticketsOf_rejected (mark : Mark) (command : κ) :
    ticketsOf mark [rejected command] = [] := rfl

@[simp] theorem ticketsOf_stopped (mark : Mark) : ticketsOf mark [stopped (κ := κ)] = [] := rfl

def sinceStop (log : List (QueueEvent κ)) : List (QueueEvent κ) :=
  log.foldl (fun since event => if event.isStopped then [] else since ++ [event]) []

theorem sinceStop_append_stopped (log : List (QueueEvent κ)) :
    sinceStop (log ++ [stopped]) = [] := by
  simp [sinceStop, isStopped]

theorem sinceStop_append {events : List (QueueEvent κ)} (log : List (QueueEvent κ))
    (going : ∀ event ∈ events, event.isStopped = false) :
    sinceStop (log ++ events) = sinceStop log ++ events := by
  induction events generalizing log with
  | nil => simp
  | cons event rest ih =>
    have here : sinceStop (log ++ [event]) = sinceStop log ++ [event] := by
      simp [sinceStop, going event (by simp)]
    have there := ih (log ++ [event]) fun event member => going event (by simp [member])
    rw [List.append_cons, there, here, List.append_assoc, List.singleton_append]

end QueueEvent

/-- What a worker does. The handler of a command may take any time and end in any way, and so may the
report of a failure. A worker that a stop cancelled does nothing any more but leave. -/
inductive WorkerMove where
  | take
  | finish (outcome report : Except Failure Unit)
  | leave

/-- What callers, workers and stops do. A stop cancels the worker of the queue and waits until it has
left; only then, and maybe after other moves, it forgets the worker that the queue has by now and
discards what waits. A forgotten worker goes on by itself, and moves under its number. -/
inductive QueueMove (κ : Type) where
  | enqueue (command : κ)
  | start
  | work (who : Option Nat) (next : WorkerMove)
  | beginStop
  | endStop

def QueueMove.offered? : QueueMove κ → Option κ
  | .enqueue command => some command
  | _ => none

structure Stray (κ : Type) where
  worker : Worker κ
  stops : Nat

structure QueueRun (κ : Type) where
  queue : CommandQueue (Ticket κ)
  /-- How many stops wait for the worker to leave. -/
  stops : Nat := 0
  /-- How many stops have yet to discard what waits: the worker that they cancelled has left. -/
  due : Nat := 0
  /-- The workers that a stop forgot. -/
  strays : List (Stray (Ticket κ)) := []
  log : List (QueueEvent κ) := []

inductive Fate where
  | finished
  | inFlight
  | waiting
  | abandoned
  | discarded
  deriving DecidableEq

def Fate.all : List Fate := [finished, inFlight, waiting, abandoned, discarded]

theorem Fate.mem_all (fate : Fate) : fate ∈ all := by
  cases fate <;> decide

def Worker.inHand? : Worker κ → Option κ
  | .busy command => some command
  | _ => none

theorem CommandQueue.inFlight?_eq (queue : CommandQueue κ) :
    queue.inFlight? = queue.worker.inHand? := by
  unfold inFlight? Worker.inHand?
  cases queue.worker <;> rfl

namespace QueueRun

open QueueEvent

def tickets (run : QueueRun κ) (mark : Mark) : List (Ticket κ) := ticketsOf mark run.log

def astray (run : QueueRun κ) : List (Ticket κ) :=
  run.strays.filterMap fun stray => stray.worker.inHand?

def having (run : QueueRun κ) : Fate → List (Ticket κ)
  | .finished => run.tickets .finished
  | .inFlight => run.queue.inFlight?.toList ++ run.astray
  | .waiting => run.queue.waiting
  | .abandoned => run.tickets .abandoned
  | .discarded => run.tickets .discarded

def note (run : QueueRun κ) (queue : CommandQueue (Ticket κ)) (events : List (QueueEvent κ)) :
    QueueRun κ :=
  { run with queue, log := run.log ++ events }

def ticketFor (run : QueueRun κ) (command : κ) : Ticket κ :=
  ⟨(run.tickets .accepted).length, command⟩

def employs (run : QueueRun κ) (who : Option Nat) : Bool :=
  who.all fun index => index < run.strays.length

/-- The run as a forgotten worker has it: that one in the place of the queue's own, and the other way
round. -/
def exchange (run : QueueRun κ) : Option Nat → QueueRun κ
  | none => run
  | some index =>
      match run.strays[index]? with
      | none => run
      | some stray => { run with
          queue := { run.queue with worker := stray.worker }
          stops := stray.stops
          strays := run.strays.set index ⟨run.queue.worker, run.stops⟩ }

def work (run : QueueRun κ) : WorkerMove → QueueRun κ
  | .take =>
      match run.stops, run.queue.next? with
      | 0, some (ticket, queue) => run.note queue [.marked .begun ticket]
      | _, _ => run
  | .finish outcome report =>
      match run.stops, run.queue.inFlight? with
      | 0, some ticket =>
          run.note (run.queue.finish outcome fun _ _ => report).1 [.marked .finished ticket]
      | _, _ => run
  | .leave =>
      match run.stops, run.queue.dismiss with
      -- All stops that waited for the worker are free to go on.
      | stops + 1, .ok queue =>
          { run.note queue (run.queue.inFlight?.toList.map (.marked .abandoned)) with
            stops := 0
            due := run.due + (stops + 1) }
      | _, _ => run

def forget (run : QueueRun κ) : QueueRun κ :=
  { run with
    queue := { run.queue with worker := .absent }
    stops := 0
    -- The worker that the stop cancelled has left: one at work by now was started since.
    strays := run.strays ++ if run.queue.isRunning then [⟨run.queue.worker, run.stops⟩] else [] }

def clear (run : QueueRun κ) : QueueRun κ :=
  run.note run.queue.discard (run.queue.waiting.map (.marked .discarded) ++ [.stopped])

def move (run : QueueRun κ) : QueueMove κ → QueueRun κ
  | .enqueue command =>
      match run.queue.enqueue (run.ticketFor command) with
      | .ok queue => run.note queue [.marked .accepted (run.ticketFor command)]
      | .error _ => run.note run.queue [.rejected command]
  | .start => run.note run.queue.start []
  | .work who next =>
      if run.employs who then ((run.exchange who).work next).exchange who else run
  | .beginStop =>
      match run.queue.worker with
      | .idle | .busy _ => { run with stops := run.stops + 1 }
      -- There is nothing to wait for if the worker has left, and what ended it is passed on.
      | .absent => run.clear
      | .ended _ => run
  | .endStop =>
      match run.due with
      | due + 1 => { run.forget.clear with due }
      | 0 => run

def play (device : String) (limit? : Option Nat) (moves : List (QueueMove κ)) : QueueRun κ :=
  moves.foldl move { queue := { device, limit? } }

/-- Whether no start falls between the end of a worker that a stop cancelled and the rest of that
stop. -/
def StartsClear (run : QueueRun κ) : List (QueueMove κ) → Prop
  | [] => True
  | next :: rest => (next = .start → run.due = 0) ∧ StartsClear (run.move next) rest

def Declines (run : QueueRun κ) : WorkerMove → Prop
  | .take => 0 < run.stops ∨ run.queue.next? = none
  | .finish _ _ => 0 < run.stops ∨ run.queue.inFlight? = none
  | .leave => run.stops = 0 ∨ ∃ failure, run.queue.dismiss = .error failure

inductive WorkStep (run : QueueRun κ) : WorkerMove → QueueRun κ → Prop where
  | begun {ticket queue} (free : run.stops = 0) (next : run.queue.next? = some (ticket, queue)) :
      WorkStep run .take (run.note queue [.marked .begun ticket])
  | finished {outcome report ticket} (free : run.stops = 0)
      (busy : run.queue.inFlight? = some ticket) :
      WorkStep run (.finish outcome report)
        (run.note (run.queue.finish outcome fun _ _ => report).1 [.marked .finished ticket])
  | left {queue} (cancelled : 0 < run.stops) (dismissed : run.queue.dismiss = .ok queue) :
      WorkStep run .leave
        { run.note queue (run.queue.inFlight?.toList.map (.marked .abandoned)) with
          stops := 0
          due := run.due + run.stops }
  | impossible {next} (declined : run.Declines next) : WorkStep run next run

theorem WorkStep.strays {run after : QueueRun κ} {next : WorkerMove}
    (step : WorkStep run next after) : after.strays = run.strays := by
  cases step <;> rfl

theorem workStep_work (run : QueueRun κ) (next : WorkerMove) : WorkStep run next (run.work next) := by
  cases next with
  | take =>
    simp only [work]
    split
    · next free taken => exact .begun free taken
    · next declined =>
      refine .impossible ?_
      cases taken : run.queue.next? with
      | none => exact .inr taken
      | some pair => exact .inl (Nat.pos_of_ne_zero fun free => declined _ _ free taken)
  | finish outcome report =>
    simp only [work]
    split
    · next free busy => exact .finished free busy
    · next declined =>
      refine .impossible ?_
      cases busy : run.queue.inFlight? with
      | none => exact .inr busy
      | some ticket => exact .inl (Nat.pos_of_ne_zero fun free => declined _ free busy)
  | leave =>
    simp only [work]
    split
    · next stops queue cancelled dismissed =>
      have left : WorkStep run .leave _ := .left (cancelled ▸ Nat.succ_pos stops) dismissed
      rwa [cancelled] at left
    · next declined =>
      refine .impossible ?_
      cases dismissed : run.queue.dismiss with
      | error failure => exact .inr ⟨failure, dismissed⟩
      | ok queue =>
        refine .inl (Nat.eq_zero_of_not_pos fun cancelled => ?_)
        exact declined _ _ (Nat.succ_pred_eq_of_pos cancelled).symm dismissed

def Refuses (run : QueueRun κ) : QueueMove κ → Prop
  | .enqueue _ | .start => False
  | .work who _ => run.employs who = false
  | .beginStop => ∃ failure, run.queue.worker = .ended failure
  | .endStop => run.due = 0

inductive QueueStep (run : QueueRun κ) : QueueMove κ → QueueRun κ → Prop where
  | accepted {command queue} (accepted : run.queue.enqueue (run.ticketFor command) = .ok queue) :
      QueueStep run (.enqueue command) (run.note queue [.marked .accepted (run.ticketFor command)])
  | rejected {command failure}
      (full : run.queue.enqueue (run.ticketFor command) = .error failure) :
      QueueStep run (.enqueue command) (run.note run.queue [.rejected command])
  | started : QueueStep run .start (run.note run.queue.start [])
  | worked {who next after} (employed : run.employs who = true)
      (step : WorkStep (run.exchange who) next after) :
      QueueStep run (.work who next) (after.exchange who)
  | cancelled (running : run.queue.isRunning = true) :
      QueueStep run .beginStop { run with stops := run.stops + 1 }
  | stopped (absent : run.queue.worker = .absent) : QueueStep run .beginStop run.clear
  | discarded {due} (resumes : run.due = due + 1) :
      QueueStep run .endStop { run.forget.clear with due }
  | impossible {next} (refused : run.Refuses next) : QueueStep run next run

theorem step_move (run : QueueRun κ) (next : QueueMove κ) : QueueStep run next (run.move next) := by
  cases next with
  | enqueue command =>
    simp only [move]
    split
    · next accepted => exact .accepted accepted
    · next full => exact .rejected full
  | start => exact .started
  | work who next =>
    simp only [move]
    split
    · next employed => exact .worked employed (workStep_work _ next)
    · next dismissed => exact .impossible (Bool.eq_false_iff.2 dismissed)
  | beginStop =>
    simp only [move]
    split
    · next idle => exact .cancelled (by simp [CommandQueue.isRunning, idle])
    · next busy => exact .cancelled (by simp [CommandQueue.isRunning, busy])
    · next absent => exact .stopped absent
    · next failure ended => exact .impossible ⟨failure, ended⟩
  | endStop =>
    simp only [move]
    split
    · next due resumes => exact .discarded resumes
    · next free => exact .impossible free

theorem foldl_of_step (inv : QueueRun κ → Prop)
    (keeps : ∀ {run after next}, inv run → QueueStep run next after → inv after)
    {run : QueueRun κ} (initially : inv run) (moves : List (QueueMove κ)) :
    inv (moves.foldl move run) := by
  induction moves generalizing run with
  | nil => exact initially
  | cons next rest ih => exact ih (keeps initially (run.step_move next))

theorem exchange_eq (run : QueueRun κ) (who : Option Nat) : run.exchange who = run ∨
    ∃ before stray behind, run.strays = before ++ stray :: behind ∧
      run.exchange who = { run with
        queue := { run.queue with worker := stray.worker }
        stops := stray.stops
        strays := before ++ ⟨run.queue.worker, run.stops⟩ :: behind } := by
  cases who with
  | none => exact .inl rfl
  | some index =>
    cases found : run.strays[index]? with
    | none => exact .inl (by simp [exchange, found])
    | some stray =>
      obtain ⟨below, rfl⟩ := List.getElem?_eq_some_iff.1 found
      refine .inr ⟨run.strays.take index, run.strays[index], run.strays.drop (index + 1), ?_, ?_⟩
      · simp
      · simp only [exchange, found, List.set_eq_take_append_cons_drop, below, if_pos]

section Exchange

variable (run : QueueRun κ) (who : Option Nat)

/-- What does not look at the workers does not see who is the queue's own. -/
theorem exchange_congr {α : Type} (read : QueueRun κ → α)
    (blind : ∀ worker stops strays,
      read { run with queue := { run.queue with worker }, stops, strays } = read run) :
    read (run.exchange who) = read run := by
  obtain same | ⟨_, _, _, _, exchanged⟩ := run.exchange_eq who
  · rw [same]
  · rw [exchanged]
    exact blind _ _ _

@[simp] theorem log_exchange : (run.exchange who).log = run.log :=
  run.exchange_congr who log fun _ _ _ => rfl

@[simp] theorem tickets_exchange (mark : Mark) : (run.exchange who).tickets mark = run.tickets mark :=
  congrArg (ticketsOf mark) (run.log_exchange who)

@[simp] theorem waiting_exchange : (run.exchange who).queue.waiting = run.queue.waiting :=
  run.exchange_congr who (·.queue.waiting) fun _ _ _ => rfl

@[simp] theorem unfinished_exchange :
    (run.exchange who).queue.unfinished = run.queue.unfinished :=
  run.exchange_congr who (·.queue.unfinished) fun _ _ _ => rfl

theorem inFlight_exchange :
    ((run.exchange who).having .inFlight).Perm (run.having .inFlight) := by
  obtain same | ⟨before, stray, behind, strays, exchanged⟩ := run.exchange_eq who
  · rw [same]
  · -- The two workers change places around those before the stray.
    rw [exchanged]
    simp only [having, astray, strays, CommandQueue.inFlight?_eq, List.filterMap_append,
      List.filterMap_cons]
    cases stray.worker.inHand? with
    | none => cases run.queue.worker.inHand? <;> simp
    | some ticket =>
      cases run.queue.worker.inHand? with
      | none => simpa using List.perm_middle.symm
      | some other =>
        exact (List.perm_middle.cons ticket).trans
          ((List.Perm.swap other ticket _).trans (List.perm_middle.symm.cons other))

end Exchange

theorem own_of_workStep {run after : QueueRun κ} {index : Nat} {next : WorkerMove}
    (employed : run.employs (some index) = true)
    (step : WorkStep (run.exchange (some index)) next after) :
    (after.exchange (some index)).queue.worker = run.queue.worker ∧
      (after.exchange (some index)).stops = run.stops := by
  have below : index < run.strays.length := by simpa [employs] using employed
  have strays : after.strays = run.strays.set index ⟨run.queue.worker, run.stops⟩ := by
    simp [step.strays, exchange, below]
  simp [exchange, strays, below]

end QueueRun

end ApplianceCloud
