import ApplianceCloud.Failure

/-!
# Command queues

Commands of a device wait in a row and are worked on one at a time by a worker. A worker takes the
next command whenever it is idle, goes on after a command that failed, and ends only when reporting
a failure fails itself. `unfinished` counts the accepted commands that were neither worked off nor
discarded: `join` waits until there are none.
-/

namespace ApplianceCloud

inductive Worker (κ : Type) where
  | absent
  | idle
  | busy (command : κ)
  | ended (failure : Failure)
  deriving DecidableEq, Repr

structure CommandQueue (κ : Type) where
  device : String
  limit? : Option Nat := some 20
  waiting : List κ := []
  unfinished : Nat := 0
  worker : Worker κ := .absent
  deriving DecidableEq, Repr

namespace CommandQueue

variable {κ : Type}

def isRunning (queue : CommandQueue κ) : Bool :=
  match queue.worker with
  | .idle | .busy _ => true
  | _ => false

def isFull (queue : CommandQueue κ) : Bool :=
  queue.limit?.any fun limit => limit ≤ queue.waiting.length

def isSettled (queue : CommandQueue κ) : Bool := queue.unfinished = 0

def inFlight? (queue : CommandQueue κ) : Option κ :=
  match queue.worker with
  | .busy command => some command
  | _ => none

def enqueue (queue : CommandQueue κ) (command : κ) : Except Failure (CommandQueue κ) :=
  if queue.isFull then .error (.queue (.full queue.device))
  else .ok { queue with
    waiting := queue.waiting ++ [command]
    unfinished := queue.unfinished + 1 }

def start (queue : CommandQueue κ) : CommandQueue κ :=
  if queue.isRunning then queue else { queue with worker := .idle }

def next? (queue : CommandQueue κ) : Option (κ × CommandQueue κ) :=
  match queue.worker, queue.waiting with
  | .idle, command :: rest => some (command, { queue with waiting := rest, worker := .busy command })
  | _, _ => none

/-- Ends the work on the command in flight. A failure is reported once, and the worker goes on if
reporting it succeeds. The second answer is what was reported. -/
def finish (queue : CommandQueue κ) (outcome : Except Failure Unit)
    (report : κ → Failure → Except Failure Unit) : CommandQueue κ × Option (κ × Failure) :=
  match queue.worker with
  | .busy command =>
      let rest := queue.unfinished - 1
      match outcome with
      | .ok () => ({ queue with worker := .idle, unfinished := rest }, none)
      | .error failure =>
          let worker : Worker κ := match report command failure with
            | .ok () => .idle
            | .error cause => .ended cause
          ({ queue with worker, unfinished := rest }, some (command, failure))
  | _ => (queue, none)

/-- Takes the worker away, which abandons the command in flight. A worker that had ended passes on
what ended it, and nothing changes. -/
def dismiss (queue : CommandQueue κ) : Except Failure (CommandQueue κ) :=
  match queue.worker with
  | .absent | .idle => .ok { queue with worker := .absent }
  | .busy _ => .ok { queue with unfinished := queue.unfinished - 1, worker := .absent }
  | .ended failure => .error failure

def discard (queue : CommandQueue κ) : CommandQueue κ :=
  { queue with waiting := [], unfinished := queue.unfinished - queue.waiting.length }

def stop (queue : CommandQueue κ) : Except Failure (CommandQueue κ) := queue.dismiss.map discard

end CommandQueue

end ApplianceCloud
