import ApplianceCloud.Queue.Basic

namespace ApplianceCloud

inductive Handling where
  | waits
  | ends (outcome : Except Failure Unit)

inductive WorkEvent (κ : Type) where
  | began (command : κ)
  | ended (command : κ)
  | failed (command : κ) (failure : Failure)
  deriving DecidableEq, Repr

namespace CommandQueue

variable {κ : Type}

def conclude (report : κ → Failure → Except Failure Unit) (outcome : Except Failure Unit)
    (queue : CommandQueue κ) : CommandQueue κ × List (WorkEvent κ) :=
  match queue.inFlight?, queue.finish outcome report with
  | none, (after, _) => (after, [])
  | some command, (after, none) => (after, [.ended command])
  | some _, (after, some (command, failure)) => (after, [.failed command failure])

def work (handle : κ → Handling) (report : κ → Failure → Except Failure Unit) :
    Nat → CommandQueue κ → CommandQueue κ × List (WorkEvent κ)
  | 0, queue => (queue, [])
  | count + 1, queue =>
      match queue.next? with
      | none => (queue, [])
      | some (command, taken) =>
          match handle command with
          -- The worker stays at the command, and nothing behind it is begun.
          | .waits => (taken, [.began command])
          | .ends outcome =>
              let (after, events) := taken.conclude report outcome
              let (last, more) := after.work handle report count
              (last, .began command :: events ++ more)

def workOff (handle : κ → Handling) (report : κ → Failure → Except Failure Unit)
    (queue : CommandQueue κ) : CommandQueue κ × List (WorkEvent κ) :=
  queue.work handle report queue.waiting.length

end CommandQueue

end ApplianceCloud
