import ApplianceCloud.Failure
import ApplianceCloud.Numeric.Binary64

namespace ApplianceCloud.Watch

inductive Phase where
  | idle
  | started
  | polling
  | expired
  | stopped
  deriving DecidableEq, Repr

namespace Phase

def all : List Phase := [idle, started, polling, expired, stopped]

def name : Phase → String
  | idle => "idle"
  | started => "started"
  | polling => "polling"
  | expired => "expired"
  | stopped => "stopped"

def next : Phase → List Phase
  | idle => [started]
  | started => [polling]
  | polling => [polling, stopped, expired]
  | expired => [started]
  | stopped => [started]

def isOpen : Phase → Bool
  | started | polling => true
  | _ => false

end Phase

structure Settings where
  device : String
  interval : Binary64 := .ofDecimal false 5 (-1)
  retries : Int := 10
  deriving DecidableEq, Repr

structure Session where
  phase : Phase
  workId : String
  retriesLeft : Int
  deriving DecidableEq, Repr

namespace Session

def fresh (settings : Settings) : Session where
  phase := .idle
  workId := ""
  retriesLeft := settings.retries

/-- The session with a phase entered: a start records the work and gives back all polls, and leaving
an open phase forgets the work. -/
def enter (settings : Settings) (session : Session) (phase : Phase) (workId : String) : Session :=
  match phase with
  | .started => { phase, workId, retriesLeft := settings.retries }
  | .polling => { session with phase }
  | _ => { session with phase, workId := "" }

def move (settings : Settings) (session : Session) (phase : Phase) (workId : String) :
    Except Failure Session :=
  if phase ∉ session.phase.next then
    .error (.phase (.forbidden settings.device session.phase.name phase.name))
  else if phase = .started ∧ workId = "" then .error (.phase .noWorkId)
  else .ok (session.enter settings phase workId)

end Session

end ApplianceCloud.Watch
