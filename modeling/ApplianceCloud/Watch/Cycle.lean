import ApplianceCloud.Activity
import ApplianceCloud.Status.Basic
import ApplianceCloud.Watch.Session

/-!
# Cycles of a report session

A cycle opens a work unless one is open, polls it until data arrive, and closes it. Whatever ends a
cycle by a failure of the cloud closes the work too, and a failure to close a work is passed over.
`snapshot` and `forceStop` hold the lock of the device.
-/

namespace ApplianceCloud.Watch

inductive WatchCall where
  | start
  | poll (workId : String)
  | stop (workId : String)
  | pause (seconds : Binary64)
  deriving DecidableEq, Repr

abbrev remote : Interface where
  Call := WatchCall
  Answer
    | .start => String
    | .poll _ => Option Status
    | .stop _ => Unit
    | .pause _ => Unit

abbrev Watching := Activity remote Session

def answerTo (what : WatchCall) : Watching (Except Failure (remote.Answer what)) :=
  (Activity.ask (I := remote) what).attempt

def move (settings : Settings) (phase : Phase) (workId : String) : Watching Unit := do
  let session ← Activity.gets id
  let moved ← session.move settings phase workId
  Activity.modify fun _ => moved

def close (workId : String) : Watching Unit :=
  if workId = "" then pure () else do
    let _ ← answerTo (.stop workId)

def abandon (settings : Settings) (workId : String) : Watching Unit := do
  let session ← Activity.gets id
  close (if workId = "" then session.workId else workId)
  Activity.modify fun _ => .fresh settings

/-- Ends a cycle by a failure of the cloud: a device that is disconnected has the offline status, and
the other failures of this library are wrapped. A failure of another kind leaves the session as it
is. -/
def endBy (settings : Settings) (family : Family) (wrap : String → CallFault) (failure : Failure) :
    Watching (Option Status) := do
  match failure with
  | .offline _ =>
      abandon settings ""
      return some (← Status.offline family)
  | other =>
      if other.isOwn then
        abandon settings ""
        Activity.fail (.call (wrap other.message))
      else Activity.fail other

def exhaust (settings : Settings) : Watching (Option Status) := do
  abandon settings ""
  Activity.fail (.call (.exhausted settings.device))

/-- Polls an open work as long as the session has polls left, with a pause between two polls, and
`bound` times at most. A session gets polls back only from a start, so a cycle that nobody disturbs
never comes to a bound of as many polls as it begins with. -/
def polls (settings : Settings) (family : Family) (workId : String) : Nat → Watching (Option Status)
  | 0 => exhaust settings
  | bound + 1 => do
      let session ← Activity.gets id
      if session.retriesLeft ≤ 0 then exhaust settings else
      move settings .polling ""
      match ← answerTo (.poll workId) with
      | .ok (some status) =>
          close workId
          move settings .stopped ""
          return some status
      | .ok none =>
          Activity.modify fun session => { session with retriesLeft := session.retriesLeft - 1 }
          let session ← Activity.gets id
          if 0 < session.retriesLeft then
            let _ ← Activity.ask (I := remote) (.pause settings.interval)
          polls settings family workId bound
      | .error (.expired _) =>
          move settings .expired ""
          abandon settings workId
          return none
      | .error failure => endBy settings family (.pollFailed settings.device) failure

def pollOpen (settings : Settings) (family : Family) (bound : Nat) : Watching (Option Status) := do
  let session ← Activity.gets id
  Activity.modify fun session => { session with retriesLeft := settings.retries }
  polls settings family session.workId bound

def cycle (settings : Settings) (family : Family) (bound : Nat) : Watching (Option Status) := do
  let session ← Activity.gets id
  if session.phase.isOpen then pollOpen settings family bound
  else match ← answerTo .start with
    | .ok workId =>
        move settings .started workId
        pollOpen settings family bound
    | .error failure => endBy settings family (.startFailed settings.device) failure

def snapshot (settings : Settings) (family : Family) : Watching (Option Status) :=
  Activity.locked (cycle settings family settings.retries.toNat)

def forceStop (settings : Settings) : Watching Unit := Activity.locked (abandon settings "")

end ApplianceCloud.Watch
