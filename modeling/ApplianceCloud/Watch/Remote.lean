import ApplianceCloud.Base64
import ApplianceCloud.Cloud.Call
import ApplianceCloud.Status.Telemetry
import ApplianceCloud.Watch.Cycle

namespace ApplianceCloud.Watch

variable {σ : Type}

def workPath : String := "rti/rtiMon"

def resultPath : String := "rti/rtiResult"

def expiredCode : String := "0100"

def workPayload (option device workId : String) : Fields Document :=
  [("cmd", .text "Mon"), ("cmdOpt", .text option), ("deviceId", .text device), ("workId", .text workId)]

def openedWork (envelope : Fields Document) : Except Failure String :=
  let workId := envelope.orNull "workId"
  if workId.isTruthy then .ok workId.display else .error (.call .noWorkId)

def openWork (device : String) : Cloud σ String := do
  let number ← Cloud.newNumber
  openedWork (← Cloud.post workPath (workPayload "Start" device number.grouped))

def closeWork (device workId : String) : Cloud σ Unit := do
  let _ ← Cloud.post workPath (workPayload "Stop" device workId)

def workOf (envelope : Fields Document) : Document :=
  match envelope.orNull "workList" with
  | .list items => items.headD .null
  | other => other

def statusOfData (capability : Capability) (data : Document) : Except Failure (Option Status) :=
  if !data.isTruthy then .ok none
  else match data with
    | .text s => match Base64.decode? s with
      | some bytes => (Status.ofPayload capability bytes).map some
      | none => .error (.decoding .invalidPayload)
    | _ => .error (.decoding .invalidPayload)

def failureOf? (workId code : String) : Option Failure :=
  let category := ResultCategory.ofText code
  if code = expiredCode then some (.expired (.workGone workId code))
  else if category.isOffline then some (.offline (.notResponding code))
  else if category ≠ .ok then some (.call (.pollRefused code category))
  else none

/-- The status that an envelope has for a work; without a code there is none yet. -/
def polledStatus (capability : Capability) (workId : String) (envelope : Fields Document) :
    Except Failure (Option Status) :=
  match workOf envelope with
  | .object work =>
      let code := Fields.orNull work "returnCode"
      if code.isNull then .ok none
      else match failureOf? workId code.display with
        | some failure => .error failure
        | none => statusOfData capability (Fields.orNull work "returnData")
  | _ => .ok none

def pollWork (device workId : String) (capability : Capability) : Cloud σ (Option Status) := do
  let entry : Document := .object [("deviceId", .text device), ("workId", .text workId)]
  polledStatus capability workId (← Cloud.post resultPath [("workList", .list [entry])])

/-- How the calls of a session are made. As long as the capability is not known, a poll cannot read
a status. -/
def perform (device : String) (capability? : Option Capability) :
    (what : WatchCall) → Cloud σ (remote.Answer what)
  | .start => openWork device
  | .poll workId => match capability? with
    | some capability => pollWork device workId capability
    | none => Activity.ofExcept (.ok none)
  | .stop workId => closeWork device workId
  | .pause seconds => Cloud.pause seconds

end ApplianceCloud.Watch
