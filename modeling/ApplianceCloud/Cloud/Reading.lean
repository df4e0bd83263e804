import ApplianceCloud.Cloud.Call
import ApplianceCloud.Status.Document

namespace ApplianceCloud.Cloud

variable {σ : Type}

def devicePath (device : String) : String := "service/devices/" ++ device

def readStatus (device : String) (capability : Capability) (envelope : Fields Document) :
    Except Failure Status :=
  match (envelope.orNull "result").object? with
  | none => .error (.call (.noResult device))
  | some result =>
      if !((result.lookup "online").getD (.bool true)).isTruthy then Status.offline capability.family
      else match (result.orNull "snapshot").object? with
        | none => .error (.call (.noStatus device))
        | some snapshot =>
            Status.ofDocument capability.family (some capability) true (.object snapshot)

def readDevice (device : String) (capability : Capability) : Cloud σ Status := do
  match ← (send .get (devicePath device) none).attempt with
  | .ok envelope => readStatus device capability envelope
  | .error (.offline _) => Status.offline capability.family
  | .error failure => Activity.fail failure

end ApplianceCloud.Cloud
