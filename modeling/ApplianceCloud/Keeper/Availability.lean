namespace ApplianceCloud

inductive Reach where
  | online
  | offline
  | unknown
  deriving DecidableEq, Repr

def Reach.name : Reach → String
  | online => "online"
  | offline => "offline"
  | unknown => "unknown"

inductive Trouble where
  | none
  | communication
  | gone
  deriving DecidableEq, Repr

def Trouble.name : Trouble → String
  | none => "none"
  | communication => "communication_error"
  | gone => "gone"

structure Availability where
  reach : Reach := .unknown
  trouble : Trouble := .none
  reason : String := ""
  deriving DecidableEq, Repr

namespace Availability

def online : Availability := { reach := .online }

def disconnected : Availability := { reach := .offline, reason := "Device is disconnected" }

def unreachable (reason : String) : Availability :=
  { reach := .offline, trouble := .communication, reason }

def busy : Availability :=
  { reach := .unknown, trouble := .communication, reason := "Device Command Queue is Busy" }

def removed : Availability :=
  { reach := .offline, trouble := .gone, reason := "Device removed from the account" }

def ofOnline (isOnline : Bool) : Availability := if isOnline then online else disconnected

end Availability

end ApplianceCloud
