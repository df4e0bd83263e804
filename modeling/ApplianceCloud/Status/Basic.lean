import ApplianceCloud.Capability.Basic
import ApplianceCloud.Status.Reading

namespace ApplianceCloud

structure Status where
  family : Family
  online : Bool := true
  readings : Readings := []
  reported : Fields Document := []
  document : Fields Document := []
  payload? : Option (List UInt8) := none
  unclaimed : Fields Document := []
  deriving Repr

inductive PowerState where
  | on
  | off
  | unknown
  deriving DecidableEq, Repr

def PowerState.name : PowerState → String
  | on => "ON"
  | off => "OFF"
  | unknown => "UNKNOWN"

namespace Status

def modelOf (family : Family) : Except Failure StatusModel :=
  match family.statusModel? with
  | some model => .ok model
  | none => .error (.decoding (.noModel family.name))

def offline (family : Family) : Except Failure Status := do
  let _ ← modelOf family
  return { family, online := false }

def courseNames (laundry : Laundry) : List (String × String) :=
  [(laundry.courseFields.course, "course"),
   (laundry.courseFields.smartCourse, "smartCourse"),
   (laundry.courseFields.downloadedCourse, "downloadedCourse")]

/-- Course fields as names of their attributes, without those that a table has already. -/
def newAliases (table : AliasTable) : List (String × String) → Except Failure AliasTable
  | [] => .ok []
  | (name, known) :: rest =>
      if name = "" || table.has name then newAliases table rest
      else match table.lookup known with
        | none => .error (.shape (.missingKey known))
        | some attr => (newAliases table rest).map ((name, attr) :: ·)

def aliasTable (family : Family) (capability : Option Capability) : Except Failure AliasTable := do
  let table := (← modelOf family).aliases
  match capability.bind Capability.laundry? with
  | none => return table
  | some laundry => return table.putAll (← newAliases table (courseNames laundry))

def reading? (status : Status) (attr : Attribute) : Option Reading := status.readings.lookup attr

def text? (status : Status) (attr : Attribute) : Option String :=
  match status.reading? attr with
  | some (.text value) => some value
  | _ => none

def integer? (status : Status) (attr : Attribute) : Option Int :=
  match status.reading? attr with
  | some (.integer value) => some value
  | _ => none

def truth? (status : Status) (attr : Attribute) : Option Bool :=
  match status.reading? attr with
  | some (.truth value) => some value
  | _ => none

def offStates : List String := ["POWEROFF", "@WM_STATE_POWER_OFF_W", "0"]

/-- Whether the appliance runs. A refrigerator runs as long as it is reachable, and nothing that is
not reachable does. -/
def powerState (status : Status) : PowerState :=
  if !status.online then .off
  else match status.family.statusModel? with
    | some .airConditioner => match status.integer? .operation with
      | none => .unknown
      | some operation => if 0 < operation then .on else .off
    | some .laundry => match status.text? .state with
      | none => .unknown
      | some state => if state ∈ offStates then .off else .on
    | _ => .on

def twoPlaces (n : Int) : String :=
  if n < 0 then toString n
  else if n < 10 then "0" ++ toString n
  else toString n

def clock (hours minutes : Option Int) : String :=
  twoPlaces (hours.getD 0) ++ ":" ++ twoPlaces (minutes.getD 0)

def remainingTime (status : Status) : String :=
  clock (status.integer? .remainHours) (status.integer? .remainMinutes)

def reservedTime (status : Status) : String :=
  clock (status.integer? .reserveHours) (status.integer? .reserveMinutes)

def isStandby (status : Status) : Bool := (status.truth? .standby).getD false

def isRemoteStartEnabled (status : Status) : Bool := (status.truth? .remoteStart).getD false

example : clock (some 1) none = "01:00" ∧ clock (some (-1)) (some 125) = "-1:125" := by decide +kernel

end Status

end ApplianceCloud
