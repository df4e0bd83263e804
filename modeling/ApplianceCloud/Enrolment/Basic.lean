import ApplianceCloud.Cloud.Devices
import ApplianceCloud.Enrolment.Form

namespace ApplianceCloud

inductive AccountProblem where
  | cannotConnect
  | invalidAuth
  | invalidResponse
  | unknown
  deriving DecidableEq, Repr

namespace AccountProblem

def name : AccountProblem → String
  | cannotConnect => "cannot_connect"
  | invalidAuth => "invalid_auth"
  | invalidResponse => "invalid_response"
  | unknown => "unknown"

def ofFault (fault : CallFault) : AccountProblem :=
  if fault.kind = .transport then cannotConnect
  else if fault.category? = some .loginFailed then invalidAuth
  else invalidResponse

def ofFailure : Failure → AccountProblem
  | .call fault => ofFault fault
  | other => if other.isOwn then invalidResponse else unknown

end AccountProblem

inductive EnrolmentStep where
  | form (problem? : Option AccountProblem)
  | alreadyConfigured
  | created (title : String) (data : Fields Document)
  deriving Repr

structure Enrolment where
  configured : List String
  user : Document := .null
  deriving Repr

namespace Enrolment

def isConfigured (enrolment : Enrolment) : Bool :=
  match enrolment.user with
  | .text user => enrolment.configured.contains user
  | _ => false

def title (user : Document) : String := "LG ThinQ (" ++ user.display ++ ")"

def membersOf (input : Document) : Except Failure (Fields Document) :=
  match input.object? with
  | some members => .ok members
  | none => .error (.shape (.notIndexable input.kind))

def check (user : Document) (data : Fields Document) : Cloud Enrolment EnrolmentStep := do
  let token ← Token.ofMembers data
  match ← (Cloud.withToken (σ := Enrolment) token Cloud.validate).attempt with
  | .ok _ => return .created (title user) data
  | .error failure => return .form (some (.ofFailure failure))

def submit (input : Document) : Cloud Enrolment EnrolmentStep := do
  let data ← membersOf input
  let user ← Token.required data "user_number"
  Activity.modify fun enrolment => { enrolment with user }
  if (← Activity.gets isConfigured) then return .alreadyConfigured
  else check user data

end Enrolment

end ApplianceCloud
