import ApplianceCloud.Cloud.Request

namespace ApplianceCloud.Envelope

def lostState : String := "D"

def failureOf? (code : String) : Option Failure :=
  let category := ResultCategory.ofText code
  if category = .ok then none
  else if category.isOffline then some (.offline (.notResponding code))
  else some (.call (.refused code category))

def checked (code : Document) (members : Fields Document) : Except Failure (Fields Document) := do
  match failureOf? (← code.toText.mapError .conversion) with
  | none => return members
  | some failure => .error failure

def isDisconnected (envelope : Fields Document) : Bool :=
  match envelope.lookup "deviceState" with
  | some (.text state) => state = lostState
  | _ => false

def ofFirst (body : Fields Document) : Except Failure (Fields Document) :=
  match (body.orNull "lgedmRoot").object? with
  | none | some [] => .error (.call .noFirstEnvelope)
  | some envelope =>
      if isDisconnected envelope then .error (.offline .disconnected)
      else checked ((envelope.lookup "returnCd").getD (.text "")) envelope

def ofSecond (body : Fields Document) : Except Failure (Fields Document) :=
  match body.lookup "resultCode" with
  | none => .error (.call .noSecondEnvelope)
  | some code => checked code body

def ofBody : Generation → Fields Document → Except Failure (Fields Document)
  | .first => ofFirst
  | .second => ofSecond

def bodyOf (url : String) : Reply → Except Failure String
  | .lost cause => .error (.call (.transport cause))
  | .answered status body => if status = 200 then .ok body else .error (.call (.badStatus status url))

def membersOf (body : String) : Except Failure (Fields Document) :=
  match Document.read body with
  | .error fault => .error (.call (.unreadableBody fault))
  | .ok document => match document.object? with
    | some members => .ok members
    | none => .error (.call .bodyNotObject)

def objectOf (url : String) (reply : Reply) : Except Failure (Fields Document) := do
  membersOf (← bodyOf url reply)

def ofReply (generation : Generation) (url : String) (reply : Reply) :
    Except Failure (Fields Document) := do
  ofBody generation (← objectOf url reply)

end ApplianceCloud.Envelope
