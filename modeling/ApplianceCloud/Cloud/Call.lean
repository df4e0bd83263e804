import ApplianceCloud.Activity
import ApplianceCloud.Cloud.Envelope

namespace ApplianceCloud

inductive CloudCall where
  | token
  | number
  | request (request : Request)
  | pause (seconds : Binary64)
  deriving Repr

def cloud : Interface where
  Call := CloudCall
  Answer
    | .token => Token
    | .number => MessageNumber
    | .request _ => Reply
    | .pause _ => Unit

abbrev Cloud := Activity cloud

namespace Cloud

variable {σ : Type}

def token : Cloud σ Token := Activity.ask (I := cloud) .token

def newNumber : Cloud σ MessageNumber := Activity.ask (I := cloud) .number

def request (request : Request) : Cloud σ Reply := Activity.ask (I := cloud) (.request request)

def pause (seconds : Binary64) : Cloud σ Unit := Activity.ask (I := cloud) (.pause seconds)

def answerWith (token : Token) : (what : CloudCall) → Cloud σ (cloud.Answer what)
  | .token => pure token
  | .number => newNumber
  | .request what => request what
  | .pause seconds => pause seconds

def withToken (token : Token) (activity : Cloud σ α) : Cloud σ α :=
  activity.through (answerWith token)

def post (path : String) (payload : Fields Document) : Cloud σ (Fields Document) := do
  let token ← token
  let url ← Request.addressBelow (token.root .first) path
  let reply ← request {
    method := .post
    url
    headers := Request.firstHeaders token
    payload? := some [("lgedmRoot", .object payload)] }
  Envelope.ofReply .first url reply

def send (method : Method) (path : String) (payload? : Option (Fields Document)) :
    Cloud σ (Fields Document) := do
  let token ← token
  let url ← Request.addressBelow (token.root .second) path
  let number ← newNumber
  let reply ← request { method, url, headers := Request.secondHeaders token number, payload? }
  Envelope.ofReply .second url reply

end Cloud

end ApplianceCloud
