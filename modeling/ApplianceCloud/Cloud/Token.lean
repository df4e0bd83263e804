import ApplianceCloud.Device.Family

namespace ApplianceCloud

structure Token where
  accessToken : Document
  userNumber : Document
  firstRoot : Document
  secondRoot : Document
  country : Document
  language : Document
  deriving Repr

namespace Token

def required (members : Fields Document) (key : String) : Except Failure Document :=
  match members.lookup key with
  | some d => .ok d
  | none => .error (.shape (.missingKey key))

def ofMembers (members : Fields Document) : Except Failure Token := do
  return {
    accessToken := ← required members "access_token"
    userNumber := ← required members "user_number"
    firstRoot := ← required members "api_root_v1"
    secondRoot := ← required members "api_root_v2"
    country := ← required members "country"
    language := ← required members "language" }

def ofDocument (data : Document) : Except Failure Token :=
  match data.object? with
  | some members => ofMembers members
  | none => .error (.shape (.notIndexable data.kind))

def root (token : Token) : Generation → Document
  | .first => token.firstRoot
  | .second => token.secondRoot

end Token

end ApplianceCloud
