import ApplianceCloud.Cloud.Token

namespace ApplianceCloud

inductive Method where
  | get
  | post
  deriving DecidableEq, Repr

def Method.name : Method → String
  | get => "GET"
  | post => "POST"

structure Request where
  method : Method
  url : String
  headers : Fields Document := []
  payload? : Option (Fields Document) := none
  deriving Repr

inductive Reply where
  | answered (status : Int) (body : String)
  | lost (cause : String)
  deriving DecidableEq, Repr

structure MessageNumber where
  value : Nat
  deriving DecidableEq, Repr

namespace MessageNumber

def digits (number : MessageNumber) : List Char := Text.hexDigits 32 number.value

def plain (number : MessageNumber) : String := String.ofList number.digits

def grouped (number : MessageNumber) : String :=
  let part (start length : Nat) := String.ofList ((number.digits.drop start).take length)
  part 0 8 ++ "-" ++ part 8 4 ++ "-" ++ part 12 4 ++ "-" ++ part 16 4 ++ "-" ++ part 20 12

example : grouped ⟨0x1234⟩ = "00000000-0000-0000-0000-000000001234" := by decide +kernel

end MessageNumber

namespace Request

def patience : Nat := 10

def firstHeaders (token : Token) : Fields Document :=
  [("Accept", .text "application/json"),
   ("Content-Type", .text "application/json;charset=UTF-8"),
   ("x-thinq-application-key", .text "6V1V8H2BN5P9ZQGOI5DAQ92YZBDO3EK9"),
   ("x-thinq-security-key", .text "nuts_securitykey"),
   ("x-thinq-token", token.accessToken),
   ("x-country-code", token.country),
   ("x-language-code", token.language)]

def secondHeaders (token : Token) (number : MessageNumber) : Fields Document :=
  [("Accept", .text "application/json"),
   ("Content-Type", .text "application/json"),
   ("x-api-key", .text "VGhpblEyLjAgU0VSVklDRQ=="),
   ("x-client-id", .text "65260af7e8e6547b51fdccf930097c51eb9885a508d3fddfa9ee6cdec22ae1bd"),
   ("x-country-code", token.country),
   ("x-language-code", token.language),
   ("x-message-id", .text number.plain),
   ("x-service-code", .text "SVC202"),
   ("x-service-phase", .text "OP"),
   ("x-thinq-app-level", .text "PRD"),
   ("x-thinq-app-os", .text "LINUX"),
   ("x-thinq-app-type", .text "NUTS"),
   ("x-thinq-app-ver", .text "3.0.1700"),
   ("x-emp-token", token.accessToken),
   ("x-user-no", token.userNumber)]

def address (root path : String) : String :=
  let isSlash (c : Char) : Bool := c = '/'
  String.ofList ((root.toList.reverse.dropWhile isSlash).reverse ++
    '/' :: path.toList.dropWhile isSlash)

def addressBelow (root : Document) (path : String) : Except Failure String :=
  match root with
  | .text root => .ok (address root path)
  | other => .error (.shape (.noMember other.kind "rstrip"))

end Request

end ApplianceCloud
