import ApplianceCloud.Document.Conversion
import ApplianceCloud.Document.Reader
import ApplianceCloud.ResultCategory

/-!
# Failures

Everything that can go wrong is a value here, named by its cause, and `Failure.message` gives it its
words. The failures of this library's own operations are told apart from those of its collaborators
by `isOwn`: a caller that handles the first lets the second pass.
-/

namespace ApplianceCloud

namespace ReadFault

/-- The words of a reading fault: decoders of text formats stand behind a name in angle brackets. -/
def message : ReadFault → String
  | malformed => "<json>"
  | undecodable => "<utf>"
  | numeralTooLong digits => (ConversionFault.numeralTooLong digits).message

end ReadFault

inductive ShapeFault where
  | noMember (kind member : String)
  | notIterable (kind : String)
  | notIndexable (kind : String)
  | missingKey (key : String)
  deriving DecidableEq, Repr

namespace ShapeFault

def message : ShapeFault → String
  | noMember kind member => "'" ++ kind ++ "' object has no attribute '" ++ member ++ "'"
  | notIterable kind => "'" ++ kind ++ "' object is not iterable"
  | notIndexable kind => "'" ++ kind ++ "' object does not support item assignment"
  | missingKey key => Text.quoted key

end ShapeFault

inductive CapabilityFaultKind where
  | missingNode
  | unsupportedDevice
  | unsupportedVersion
  deriving DecidableEq, Repr

def CapabilityFaultKind.name : CapabilityFaultKind → String
  | missingNode => "missing_node"
  | unsupportedDevice => "unsupported_device_type"
  | unsupportedVersion => "unsupported_version"

inductive CapabilityFault where
  | notObject
  | nodeMissing (path : String)
  | unsupportedType (shown : String)
  | unknownVersion (family : String)
  | invalidLayout (cause : String)
  | reported (kind : CapabilityFaultKind) (text : String)
  deriving DecidableEq, Repr

namespace CapabilityFault

def kind : CapabilityFault → CapabilityFaultKind
  | unsupportedType _ => .unsupportedDevice
  | unknownVersion _ => .unsupportedVersion
  | reported kind _ => kind
  | _ => .missingNode

def message : CapabilityFault → String
  | notObject => "Capability document must be a JSON object"
  | nodeMissing path => "Mandatory node '" ++ path ++ "' not found in capability"
  | unsupportedType shown => "Unsupported device type '" ++ shown ++ "'"
  | unknownVersion family => "Can't detect the API version of the " ++ family ++ " capability"
  | invalidLayout cause => "Invalid binary monitoring protocol: " ++ cause
  | reported _ text => text

end CapabilityFault

inductive DecodingFault where
  | noModel (family : String)
  | invalidText (fault : ReadFault)
  | notObject
  | outside (field : String) (start stop : Int) (size : Nat)
  | unsupportedKind (field kind reading : String)
  | inconvertible (key shown kind : String) (fault : ConversionFault)
  | invalidPayload
  | invalidCommandText (data : String) (fault : ReadFault)
  | commandNotList (data : String)
  | commandItemOfKind (data kind : String)
  | commandItemOutOfRange (data : String)
  | reported (text : String)
  deriving DecidableEq, Repr

namespace DecodingFault

def message : DecodingFault → String
  | noModel family => "No snapshot model for device type " ++ family
  | invalidText fault => "Invalid snapshot JSON: " ++ fault.message
  | notObject => "Snapshot document must be a JSON object"
  | outside field start stop size =>
      "Field '" ++ field ++ "' [" ++ toString start ++ ":" ++ toString stop ++ "] is outside of the " ++
        toString size ++ " byte payload"
  | unsupportedKind field kind reading =>
      "Field '" ++ field ++ "' targets " ++ kind ++ " attribute '" ++ reading ++
        "', unsupported in binary payloads"
  | inconvertible key shown kind fault =>
      "Can't convert '" ++ key ++ "'=" ++ shown ++ " to " ++ kind ++ ": " ++ fault.message
  | invalidPayload => "Invalid monitor payload: <base64>"
  | invalidCommandText data fault => "Invalid binary command data '" ++ data ++ "': " ++ fault.message
  | commandNotList data => "Binary command data '" ++ data ++ "' is not a byte list"
  | commandItemOfKind data kind =>
      "Invalid binary command data '" ++ data ++ "': '" ++ kind ++
        "' object cannot be interpreted as an integer"
  | commandItemOutOfRange data =>
      "Invalid binary command data '" ++ data ++ "': bytes must be in range(0, 256)"
  | reported text => text

end DecodingFault

inductive CallFaultKind where
  | httpStatus
  | transport
  | invalidResponse
  | resultCode
  | exhaustedRetries
  deriving DecidableEq, Repr

namespace CallFaultKind

def all : List CallFaultKind :=
  [httpStatus, transport, invalidResponse, resultCode, exhaustedRetries]

def name : CallFaultKind → String
  | httpStatus => "http_status"
  | transport => "transport"
  | invalidResponse => "invalid_response"
  | resultCode => "result_code"
  | exhaustedRetries => "exhausted_retries"

end CallFaultKind

inductive CallFault where
  | badStatus (status : Int) (url : String)
  | transport (text : String)
  | unreadableBody (fault : ReadFault)
  | bodyNotObject
  | noFirstEnvelope
  | noSecondEnvelope
  | refused (code : String) (category : ResultCategory)
  | noCapabilityAddress (device : String)
  | noWorkId
  | pollRefused (code : String) (category : ResultCategory)
  | noResult (device : String)
  | noStatus (device : String)
  | undeclaredCommand (name : String)
  | startFailed (device cause : String)
  | pollFailed (device cause : String)
  | exhausted (device : String)
  | reported (kind : CallFaultKind) (text : String) (status : Option Int)
      (category : Option ResultCategory)
  deriving DecidableEq, Repr

namespace CallFault

def kind : CallFault → CallFaultKind
  | badStatus _ _ => .httpStatus
  | transport _ => .transport
  | refused _ _ | pollRefused _ _ | undeclaredCommand _ => .resultCode
  | exhausted _ => .exhaustedRetries
  | reported kind _ _ _ => kind
  | _ => .invalidResponse

def status? : CallFault → Option Int
  | badStatus status _ => some status
  | reported _ _ status _ => status
  | _ => none

def category? : CallFault → Option ResultCategory
  | refused _ category | pollRefused _ category => some category
  | undeclaredCommand _ => some .unsupportedControl
  | reported _ _ _ category => category
  | _ => none

def message : CallFault → String
  | badStatus status url => "Unexpected HTTP status " ++ toString status ++ " calling " ++ url
  | transport text => "Failed to connect to LG ThinQ API: " ++ text
  | unreadableBody fault => "Invalid response from LG ThinQ API: " ++ fault.message
  | bodyNotObject => "Invalid response from LG ThinQ API: not a JSON object"
  | noFirstEnvelope => "Unexpected V1 response: 'lgedmRoot' node is missing"
  | noSecondEnvelope => "Unexpected V2 response: 'resultCode' is missing"
  | refused code category =>
      "Result code must be 0000, but was: " ++ code ++ " (" ++ category.description ++ ")"
  | noCapabilityAddress device => "Device " ++ device ++ " has no model JSON URI"
  | noWorkId => "Monitor start response carries no work id"
  | pollRefused code category =>
      "Monitor poll failed with code " ++ code ++ " (" ++ category.description ++ ")"
  | noResult device => "Device data of " ++ device ++ " carries no result node"
  | noStatus device => "Device data of " ++ device ++ " carries no snapshot node"
  | undeclaredCommand name =>
      "Command '" ++ name ++ "' is not declared by the device capability"
  | startFailed device cause => "Error starting device monitor of " ++ device ++ ": " ++ cause
  | pollFailed device cause => "Error polling device monitor of " ++ device ++ ": " ++ cause
  | exhausted device => "Exhausted trying to get monitor data of " ++ device
  | reported _ text _ _ => text

end CallFault

inductive OfflineCause where
  | disconnected
  | notResponding (code : String)
  | reported (text : String)
  deriving DecidableEq, Repr

def OfflineCause.message : OfflineCause → String
  | disconnected => "Device is disconnected from the LG cloud"
  | notResponding code => "Device is not responding (code " ++ code ++ ")"
  | reported text => text

inductive ExpiryCause where
  | workGone (workId code : String)
  | reported (text : String)
  deriving DecidableEq, Repr

def ExpiryCause.message : ExpiryCause → String
  | workGone workId code => "Monitor work " ++ workId ++ " expired (code " ++ code ++ ")"
  | reported text => text

inductive QueueFault where
  | full (device : String)
  | reported (text : String)
  deriving DecidableEq, Repr

def QueueFault.message : QueueFault → String
  | full device => "Device command queue of " ++ device ++ " is busy"
  | reported text => text

inductive PhaseFault where
  | forbidden (device current next : String)
  | noWorkId
  | reported (text : String)
  deriving DecidableEq, Repr

def PhaseFault.message : PhaseFault → String
  | forbidden device current next =>
      "Monitor of " ++ device ++ " can't go from " ++ current ++ " to " ++ next
  | noWorkId => "A started monitor needs a work id"
  | reported text => text

inductive RefreshFault where
  | communication (text : String)
  | listing (text : String)
  | noSource (device : String)
  | reported (text : String)
  deriving DecidableEq, Repr

def RefreshFault.message : RefreshFault → String
  | communication text => "Error communicating with LG ThinQ API: " ++ text
  | listing text => "Error listing LG ThinQ account devices: " ++ text
  | noSource device => "No snapshot source for " ++ device
  | reported text => text

inductive Failure where
  | capability (fault : CapabilityFault)
  | decoding (fault : DecodingFault)
  | call (fault : CallFault)
  | offline (cause : OfflineCause)
  | expired (cause : ExpiryCause)
  | queue (fault : QueueFault)
  | phase (fault : PhaseFault)
  | refresh (fault : RefreshFault)
  | notReady (text : String)
  | conversion (fault : ConversionFault)
  | reading (fault : ReadFault)
  | shape (fault : ShapeFault)
  | foreign (name text : String)
  deriving DecidableEq, Repr

namespace Failure

def message : Failure → String
  | capability fault => fault.message
  | decoding fault => fault.message
  | call fault => fault.message
  | offline cause => cause.message
  | expired cause => cause.message
  | queue fault => fault.message
  | phase fault => fault.message
  | refresh fault => fault.message
  | notReady text => text
  | conversion fault => fault.message
  | reading fault => fault.message
  | shape fault => fault.message
  | foreign _ text => text

/-- Whether a failure is one of this library's own, which its callers are to handle. -/
def isOwn : Failure → Bool
  | capability _ | decoding _ | call _ | offline _ | expired _ | queue _ | phase _ => true
  | _ => false

end Failure

end ApplianceCloud
