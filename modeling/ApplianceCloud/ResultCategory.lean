import ApplianceCloud.Document.Display
import ApplianceCloud.Text.Blank

namespace ApplianceCloud

inductive ResultCategory where
  | ok
  | deviceNotResponding
  | loginFailed
  | unsupportedControl
  | duplicatedData
  | serverError
  | unknown
  deriving DecidableEq, Repr

namespace ResultCategory

def listed : List ResultCategory :=
  [ok, deviceNotResponding, loginFailed, unsupportedControl, duplicatedData, serverError]

def all : List ResultCategory := unknown :: listed

def name : ResultCategory → String
  | ok => "OK"
  | deviceNotResponding => "DEVICE_NOT_RESPONSE"
  | loginFailed => "LOGIN_FAILED"
  | unsupportedControl => "NOT_SUPPORTED_CONTROL"
  | duplicatedData => "DUPLICATED_DATA"
  | serverError => "LG_SERVER_ERROR"
  | unknown => "UNKNOWN"

def codes : ResultCategory → List String
  | ok => ["0000"]
  | deviceNotResponding => ["0111", "0103", "0104", "0106"]
  | loginFailed => ["0004", "0102", "0110", "0114"]
  | unsupportedControl => ["0005", "0012", "8001"]
  | duplicatedData => ["0008", "0013"]
  | serverError =>
      ["8101", "8102", "8203", "8204", "8205", "8206", "8207", "9003", "9004", "9005"]
  | unknown => []

def description : ResultCategory → String
  | ok => "Success"
  | deviceNotResponding => "Device not connected or not responding"
  | loginFailed => "Login or session failed"
  | unsupportedControl => "Control not supported by the device"
  | duplicatedData => "Duplicated data"
  | serverError => "LG server error"
  | unknown => "Unknown result code"

def ofText (code : String) : ResultCategory :=
  (listed.find? fun category => Text.trim code ∈ category.codes).getD unknown

def ofDocument (code : Document) : ResultCategory :=
  if code.isNull then ofText "" else ofText code.display

def isOffline (category : ResultCategory) : Bool := category = deviceNotResponding

example : ofText " 0106\n" = deviceNotResponding ∧ ofText "1" = unknown := by decide +kernel

end ResultCategory

end ApplianceCloud
