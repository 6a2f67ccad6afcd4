import BatteryManager.Protected

namespace BatteryManager.FrontEnds

open Library Protected

def ERR_OK : Int := 0
def ERR_FAILURE : Int := 1
def ERR_PERMISSION_DENIED : Int := 201
def ERR_SYSTEM_API_DENIED : Int := 202
def ERR_PARAM_INVALID : Int := 401
def ERR_CONNECTION_FAIL : Int := 5100101

-- What becomes of one call of the proxy. A call that does not come back has been
-- served or not.
inductive Transport
  | NoProxy
  | Lost (served : Bool)
  | Served
  deriving DecidableEq

section Client

variable {η : Type} (transport : Transport) (hdi : BatteryHdi η) (world : ServiceWorld η)

-- The response, if it comes back.
def callService (request : ProtectedRequest) : ServiceReply η (Option OutParameters) :=
  let reply := serveProtected hdi world request
  match transport with
  | .NoProxy => ⟨none, world, []⟩
  | .Lost false => ⟨none, world, []⟩
  | .Lost true => ⟨none, reply.state, reply.effects⟩
  | .Served => ⟨some reply.response.out, reply.state, reply.effects⟩

variable (caller : Caller)

def clientSetBatteryConfig (sceneName value : String) : ServiceReply η Int :=
  let reply := callService transport hdi world ⟨caller, .SetBatteryConfig sceneName value⟩
  ⟨match reply.response with
    | some (.Error batteryErr) => batteryErr
    | _ => ERR_CONNECTION_FAIL, reply.state, reply.effects⟩

def clientGetBatteryConfig (sceneName result : String) : ServiceReply η (Int × String) :=
  let reply := callService transport hdi world ⟨caller, .GetBatteryConfig sceneName result⟩
  ⟨match reply.response with
    | some (.Text result batteryErr) => (batteryErr, result)
    | _ => (ERR_CONNECTION_FAIL, result), reply.state, reply.effects⟩

def clientIsBatteryConfigSupported (sceneName : String) (result : Bool) : ServiceReply η (Int × Bool) :=
  let reply := callService transport hdi world ⟨caller, .IsBatteryConfigSupported sceneName result⟩
  ⟨match reply.response with
    | some (.Flag result batteryErr) => (batteryErr, result)
    | _ => (ERR_CONNECTION_FAIL, result), reply.state, reply.effects⟩

-- The shape of the two energy getters.
def clientEnergy (call : ProtectedCall) : ServiceReply η Int :=
  let reply := callService transport hdi world ⟨caller, call⟩
  ⟨match reply.response with
    | some (.Value value) => value
    | _ => INVALID_BATT_INT_VALUE, reply.state, reply.effects⟩

def clientGetTotalEnergy : ServiceReply η Int := clientEnergy transport hdi world caller .GetTotalEnergy

def clientGetRemainEnergy : ServiceReply η Int := clientEnergy transport hdi world caller .GetRemainEnergy

end Client

-- The table is the same in both front ends, and a code that is not in it has an
-- empty text.
def errorTable (code : Int) : String :=
  if code = ERR_CONNECTION_FAIL then "Connecting to the service failed."
  else if code = ERR_PERMISSION_DENIED then "Permission is denied"
  else if code = ERR_SYSTEM_API_DENIED then "System permission is denied"
  else if code = ERR_PARAM_INVALID then "Invalid input parameter."
  else ""

structure BusinessError where
  code : Int
  message : String
  deriving DecidableEq

inductive Thrown
  | Undefined
  | Error (error : BusinessError)
  deriving DecidableEq

-- What the caller of a front end gets. A null pointer is no value.
structure Outcome (α : Type) where
  returned : Option α
  thrown : Option Thrown
  deriving DecidableEq

inductive JsValue
  | Text (value : String)
  | Other
  deriving DecidableEq

def MAX_SIZE : Nat := 255

-- `napi_get_value_string_utf8` with a buffer of this size.
abbrev GetValueStringUtf8 := String → Nat → String

-- The buffer is read back as a C string.
def getStringFromNapi (napi : GetValueStringUtf8) (value : String) : String :=
  .ofList ((napi value (MAX_SIZE - 1)).toList.takeWhile (· ≠ '\x00'))

def isError (code : Int) : Bool := code ≠ ERR_OK && code ≠ ERR_FAILURE

-- What `ThrowError` throws: a failure does not count as an error, and undefined
-- is thrown for it.
def getNapiError (code : Int) : Thrown :=
  if isError code then .Error ⟨code, errorTable code⟩ else .Undefined

section Calls

variable {η : Type} (transport : Transport) (hdi : BatteryHdi η) (caller : Caller)
variable (napi : GetValueStringUtf8)

-- The end that the calls have in common.
def napiOutcome {α : Type} (code : Int) (value : α) : Outcome α :=
  ⟨some value, if code ≠ ERR_OK then some (getNapiError code) else none⟩

def paramInvalid {α : Type} : Outcome α := ⟨none, some (getNapiError ERR_PARAM_INVALID)⟩

def napiSetBatteryConfig (argv : List JsValue) (world : ServiceWorld η) : ServiceReply η (Outcome Int) :=
  match argv with
  | [.Text sceneName, .Text value] =>
      let reply := clientSetBatteryConfig transport hdi world caller (getStringFromNapi napi sceneName)
        (getStringFromNapi napi value)
      ⟨napiOutcome reply.response reply.response, reply.state, reply.effects⟩
  | _ => ⟨paramInvalid, world, []⟩

def napiGetBatteryConfig (argv : List JsValue) (world : ServiceWorld η) : ServiceReply η (Outcome String) :=
  match argv with
  | [.Text sceneName] =>
      let reply := clientGetBatteryConfig transport hdi world caller (getStringFromNapi napi sceneName) ""
      ⟨napiOutcome reply.response.1 reply.response.2, reply.state, reply.effects⟩
  | _ => ⟨paramInvalid, world, []⟩

def napiIsBatteryConfigSupported (argv : List JsValue) (world : ServiceWorld η) :
    ServiceReply η (Outcome Bool) :=
  match argv with
  | [.Text sceneName] =>
      let reply := clientIsBatteryConfigSupported transport hdi world caller
        (getStringFromNapi napi sceneName) false
      ⟨napiOutcome reply.response.1 reply.response.2, reply.state, reply.effects⟩
  | _ => ⟨paramInvalid, world, []⟩

end Calls

end BatteryManager.FrontEnds
