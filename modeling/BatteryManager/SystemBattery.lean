import BatteryManager.Info
import BatteryManager.Library.Run

namespace BatteryManager.SystemBattery

open Library

def MAX_ARGC : Nat := 1
def COMMON_ERROR_COED : Int := 200
def GET_BATTERY_ERROR_MSG : String := "Battery level is not available"
def INVALID_BATT_INT_VALUE : Int := -1

-- A `napi_valuetype`.
inductive ValueType
  | Undefined
  | Null
  | Boolean
  | Number
  | String
  | Symbol
  | Object
  | Function
  | External
  | BigInt
  deriving DecidableEq

-- The properties of the options that are read, in the order of the reading.
inductive Callback
  | Success
  | Fail
  | Complete
  deriving DecidableEq

-- What a script passes. A property is absent where it cannot be read.
structure Options where
  valueType : ValueType
  property : Callback → Option ValueType

-- One call of `getStatus`, with the answers it gets from the runtime.
structure StatusCall where
  infoRead : Bool
  argc : Nat
  options : Options
  referenced : Callback → Bool
  sent : Bool

-- What one task finds: the answers of the client, and whether the values that
-- it passes on can be made.
structure TaskEnv where
  capacity : Int
  chargingState : BatteryChargeState
  responseCreated : Bool
  messageCreated : Bool

-- The `level` of a response is the capacity in hundredths.
inductive Argument
  | Response (charging : Bool) (capacity : Int)
  | Message (text : String)
  | Code (code : Int)
  deriving DecidableEq

-- The contexts are numbered as they are made. A reference is told apart by the
-- context and the callback that it is made for.
inductive StatusEffect
  | New (context : Nat)
  | CreateReference (context : Nat) (callback : Callback)
  | SendEvent (context : Nat) (sent : Bool)
  | GetBatteryInfo (context : Nat) (isRead : Bool)
  | CallFunction (context : Nat) (callback : Callback) (arguments : List Argument)
  | DeleteReference (context : Nat) (callback : Callback)
  | Delete (context : Nat)
  deriving DecidableEq

def StatusEffect.context : StatusEffect → Nat
  | .New context => context
  | .CreateReference context _ => context
  | .SendEvent context _ => context
  | .GetBatteryInfo context _ => context
  | .CallFunction context _ _ => context
  | .DeleteReference context _ => context
  | .Delete context => context

structure Error where
  code : Int := 0
  msg : String := ""

namespace Error

def setErrorMsg (code : Int) (msg : String) : Error where
  code := code
  msg := msg

def isError (error : Error) : Bool := error.msg ≠ "" && error.code ≠ 0

end Error

-- The `SystemBattery` of one request, with whether each reference is held.
structure Request where
  context : Nat
  successRef : Bool
  failRef : Bool
  completeRef : Bool
  deriving DecidableEq

def Request.ref (request : Request) : Callback → Bool
  | .Success => request.successRef
  | .Fail => request.failRef
  | .Complete => request.completeRef

def checkValueType (valueType checkType : ValueType) : Bool := valueType = checkType

def getOptionsFunc (options : Options) (name : Callback) : Bool :=
  match options.property name with
  | some valueType => checkValueType valueType .Function
  | none => false

namespace StatusCall

-- The reference stays null if it cannot be created.
def createsReference (call : StatusCall) (name : Callback) : Bool :=
  getOptionsFunc call.options name && call.referenced name

def createCallbackRef (call : StatusCall) (context : Nat) : Option Request :=
  if checkValueType call.options.valueType .Object then
    some {
      context := context
      successRef := call.createsReference .Success
      failRef := call.createsReference .Fail
      completeRef := call.createsReference .Complete }
  else none

end StatusCall

-- What is done for one callback whose reference is held.
def Request.whenHeld (request : Request) (name : Callback)
    (effects : List StatusEffect) : List StatusEffect :=
  if request.ref name then effects else []

def Request.references (request : Request) : List StatusEffect :=
  request.whenHeld .Success [.CreateReference request.context .Success] ++
    request.whenHeld .Fail [.CreateReference request.context .Fail] ++
    request.whenHeld .Complete [.CreateReference request.context .Complete]

namespace TaskEnv

def getBatteryInfo (env : TaskEnv) : Bool :=
  env.capacity ≠ INVALID_BATT_INT_VALUE && env.chargingState ≠ .Butt

def isCharging (env : TaskEnv) : Bool :=
  env.chargingState = .Enable || env.chargingState = .Full

def successCallback (env : TaskEnv) (request : Request) : List StatusEffect :=
  request.whenHeld .Success <|
    if env.responseCreated then
      [.CallFunction request.context .Success [.Response env.isCharging env.capacity],
        .DeleteReference request.context .Success]
    else [.DeleteReference request.context .Success]

def failCallback (env : TaskEnv) (error : Error) (request : Request) : List StatusEffect :=
  request.whenHeld .Fail <|
    if env.messageCreated then
      [.CallFunction request.context .Fail [.Message error.msg, .Code error.code],
        .DeleteReference request.context .Fail]
    else [.DeleteReference request.context .Fail]

def completeCallback (request : Request) : List StatusEffect :=
  request.whenHeld .Complete
    [.CallFunction request.context .Complete [], .DeleteReference request.context .Complete]

def getBatteryStats (env : TaskEnv) (request : Request) : List StatusEffect :=
  let error :=
    if env.getBatteryInfo then {} else Error.setErrorMsg COMMON_ERROR_COED GET_BATTERY_ERROR_MSG
  .GetBatteryInfo request.context env.getBatteryInfo ::
    (if error.isError then env.failCallback error request else env.successCallback request) ++
    completeCallback request

end TaskEnv

-- The runtime of a script: the contexts made so far and the tasks in its queue.
structure Runtime where
  nextContext : Nat := 0
  queue : List Request := []

def sendEvent (call : StatusCall) (request : Request) (runtime : Runtime) : Runtime × List StatusEffect :=
  if call.sent then
    ({ runtime with queue := runtime.queue ++ [request] }, [.SendEvent request.context true])
  else (runtime, [.SendEvent request.context false, .Delete request.context])

def getStatus (call : StatusCall) (runtime : Runtime) : Runtime × List StatusEffect :=
  if ¬call.infoRead then (runtime, [])
  else if call.argc ≠ MAX_ARGC then (runtime, [])
  else
    let context := runtime.nextContext
    let made := { runtime with nextContext := context + 1 }
    match call.createCallbackRef context with
    | some request =>
        let submitted := sendEvent call request made
        (submitted.1, .New context :: request.references ++ submitted.2)
    | none => (made, [.New context, .Delete context])

-- A task is run from any place in the queue, as other priorities may come first.
inductive StatusLabel
  | GetStatus (call : StatusCall)
  | RunTask (position : Nat) (env : TaskEnv)

def statusStep (runtime : Runtime) : StatusLabel → Option (Runtime × List StatusEffect)
  | .GetStatus call => some (getStatus call runtime)
  | .RunTask position env =>
      match runtime.queue[position]? with
      | some request =>
          some ({ runtime with queue := runtime.queue.eraseIdx position },
            env.getBatteryStats request ++ [.Delete request.context])
      | none => none

abbrev StatusRun : List StatusLabel → Runtime → List StatusEffect → Prop := Run statusStep {}

end BatteryManager.SystemBattery
