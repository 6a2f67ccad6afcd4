import BatteryManager.ChargeTime
import BatteryManager.Getters
import BatteryManager.Library.Server
import BatteryManager.Notification

namespace BatteryManager.Protected

open Library

def PERMISSION_POWER_OPTIMIZATION : String := "ohos.permission.POWER_OPTIMIZATION"
def PERMISSION_POWER_MANAGER : String := "ohos.permission.POWER_MANAGER"

-- What `Permission` answers about the caller.
structure Caller where
  isSystem : Bool
  isNativePermissionGranted : String → Bool
  isPermissionGranted : String → Bool

-- The values of `BatteryError` that the calls return.
inductive BatteryError
  | Ok
  | Failure
  | PermissionDenied
  | SystemApiDenied
  | HandleNotificationFail
  deriving DecidableEq

def BatteryError.code : BatteryError → Int
  | .Ok => 0
  | .Failure => 1
  | .PermissionDenied => 201
  | .SystemApiDenied => 202
  | .HandleNotificationFail => 5100102

inductive HdiOperation
  | GetTotalEnergy
  | GetRemainEnergy
  | SetBatteryConfig (sceneName value : String)
  | GetBatteryConfig (sceneName : String)
  | IsBatteryConfigSupported (sceneName : String)
  deriving DecidableEq

-- The driver, with states of any kind. An absent energy leaves the argument as
-- it was. The other calls return a code, and the queries overwrite the result.
structure BatteryHdi (η : Type) where
  getTotalEnergy : η → Option Int × η
  getRemainEnergy : η → Option Int × η
  setBatteryConfig : String → String → η → Int × η
  getBatteryConfig : String → String → η → (Int × String) × η
  isBatteryConfigSupported : String → Bool → η → (Int × Bool) × η

-- What the platform gives to `BatteryNotify::HandleNotification`. `supported` is
-- the build option, and `loads` says that the library and the function are found.
structure NotificationPlatform where
  supported : Bool
  loads : Bool
  env : NotificationEnv

-- The members and the configuration that the protected calls look at, with the
-- state of the driver.
structure ServiceWorld (η : Type) where
  interface : Bool
  batteryInfo : BatteryInfo
  chargeTime : ChargeTime
  batteryNotify : Bool
  popupConfig : Table (List PopupConf)
  notificationConfMap : Table NotificationConf
  notificationManager : NotificationManager
  platform : NotificationPlatform
  hdi : η

inductive ServiceEffect
  | Hdi (operation : HdiOperation)
  | Notification (effect : NotificationEffect)

abbrev ServiceReply (η ρ : Type) := Reply (ServiceWorld η) ρ ServiceEffect

section Inner

variable {η : Type} (hdi : BatteryHdi η) (caller : Caller) (world : ServiceWorld η)

-- The shape of the two energy getters.
def readEnergy (operation : HdiOperation) (call : η → Option Int × η) (absent : Int) :
    ServiceReply η Int :=
  if caller.isSystem then
    if world.interface then
      ⟨(call world.hdi).1.getD INVALID_BATT_INT_VALUE, { world with hdi := (call world.hdi).2 },
        [.Hdi operation]⟩
    else ⟨absent, world, []⟩
  else ⟨INVALID_BATT_INT_VALUE, world, []⟩

def getTotalEnergyInner : ServiceReply η Int :=
  readEnergy caller world .GetTotalEnergy hdi.getTotalEnergy world.batteryInfo.totalEnergy

def getRemainEnergyInner : ServiceReply η Int :=
  readEnergy caller world .GetRemainEnergy hdi.getRemainEnergy world.batteryInfo.remainEnergy

def setBatteryConfigInner (sceneName value : String) : ServiceReply η BatteryError :=
  if caller.isSystem ∧ caller.isNativePermissionGranted PERMISSION_POWER_OPTIMIZATION then
    if world.interface then
      let called := hdi.setBatteryConfig sceneName value world.hdi
      ⟨if called.1 = 0 then .Ok else .Failure, { world with hdi := called.2 },
        [.Hdi (.SetBatteryConfig sceneName value)]⟩
    else ⟨.Failure, world, []⟩
  else ⟨.SystemApiDenied, world, []⟩

-- The shape of the two queries: the error with the result as the caller finds it.
def queryConfig {α : Type} (operation : HdiOperation) (call : α → η → (Int × α) × η) (result : α) :
    ServiceReply η (BatteryError × α) :=
  if caller.isSystem then
    if world.interface then
      let called := call result world.hdi
      ⟨(if called.1.1 = 0 then .Ok else .Failure, called.1.2), { world with hdi := called.2 },
        [.Hdi operation]⟩
    else ⟨(.Failure, result), world, []⟩
  else ⟨(.SystemApiDenied, result), world, []⟩

def getBatteryConfigInner (sceneName result : String) : ServiceReply η (BatteryError × String) :=
  queryConfig caller world (.GetBatteryConfig sceneName) (hdi.getBatteryConfig sceneName) result

def isBatteryConfigSupportedInner (sceneName : String) (result : Bool) :
    ServiceReply η (BatteryError × Bool) :=
  queryConfig caller world (.IsBatteryConfigSupported sceneName) (hdi.isBatteryConfigSupported sceneName)
    result

-- The loop of `BatteryNotify::HandleNotification`.
def handlePopups (env : NotificationEnv) (nConfMap : Table NotificationConf) :
    List PopupConf → NotificationManager → NotificationManager × List NotificationEffect
  | [], manager => (manager, [])
  | item :: rest, manager =>
      let handled := manager.handleNotification env item.name (.ofInt item.action) nConfMap
      let later := handlePopups env nConfMap rest handled.1
      (later.1, handled.2 ++ later.2)

def notifyHandleNotification (ueventName : String) : ServiceReply η Bool :=
  if world.platform.supported then
    match world.popupConfig ueventName with
    | none => ⟨false, world, []⟩
    | some popups =>
        if world.platform.loads then
          let handled := handlePopups world.platform.env world.notificationConfMap popups
            world.notificationManager
          ⟨true, { world with notificationManager := handled.1 }, handled.2.map .Notification⟩
        else ⟨false, world, []⟩
  else ⟨true, world, []⟩

def handleNotificationInner (ueventName : String) : ServiceReply η BatteryError :=
  if ¬caller.isSystem then ⟨.SystemApiDenied, world, []⟩
  else if ¬caller.isPermissionGranted PERMISSION_POWER_MANAGER then ⟨.PermissionDenied, world, []⟩
  else if ¬world.batteryNotify then ⟨.HandleNotificationFail, world, []⟩
  else
    let handled := notifyHandleNotification world ueventName
    ⟨if handled.response then .Ok else .HandleNotificationFail, handled.state, handled.effects⟩

end Inner

-- A protected call with its arguments. The queries take the result as it was.
inductive ProtectedCall
  | GetTotalEnergy
  | GetRemainEnergy
  | GetRemainingChargeTime
  | SetBatteryConfig (sceneName value : String)
  | GetBatteryConfig (sceneName result : String)
  | IsBatteryConfigSupported (featureName : String) (result : Bool)
  | HandleNotification (ueventName : String)
  deriving DecidableEq

-- The values that a call leaves in its out-parameters.
inductive OutParameters
  | Value (value : Int)
  | Error (batteryErr : Int)
  | Text (result : String) (batteryErr : Int)
  | Flag (result : Bool) (batteryErr : Int)
  deriving DecidableEq

structure ProtectedResponse where
  returned : Int
  out : OutParameters
  deriving DecidableEq

def ERR_OK : Int := 0

-- The entry points return `ERR_OK` in any case.
def answer {η ρ : Type} (out : ρ → OutParameters) (reply : ServiceReply η ρ) :
    ServiceReply η ProtectedResponse :=
  ⟨⟨ERR_OK, out reply.response⟩, reply.state, reply.effects⟩

structure ProtectedRequest where
  caller : Caller
  call : ProtectedCall

def serveProtected {η : Type} (hdi : BatteryHdi η) (world : ServiceWorld η) (request : ProtectedRequest) :
    ServiceReply η ProtectedResponse :=
  match request.call with
  | .GetTotalEnergy => answer .Value (getTotalEnergyInner hdi request.caller world)
  | .GetRemainEnergy => answer .Value (getRemainEnergyInner hdi request.caller world)
  | .GetRemainingChargeTime =>
      answer .Value
        ⟨getRemainingChargeTimeInner request.caller.isSystem world.chargeTime, world, []⟩
  | .SetBatteryConfig sceneName value =>
      answer (fun error => .Error error.code)
        (setBatteryConfigInner hdi request.caller world sceneName value)
  | .GetBatteryConfig sceneName result =>
      answer (fun queried => .Text queried.2 queried.1.code)
        (getBatteryConfigInner hdi request.caller world sceneName result)
  | .IsBatteryConfigSupported featureName result =>
      answer (fun queried => .Flag queried.2 queried.1.code)
        (isBatteryConfigSupportedInner hdi request.caller world featureName result)
  | .HandleNotification ueventName =>
      answer (fun error => .Error error.code) (handleNotificationInner request.caller world ueventName)

end BatteryManager.Protected
