import BatteryManager.Effect
import BatteryManager.Library.Separator

namespace BatteryManager

open Library

def POWER_SUPPLY : String := "SUBSYSTEM=power_supply"
def SHUTDOWN : String := "shutdown"
def REBOOT : String := "reboot"
def SEND_COMMONEVENT : String := "sendcommonevent"
def SEND_POPUP : String := "sendpopup"
def BATTERY_CUSTOM_EVENT_PREFIX : String := "usual.event.battery"
def PRODUCT_TYPE_THREE : String := "RVS_ADAPTER_PRODUCT_TYPE=3"
def PRODUCT_TYPE_FOUR : String := "RVS_ADAPTER_PRODUCT_TYPE=4"
def PRODUCT_TYPE_FIVE : String := "RVS_ADAPTER_PRODUCT_TYPE=5"

inductive ErrCode
  | Ok
  | NoInit
  deriving DecidableEq

-- The six `g_battery...Once` flags.
inductive OnceLatch
  | Low
  | Ok
  | Connect
  | Disconnect
  | Charging
  | Discharging
  deriving DecidableEq

-- The members of `BatteryNotify` and the file's globals.
structure BatteryNotify where
  lowCapacity : Int
  batteryInfoChargeType : ChargeType := .None
  lastCapacity : Int := -1
  lastPluggedType : Int := -1
  lastTemperature : Int := -1
  lastHealthState : Int := -1
  lastPowerPluggedType : BatteryPluggedType := .Butt
  once : OnceLatch → Bool := fun _ => false
  commonEventInitSuccess : Bool := false
  lastCapacityLevel : BatteryCapacityLevel := .None

def BatteryNotify.setOnce (notify : BatteryNotify) (latch : OnceLatch) (value : Bool) :
    BatteryNotify :=
  { notify with once := Function.update notify.once latch value }

-- The answers of the rest of the system during one call. A call publishes each
-- event at most once, so `publish` covers every pattern of failures.
-- `ueventCheck` is false when an installed hook ran and refused the uevent.
structure PublishEnv where
  serviceExists : Bool
  publish : CommonEvent → Bool
  capacityLevel : BatteryCapacityLevel
  ueventCheck : String → Bool

-- The result of one `Publish...Event` function.
structure Outcome where
  isSuccess : Bool
  notify : BatteryNotify
  effects : List Effect

def publishCommonEvent (env : PublishEnv) (event : CommonEvent) (notify : BatteryNotify)
    (effects : List Effect) : Outcome :=
  ⟨env.publish event, notify, effects ++ [.PublishCommonEvent event (env.publish event)]⟩

def changedEvent (info : BatteryInfo) (lastLevel level : BatteryCapacityLevel) : CommonEvent where
  action := COMMON_EVENT_BATTERY_CHANGED
  params := [
    ("soc", .Int info.capacity),
    ("voltage", .Int info.voltage),
    ("temperature", .Int info.temperature),
    ("healthState", .Int (toInt32 info.healthState.code)),
    ("pluggedType", .Int (toInt32 info.pluggedType.code)),
    ("chargeState", .Int (toInt32 info.chargeState.code)),
    ("present", .Bool info.present),
    ("technology", .String info.technology),
    ("uevent", .String info.uevent)] ++
    if level = lastLevel then [] else [("capacityLevel", .Int (toInt32 level.code))]

def publishChangedEvent (env : PublishEnv) (info : BatteryInfo) (notify : BatteryNotify) : Outcome :=
  let pluggedType := toInt32 info.pluggedType.code
  let healthState := toInt32 info.healthState.code
  let event := changedEvent info notify.lastCapacityLevel env.capacityLevel
  let leveled := { notify with lastCapacityLevel := env.capacityLevel }
  if info.capacity ≠ notify.lastCapacity ∨ pluggedType ≠ notify.lastPluggedType ∨
      info.temperature ≠ notify.lastTemperature ∨ healthState ≠ notify.lastHealthState then
    publishCommonEvent env event
      { leveled with
        lastCapacity := info.capacity
        lastPluggedType := pluggedType
        lastTemperature := info.temperature
        lastHealthState := healthState }
      [.HiSysEventWrite info.capacity pluggedType info.voltage info.temperature healthState
        info.nowCurr (toInt32 info.chargeType.code)]
  else publishCommonEvent env event leveled []

def changedEventInner (info : BatteryInfo) : CommonEvent where
  action := COMMON_EVENT_BATTERY_CHANGED_INNER
  params := [
    ("maxCurrent", .Int info.pluggedMaxCurrent),
    ("maxVoltage", .Int info.pluggedMaxVoltage),
    ("nowCurrent", .Int info.nowCurr),
    ("chargeCounter", .Int info.chargeCounter)]
  subscriberPermissions := ["ohos.permission.POWER_OPTIMIZATION"]

def publishChangedEventInner (env : PublishEnv) (info : BatteryInfo) (notify : BatteryNotify) :
    Outcome :=
  publishCommonEvent env (changedEventInner info) notify []

-- The shape of the six functions below. `cleared` is the test of the first
-- `if`, and `preparation` is done before the event is published. The latch is
-- set whether or not the publication succeeds.
def publishOnce (env : PublishEnv) (latch : OnceLatch) (cleared : Bool) (preparation : List Effect)
    (event : CommonEvent) (notify : BatteryNotify) : Outcome :=
  if cleared then ⟨true, notify.setOnce latch false, []⟩
  else if notify.once latch then ⟨true, notify, []⟩
  else publishCommonEvent env event (notify.setOnce latch true) preparation

def publishLowEvent (env : PublishEnv) (info : BatteryInfo) (notify : BatteryNotify) : Outcome :=
  publishOnce env .Low (info.capacity > notify.lowCapacity) []
    { action := COMMON_EVENT_BATTERY_LOW, code := info.capacity } notify

def publishOkayEvent (env : PublishEnv) (info : BatteryInfo) (notify : BatteryNotify) : Outcome :=
  publishOnce env .Ok (info.capacity ≤ notify.lowCapacity) []
    { action := COMMON_EVENT_BATTERY_OKAY, code := info.capacity } notify

def publishPowerConnectedEvent (env : PublishEnv) (info : BatteryInfo) (notify : BatteryNotify) :
    Outcome :=
  publishOnce env .Connect (info.pluggedType = .None ∨ info.pluggedType = .Butt)
    [.StartVibrator "start_charge"]
    { action := COMMON_EVENT_POWER_CONNECTED, code := toInt32 info.pluggedType.code } notify

def publishPowerDisconnectedEvent (env : PublishEnv) (info : BatteryInfo) (notify : BatteryNotify) :
    Outcome :=
  publishOnce env .Disconnect (info.pluggedType ≠ .None ∧ info.pluggedType ≠ .Butt) []
    { action := COMMON_EVENT_POWER_DISCONNECTED, code := toInt32 info.pluggedType.code } notify

def publishChargingEvent (env : PublishEnv) (info : BatteryInfo) (notify : BatteryNotify) : Outcome :=
  publishOnce env .Charging (info.chargeState ≠ .Enable ∧ info.chargeState ≠ .Full) []
    { action := COMMON_EVENT_CHARGING, code := toInt32 info.chargeState.code } notify

def publishDischargingEvent (env : PublishEnv) (info : BatteryInfo) (notify : BatteryNotify) :
    Outcome :=
  publishOnce env .Discharging (info.chargeState = .Enable ∨ info.chargeState = .Full) []
    { action := COMMON_EVENT_DISCHARGING, code := toInt32 info.chargeState.code } notify

def chargeTypeChangedEvent (info : BatteryInfo) : CommonEvent where
  action := COMMON_EVENT_CHARGE_TYPE_CHANGED
  code := toInt32 info.chargeType.code

def publishChargeTypeChangedEvent (env : PublishEnv) (info : BatteryInfo) (notify : BatteryNotify) :
    Outcome :=
  if notify.batteryInfoChargeType = info.chargeType then ⟨true, notify, []⟩
  else publishCommonEvent env (chargeTypeChangedEvent info)
    { notify with batteryInfoChargeType := info.chargeType } []

def customEvent (info : BatteryInfo) (commonEventName : String) : CommonEvent where
  action := commonEventName
  params := [("uevent", .String info.uevent)]
  subscriberPermissions := ["ohos.permission.POWER_OPTIMIZATION"]

-- The hook is always asked first, so each call leaves one `HookMgrExecute`.
def publishCustomEvent (env : PublishEnv) (info : BatteryInfo) (commonEventName : String) :
    Bool × List Effect :=
  let event := customEvent info commonEventName
  if env.ueventCheck info.uevent then
    (env.publish event,
      [.HookMgrExecute info.uevent, .PublishCommonEvent event (env.publish event)])
  else (false, [.HookMgrExecute info.uevent])

-- Run the publishers in order, `isAllSuccess &= ret` after each.
def publishAll : List (BatteryNotify → Outcome) → BatteryNotify → Outcome
  | [], notify => ⟨true, notify, []⟩
  | publisher :: rest, notify =>
      let first := publisher notify
      let others := publishAll rest first.notify
      ⟨first.isSuccess && others.isSuccess, others.notify, first.effects ++ others.effects⟩

def publishers (env : PublishEnv) (info : BatteryInfo) : List (BatteryNotify → Outcome) := [
  publishChangedEvent env info,
  publishChangedEventInner env info,
  publishLowEvent env info,
  publishOkayEvent env info,
  publishPowerConnectedEvent env info,
  publishPowerDisconnectedEvent env info,
  publishChargingEvent env info,
  publishDischargingEvent env info,
  publishChargeTypeChangedEvent env info]

-- The argument is passed by reference, so the caller's info comes back too.
structure PublishResult where
  code : ErrCode
  info : BatteryInfo
  notify : BatteryNotify
  effects : List Effect

def handleUevent (env : PublishEnv) (notify : BatteryNotify) (info : BatteryInfo) : PublishResult :=
  match rsplit '$' info.uevent with
  | none => ⟨.Ok, info, notify, []⟩
  | some (ueventName, ueventAct) =>
      let named := { info with uevent := ueventName }
      if ueventAct = SHUTDOWN then
        ⟨.Ok, info, notify, [.ShutDownDevice "POWEROFF_CHARGE_DISABLE"]⟩
      else if ueventAct = REBOOT then
        ⟨.Ok, info, notify, [.RebootDevice ueventName]⟩
      else if ueventAct = SEND_COMMONEVENT then
        let changed := publishChangedEvent env named notify
        ⟨.Ok, named, changed.notify, changed.effects⟩
      else if BATTERY_CUSTOM_EVENT_PREFIX.toList.isPrefixOf ueventAct.toList then
        ⟨.Ok, named, notify, (publishCustomEvent env named ueventAct).2 ++
          if ueventName = PRODUCT_TYPE_THREE ∨ ueventName = PRODUCT_TYPE_FOUR ∨
              ueventName = PRODUCT_TYPE_FIVE then [.HandleNotification ueventName] else []⟩
      else if ueventAct = SEND_POPUP then
        let changed := publishChangedEvent env named notify
        ⟨.Ok, named, changed.notify, changed.effects ++ [.HandleNotification ueventName]⟩
      else ⟨.Ok, info, notify, []⟩

def OrdinaryUevent (info : BatteryInfo) : Prop :=
  info.uevent = POWER_SUPPLY ∨ info.uevent = "" ∨ info.uevent = INVALID_STRING_VALUE

instance (info : BatteryInfo) : Decidable (OrdinaryUevent info) :=
  inferInstanceAs (Decidable (_ ∨ _ ∨ _))

def publishOrdinary (env : PublishEnv) (notify : BatteryNotify) (info : BatteryInfo) :
    PublishResult :=
  let all := publishAll (publishers env info) notify
  ⟨if all.isSuccess then .Ok else .NoInit, info,
    { all.notify with lastPowerPluggedType := info.pluggedType }, all.effects⟩

-- What `publishEvents` does once the common event service is known to exist.
def publishKnown (env : PublishEnv) (notify : BatteryNotify) (info : BatteryInfo) : PublishResult :=
  if OrdinaryUevent info then publishOrdinary env notify info else handleUevent env notify info

-- The service is looked up only until it has been seen once.
def publishEvents (env : PublishEnv) (notify : BatteryNotify) (info : BatteryInfo) : PublishResult :=
  if notify.commonEventInitSuccess then publishKnown env notify info
  else if env.serviceExists then
    publishKnown env { notify with commonEventInitSuccess := true } info
  else ⟨.NoInit, info, notify, []⟩

end BatteryManager
