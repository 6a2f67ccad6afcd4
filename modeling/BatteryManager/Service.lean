import BatteryManager.Boot
import BatteryManager.ChargeTime
import BatteryManager.Getters
import BatteryManager.Hibernate
import BatteryManager.Light

namespace BatteryManager

open Library

-- Whether `BATTERY_MANAGER_SET_LOW_CAPACITY_THRESHOLD` is defined.
inductive Build
  | Default
  | SetLowCapacityThreshold
  deriving DecidableEq

-- The task queue and the timer of the platform.
structure Ffrt where
  queue : TaskQueue
  timer : OneShotTimer

def ticketFfrt : Ffrt where
  queue := ticketQueue
  timer := flagTimer

variable {F : Ffrt}

structure BatteryService (F : Ffrt) where
  notify : BatteryNotify
  light : BatteryLight := {}
  interface : Bool := false
  isMockUnplugged : Bool := false
  isMockCapacity : Bool := false
  isMockUevent : Bool := false
  chargeTime : ChargeTime := {}
  isBatteryHdiReady : Bool := false
  isCommonEventReady : Bool := false
  highTemperature : Int := INT32_MAX
  lowTemperature : Int := INT32_MIN
  thresholds : CapacityThresholds := {}
  batteryInfo : BatteryInfo := {}
  lastBatteryInfo : BatteryInfo := {}
  lastPluggedType : BatteryPluggedType := .None
  lowCapacityShutdown : LowCapacityShutdown F.queue := {}
  delayHibernate : DelayHibernate F.timer := {}

def BatteryNotify.create (config : BatteryConfig) : BatteryNotify where
  lowCapacity := config.getInt "soc.low" 20

-- The service after `Init`. `enableS4` is the parameter `const.power.enable_s4`.
def BatteryService.init (build : Build) (config : BatteryConfig) (enableS4 : Bool) :
    BatteryService F where
  notify := .create config
  highTemperature := config.getInt "temperature.high" INT32_MAX
  lowTemperature := config.getInt "temperature.low" INT32_MIN
  thresholds := initThresholds config
  delayHibernate :=
    match build with
    | .Default => {}
    | .SetLowCapacityThreshold =>
        { ffrtTimer := some F.timer.create, isHibernateEnable := enableS4 }

-- The answers of the rest of the system while one report is handled.
structure ReportEnv where
  serviceExists : Bool
  publish : CommonEvent → Bool
  ueventCheck : String → Bool
  capacity : Option Int
  light : LightEnv
  clock : ClockReadings
  runningLockCreated : Bool

-- A system in which no service answers.
def silentEnv : ReportEnv where
  serviceExists := false
  publish := fun _ => false
  ueventCheck := fun _ => true
  capacity := none
  light := ⟨false, false⟩
  clock := ⟨0, 0, 0⟩
  runningLockCreated := true

def isNowPlugged (pluggedType : BatteryPluggedType) : Bool :=
  pluggedType ≠ .None && pluggedType ≠ .Butt

namespace BatteryService

def isLastPlugged (service : BatteryService F) : Bool :=
  service.lastPluggedType ≠ .None && service.lastPluggedType ≠ .Butt

def isPlugged (service : BatteryService F) (pluggedType : BatteryPluggedType) : Bool :=
  !service.isLastPlugged && isNowPlugged pluggedType

def isUnplugged (service : BatteryService F) (pluggedType : BatteryPluggedType) : Bool :=
  service.isLastPlugged && !isNowPlugged pluggedType

def wakeupDevice (service : BatteryService F) (pluggedType : BatteryPluggedType) :
    BatteryService F × List Effect :=
  ({ service with lastPluggedType := pluggedType },
    if service.isPlugged pluggedType || service.isUnplugged pluggedType then [.WakeupDevice] else [])

def handleTemperature (service : BatteryService F) (temperature : Int) : List Effect :=
  if (temperature ≤ service.lowTemperature ∨ temperature ≥ service.highTemperature) ∧
      service.highTemperature ≠ service.lowTemperature then
    [.ShutDownDevice "TemperatureOutOfRange"]
  else []

-- The capacity level is read from the service itself while an event is built.
def publishEnv (service : BatteryService F) (env : ReportEnv) : PublishEnv where
  serviceExists := env.serviceExists
  publish := env.publish
  capacityLevel := getCapacityLevelInner service.thresholds
    (getCapacityInner service.isMockCapacity service.batteryInfo service.interface env.capacity)
  ueventCheck := env.ueventCheck

-- `HandleCapacityExt` or `HandleCapacity`, whichever is compiled in.
def handleLowCapacity (build : Build) (env : ReportEnv) (service : BatteryService F) :
    BatteryService F :=
  let info := service.batteryInfo
  match build with
  | .SetLowCapacityThreshold =>
      { service with
        delayHibernate := service.delayHibernate.handleCapacityExt env.runningLockCreated
          service.thresholds.shutdown service.lastBatteryInfo.capacity info.capacity
          info.chargeState info.present }
  | .Default =>
      { service with
        lowCapacityShutdown := handleCapacity service.thresholds.shutdown info.capacity
          info.chargeState info.present service.lowCapacityShutdown }

def handleBatteryInfo (build : Build) (config : BatteryConfig) (env : ReportEnv)
    (service : BatteryService F) : BatteryService F × List Effect :=
  let info := service.batteryInfo
  let light := service.light.updateColor env.light config.lightConf info.chargeState info.capacity
  let woken := { service with light := light.light }.wakeupDevice info.pluggedType
  let chargeTime :=
    service.chargeTime.calculateRemainingChargeTime env.clock info.capacity info.chargeState
  -- `PublishEvents` may rewrite the uevent of `batteryInfo_`.
  let published := publishEvents (service.publishEnv env) service.notify info
  let announced := { woken.1 with
    chargeTime := chargeTime, notify := published.notify, batteryInfo := published.info }
  let handled := announced.handleLowCapacity build env
  ({ handled with lastBatteryInfo := handled.batteryInfo },
    light.effects ++ woken.2 ++ published.effects ++
      announced.handleTemperature announced.batteryInfo.temperature)

end BatteryService

-- A `V2_0::BatteryInfo`, with its enumerations as numbers.
structure HdiBatteryInfo where
  capacity : Int
  pluggedType : Nat
  pluggedMaxCurrent : Int
  pluggedMaxVoltage : Int
  chargeState : Nat
  voltage : Int
  temperature : Int
  healthState : Nat
  chargeCounter : Int
  totalEnergy : Int
  curAverage : Int
  remainEnergy : Int
  present : Bool
  technology : String
  curNow : Int
  uevent : String

namespace BatteryService

-- `chargeType` is the answer of the HDI to `GetChargeType`.
def convertingEvent (service : BatteryService F) (event : HdiBatteryInfo) (chargeType : Option Nat) :
    BatteryInfo :=
  let info := service.batteryInfo
  { info with
    capacity := if service.isMockCapacity then info.capacity else event.capacity
    pluggedType := if service.isMockUnplugged then info.pluggedType else .ofCode event.pluggedType
    pluggedMaxCurrent :=
      if service.isMockUnplugged then info.pluggedMaxCurrent else event.pluggedMaxCurrent
    pluggedMaxVoltage :=
      if service.isMockUnplugged then info.pluggedMaxVoltage else event.pluggedMaxVoltage
    chargeState := if service.isMockUnplugged then info.chargeState else .ofCode event.chargeState
    voltage := event.voltage
    temperature := event.temperature
    healthState := .ofCode event.healthState
    chargeCounter := event.chargeCounter
    totalEnergy := event.totalEnergy
    curAverage := event.curAverage
    remainEnergy := event.remainEnergy
    present := event.present
    technology := event.technology
    nowCurr := event.curNow
    chargeType := .ofCode (if service.interface then chargeType.getD 0 else 0)
    uevent := if service.isMockUevent then info.uevent else event.uevent }

-- `event` is what the HDI left in the local event.
def reset (build : Build) (config : BatteryConfig) (env : ReportEnv) (event : HdiBatteryInfo)
    (chargeType : Option Nat) (service : BatteryService F) : BatteryService F × List Effect :=
  if service.interface then
    let unmocked := { service with
      isMockUnplugged := false, isMockCapacity := false, isMockUevent := false }
    let converted := { unmocked with batteryInfo := unmocked.convertingEvent event chargeType }
    let handled := converted.handleBatteryInfo build config env
    match build with
    | .SetLowCapacityThreshold =>
        ({ handled.1 with delayHibernate := handled.1.delayHibernate.resetTimer }, handled.2)
    | .Default => handled
  else (service, [])

-- `event` is what the HDI left in the local event, here and in the next two.
def mockUnplugged (build : Build) (config : BatteryConfig) (env : ReportEnv) (event : HdiBatteryInfo)
    (chargeType : Option Nat) (service : BatteryService F) : BatteryService F × List Effect :=
  if service.interface then
    let mocked := { service with isMockUnplugged := true }
    let unplugged := { mocked.convertingEvent event chargeType with
      pluggedType := .None
      pluggedMaxCurrent := 0
      pluggedMaxVoltage := 0
      chargeState := .None }
    { mocked with batteryInfo := unplugged }.handleBatteryInfo build config env
  else (service, [])

def mockCapacity (build : Build) (config : BatteryConfig) (env : ReportEnv) (event : HdiBatteryInfo)
    (chargeType : Option Nat) (capacity : Int) (service : BatteryService F) :
    BatteryService F × List Effect :=
  if service.interface then
    let mocked := { service with isMockCapacity := true }
    let charged := { mocked.convertingEvent event chargeType with capacity := capacity }
    { mocked with batteryInfo := charged }.handleBatteryInfo build config env
  else (service, [])

def mockUevent (build : Build) (config : BatteryConfig) (env : ReportEnv) (event : HdiBatteryInfo)
    (chargeType : Option Nat) (uevent : String) (service : BatteryService F) :
    BatteryService F × List Effect :=
  if service.interface then
    let mocked := { service with isMockUevent := true }
    let named := { mocked.convertingEvent event chargeType with uevent := uevent }
    { mocked with batteryInfo := named }.handleBatteryInfo build config env
  else (service, [])

def isMocked (service : BatteryService F) : Bool :=
  service.isMockUnplugged || service.isMockCapacity || service.isMockUevent

def handleBatteryCallbackEvent (build : Build) (config : BatteryConfig) (env : ReportEnv)
    (event : HdiBatteryInfo) (chargeType : Option Nat) (service : BatteryService F) :
    BatteryService F × List Effect :=
  if service.isMocked then (service, [])
  else
    let converted := { service with batteryInfo := service.convertingEvent event chargeType }
    if converted.lastBatteryInfo = converted.batteryInfo then (converted, [])
    else converted.handleBatteryInfo build config env

-- The HDI status callback on STOP.
def hdiStop (service : BatteryService F) : BatteryService F := { service with interface := false }

-- What the HDI start task asks beside what a report asks.
structure InitEnv where
  report : ReportEnv
  answers : HdiAnswers
  isSystem : Bool
  errNoInit : Int
  getBatteryConfig : String → Option String
  interfaceAvailable : Bool

def reader (service : BatteryService F) (env : InitEnv) : HdiReader where
  interface := service.interface
  isMockCapacity := service.isMockCapacity
  isMockUnplugged := service.isMockUnplugged
  isSystem := env.isSystem
  errNoInit := env.errNoInit
  answers := env.answers

-- Only the interface is kept; registering the callback has no other effect here.
def registerBatteryHdiCallback (env : InitEnv) (service : BatteryService F) : BatteryService F :=
  { service with interface := service.interface || env.interfaceAvailable }

def setLowCapacityThreshold (service : BatteryService F) : List Effect :=
  if service.interface then
    [.SetBatteryConfig "low_battery_thers" (toString service.thresholds.shutdown)]
  else []

def initBatteryInfo (build : Build) (config : BatteryConfig) (env : InitEnv)
    (service : BatteryService F) : BatteryService F × List Effect :=
  let filled := { service with batteryInfo := (service.reader env).fillInfo service.batteryInfo }
  let boot := addBootCommonEvents (filled.publishEnv env.report) config.commonEventConf
    (getBatteryConfigInner env.isSystem filled.interface env.getBatteryConfig) filled.batteryInfo
  let handled := { filled with batteryInfo := boot.1 }.handleBatteryInfo build config env.report
  (handled.1, boot.2 ++ handled.2)

-- The task that the HDI status callback submits on START.
def hdiStartTask (build : Build) (config : BatteryConfig) (env : InitEnv)
    (service : BatteryService F) : BatteryService F × List Effect :=
  let registered := service.registerBatteryHdiCallback env
  let threshold :=
    match build with
    | .SetLowCapacityThreshold => registered.setLowCapacityThreshold
    | .Default => []
  let initialised := registered.initBatteryInfo build config env
  ({ initialised.1 with isBatteryHdiReady := true }, threshold ++ initialised.2)

-- `OnAddSystemAbility` for `COMMON_EVENT_SERVICE_ID`.
def onAddCommonEventService (env : ReportEnv) (service : BatteryService F) :
    BatteryService F × List Effect :=
  if service.isCommonEventReady then (service, [])
  else if service.isBatteryHdiReady then
    let info := { service.batteryInfo with uevent := "" }
    let published := publishEvents (service.publishEnv env) service.notify info
    ({ service with notify := published.notify, isCommonEventReady := true }, published.effects)
  else (service, [])

end BatteryService

end BatteryManager
