import BatteryManager.Library.Run
import BatteryManager.Service.Lemmas

namespace BatteryManager

open Library

variable {F : Ffrt}

-- The commands, reports and HDI restarts of the service, each executed as a
-- whole. `event` is what the HDI reports or leaves in the local event.
inductive ServiceLabel
  | Callback (event : HdiBatteryInfo) (chargeType : Option Nat) (env : ReportEnv)
  | MockUnplugged (event : HdiBatteryInfo) (chargeType : Option Nat) (env : ReportEnv)
  | MockCapacity (capacity : Int) (event : HdiBatteryInfo) (chargeType : Option Nat) (env : ReportEnv)
  | MockUevent (uevent : String) (event : HdiBatteryInfo) (chargeType : Option Nat) (env : ReportEnv)
  | Reset (event : HdiBatteryInfo) (chargeType : Option Nat) (env : ReportEnv)
  | Stop
  | Start (env : BatteryService.InitEnv)

def serviceStep (build : Build) (config : BatteryConfig) (service : BatteryService F) :
    ServiceLabel → Option (BatteryService F × List Effect)
  | .Callback event chargeType env =>
      some (service.handleBatteryCallbackEvent build config env event chargeType)
  | .MockUnplugged event chargeType env =>
      some (service.mockUnplugged build config env event chargeType)
  | .MockCapacity capacity event chargeType env =>
      some (service.mockCapacity build config env event chargeType capacity)
  | .MockUevent uevent event chargeType env =>
      some (service.mockUevent build config env event chargeType uevent)
  | .Reset event chargeType env => some (service.reset build config env event chargeType)
  | .Stop => some (service.hdiStop, [])
  | .Start env => some (service.hdiStartTask build config env)

abbrev ServiceRun (build : Build) (config : BatteryConfig) (enableS4 : Bool) :
    List ServiceLabel → BatteryService F → List Effect → Prop :=
  Run (serviceStep build config) (.init build config enableS4)

-- The information that a report stands for.
def HdiBatteryInfo.toInfo (event : HdiBatteryInfo) (chargeType : ChargeType) : BatteryInfo where
  present := event.present
  capacity := event.capacity
  voltage := event.voltage
  temperature := event.temperature
  totalEnergy := event.totalEnergy
  curAverage := event.curAverage
  nowCurr := event.curNow
  pluggedMaxCurrent := event.pluggedMaxCurrent
  pluggedMaxVoltage := event.pluggedMaxVoltage
  chargeCounter := event.chargeCounter
  remainEnergy := event.remainEnergy
  chargeType := chargeType
  healthState := .ofCode event.healthState
  pluggedType := .ofCode event.pluggedType
  chargeState := .ofCode event.chargeState
  technology := event.technology
  uevent := event.uevent

-- The individual getters that answer with the fields of a report.
def HdiBatteryInfo.answers (event : HdiBatteryInfo) (chargeType : Nat) : HdiAnswers where
  capacity := some event.capacity
  pluggedType := some event.pluggedType
  chargeState := some event.chargeState
  voltage := some event.voltage
  temperature := some event.temperature
  healthState := some event.healthState
  totalEnergy := some event.totalEnergy
  curAverage := some event.curAverage
  remainEnergy := some event.remainEnergy
  present := some event.present
  technology := some event.technology
  nowCurrent := some event.curNow
  chargeType := some chargeType

-- An HDI that comes up while no other service answers.
def HdiBatteryInfo.startEnv (event : HdiBatteryInfo) (chargeType : Nat) : BatteryService.InitEnv where
  report := silentEnv
  answers := event.answers chargeType
  isSystem := true
  errNoInit := -1
  getBatteryConfig := fun _ => none
  interfaceAvailable := true

-- A device on its charger.
def chargingEvent : HdiBatteryInfo where
  capacity := 50
  pluggedType := 1
  pluggedMaxCurrent := 2000
  pluggedMaxVoltage := 5000
  chargeState := 1
  voltage := 4000
  temperature := 250
  healthState := 1
  chargeCounter := 30
  totalEnergy := 100
  curAverage := 10
  remainEnergy := 50
  present := true
  technology := "Li-poly"
  curNow := 20
  uevent := POWER_SUPPLY

namespace BatteryService

def chargeTypeAnswer (service : BatteryService F) (chargeType : Option Nat) : ChargeType :=
  .ofCode (if service.interface then chargeType.getD 0 else 0)

variable (build : Build) (config : BatteryConfig) (env : ReportEnv) (service : BatteryService F)

@[simp] theorem handleBatteryInfo_isMockUnplugged :
    (service.handleBatteryInfo build config env).1.isMockUnplugged = service.isMockUnplugged := by
  unfold handleBatteryInfo handleLowCapacity
  cases build <;> rfl

@[simp] theorem handleBatteryInfo_isMockCapacity :
    (service.handleBatteryInfo build config env).1.isMockCapacity = service.isMockCapacity := by
  unfold handleBatteryInfo handleLowCapacity
  cases build <;> rfl

@[simp] theorem handleBatteryInfo_isMockUevent :
    (service.handleBatteryInfo build config env).1.isMockUevent = service.isMockUevent := by
  unfold handleBatteryInfo handleLowCapacity
  cases build <;> rfl

-- Handling a report changes nothing but the uevent of the information.
theorem handleBatteryInfo_uevent : ∃ uevent, (service.handleBatteryInfo build config env).1.batteryInfo =
    { service.batteryInfo with uevent := uevent } := by
  obtain ⟨uevent, hinfo⟩ :=
    publishEvents_info (service.publishEnv env) service.notify service.batteryInfo
  exact ⟨uevent, (handleBatteryInfo_batteryInfo config env service build).trans hinfo⟩

-- Without mock flags, every field comes from the report.
theorem convertingEvent_unmocked (event : HdiBatteryInfo) (chargeType : Option Nat)
    (hmock : service.isMocked = false) :
    service.convertingEvent event chargeType =
      event.toInfo (service.chargeTypeAnswer chargeType) := by
  simp only [isMocked, Bool.or_eq_false_iff] at hmock
  simp only [convertingEvent, hmock, Bool.false_eq_true, if_false]
  rfl

end BatteryService

end BatteryManager
