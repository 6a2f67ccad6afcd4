import BatteryManager.CapacityLevel

namespace BatteryManager

-- What the HDI calls answer. An absent answer is a call that leaves its
-- argument as it was.
structure HdiAnswers where
  capacity : Option Int
  pluggedType : Option Nat
  chargeState : Option Nat
  voltage : Option Int
  temperature : Option Int
  healthState : Option Nat
  totalEnergy : Option Int
  curAverage : Option Int
  remainEnergy : Option Int
  present : Option Bool
  technology : Option String
  nowCurrent : Option Int
  chargeType : Option Nat

-- What the getters look at beside `batteryInfo_`. `errNoInit` is the
-- platform's value of `ERR_NO_INIT`.
structure HdiReader where
  interface : Bool
  isMockCapacity : Bool
  isMockUnplugged : Bool
  isSystem : Bool
  errNoInit : Int
  answers : HdiAnswers

namespace HdiReader

-- The shape of the getters: `absent` is returned when there is no interface,
-- and `initial` is the value of the local variable before the HDI call.
def read {α : Type} (reader : HdiReader) (absent initial : α) (answer : Option α) : α :=
  if reader.interface then answer.getD initial else absent

def getCapacity (reader : HdiReader) (batteryInfo : BatteryInfo) : Int :=
  getCapacityInner reader.isMockCapacity batteryInfo reader.interface reader.answers.capacity

def getPluggedTypeInner (reader : HdiReader) (batteryInfo : BatteryInfo) : BatteryPluggedType :=
  if reader.isMockUnplugged then batteryInfo.pluggedType
  else .ofCode (reader.read 0 0 reader.answers.pluggedType)

def getChargingStatusInner (reader : HdiReader) (batteryInfo : BatteryInfo) : BatteryChargeState :=
  if reader.isMockUnplugged then batteryInfo.chargeState
  else .ofCode (reader.read 0 0 reader.answers.chargeState)

def getVoltageInner (reader : HdiReader) : Int :=
  reader.read reader.errNoInit INVALID_BATT_INT_VALUE reader.answers.voltage

def getBatteryTemperatureInner (reader : HdiReader) (batteryInfo : BatteryInfo) : Int :=
  reader.read batteryInfo.temperature INVALID_BATT_INT_VALUE reader.answers.temperature

def getHealthStatusInner (reader : HdiReader) : BatteryHealthState :=
  .ofCode (reader.read 0 0 reader.answers.healthState)

def getTotalEnergyInner (reader : HdiReader) (batteryInfo : BatteryInfo) : Int :=
  if reader.isSystem then
    reader.read batteryInfo.totalEnergy INVALID_BATT_INT_VALUE reader.answers.totalEnergy
  else INVALID_BATT_INT_VALUE

def getCurrentAverageInner (reader : HdiReader) (batteryInfo : BatteryInfo) : Int :=
  reader.read batteryInfo.curAverage INVALID_BATT_INT_VALUE reader.answers.curAverage

def getRemainEnergyInner (reader : HdiReader) (batteryInfo : BatteryInfo) : Int :=
  if reader.isSystem then
    reader.read batteryInfo.remainEnergy INVALID_BATT_INT_VALUE reader.answers.remainEnergy
  else INVALID_BATT_INT_VALUE

def getPresentInner (reader : HdiReader) : Bool :=
  reader.read false false reader.answers.present

def getTechnologyInner (reader : HdiReader) : String :=
  reader.read "" "" reader.answers.technology

def getNowCurrentInner (reader : HdiReader) (batteryInfo : BatteryInfo) : Int :=
  reader.read batteryInfo.nowCurr INVALID_BATT_INT_VALUE reader.answers.nowCurrent

def getChargeType (reader : HdiReader) : ChargeType :=
  .ofCode (reader.read 0 0 reader.answers.chargeType)

-- The assignments with which `InitBatteryInfo` fills `batteryInfo_`, one field
-- at a time and in this order.
def initWrites (reader : HdiReader) : List (BatteryInfo → BatteryInfo) := [
  fun info => { info with capacity := reader.getCapacity info },
  fun info => { info with pluggedType := reader.getPluggedTypeInner info },
  fun info => { info with chargeState := reader.getChargingStatusInner info },
  fun info => { info with voltage := reader.getVoltageInner },
  fun info => { info with temperature := reader.getBatteryTemperatureInner info },
  fun info => { info with healthState := reader.getHealthStatusInner },
  fun info => { info with totalEnergy := reader.getTotalEnergyInner info },
  fun info => { info with curAverage := reader.getCurrentAverageInner info },
  fun info => { info with remainEnergy := reader.getRemainEnergyInner info },
  fun info => { info with present := reader.getPresentInner },
  fun info => { info with technology := reader.getTechnologyInner },
  fun info => { info with nowCurr := reader.getNowCurrentInner info },
  fun info => { info with chargeType := reader.getChargeType }]

def fillInfo (reader : HdiReader) (info : BatteryInfo) : BatteryInfo :=
  reader.initWrites.foldl (fun info write => write info) info

end HdiReader

end BatteryManager
