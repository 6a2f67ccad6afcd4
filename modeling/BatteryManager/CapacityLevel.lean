import BatteryManager.Config
import BatteryManager.Info

namespace BatteryManager

def BATTERY_FULL_CAPACITY : Int := 100

-- The seven thresholds of the configuration. A threshold that is not
-- configured keeps the invalid value.
structure CapacityThresholds where
  shutdown : Int := INVALID_BATT_INT_VALUE
  critical : Int := INVALID_BATT_INT_VALUE
  warning : Int := INVALID_BATT_INT_VALUE
  low : Int := INVALID_BATT_INT_VALUE
  normal : Int := INVALID_BATT_INT_VALUE
  high : Int := INVALID_BATT_INT_VALUE
  full : Int := INVALID_BATT_INT_VALUE

def initThresholds (config : BatteryConfig) : CapacityThresholds where
  shutdown := config.getInt "soc.shutdown" INVALID_BATT_INT_VALUE
  critical := config.getInt "soc.critical" INVALID_BATT_INT_VALUE
  warning := config.getInt "soc.warning" INVALID_BATT_INT_VALUE
  low := config.getInt "soc.low" INVALID_BATT_INT_VALUE
  normal := config.getInt "soc.normal" INVALID_BATT_INT_VALUE
  high := config.getInt "soc.high" INVALID_BATT_INT_VALUE
  full := config.getInt "soc.full" INVALID_BATT_INT_VALUE

def isCapacityLevelDefined (capacityThreshold : Int) : Bool :=
  capacityThreshold ≠ INVALID_BATT_INT_VALUE

def capacityLevelCompare (capacity minCapacity maxCapacity : Int) : Bool :=
  isCapacityLevelDefined maxCapacity && capacity > minCapacity && capacity ≤ maxCapacity

-- The table of `GetCapacityLevelInner`, for the capacity that it has read.
def getCapacityLevelInner (thresholds : CapacityThresholds) (capacity : Int) : BatteryCapacityLevel :=
  if capacityLevelCompare capacity INVALID_BATT_INT_VALUE thresholds.shutdown then .Shutdown
  else if capacityLevelCompare capacity thresholds.shutdown thresholds.critical then .Critical
  else if capacityLevelCompare capacity thresholds.critical thresholds.warning then .Warning
  else if capacityLevelCompare capacity thresholds.warning thresholds.low then .Low
  else if capacityLevelCompare capacity thresholds.low thresholds.normal then .Normal
  else if capacityLevelCompare capacity thresholds.normal thresholds.high then .High
  else if capacityLevelCompare capacity thresholds.high thresholds.full then .Full
  else .None

-- `interface` is null or not; `answer` is absent when the HDI call leaves its
-- argument as it was.
def getCapacityInner (isMockCapacity : Bool) (batteryInfo : BatteryInfo) (interface : Bool)
    (answer : Option Int) : Int :=
  if isMockCapacity then batteryInfo.capacity
  else if interface then answer.getD BATTERY_FULL_CAPACITY
  else BATTERY_FULL_CAPACITY

end BatteryManager
