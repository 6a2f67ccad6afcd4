import Mathlib.Data.Int.Notation

namespace BatteryManager

def INT32_MAX : Int := 2147483647
def INT32_MIN : Int := -2147483648

structure LightConf where
  beginSoc : Int
  endSoc : Int
  rgb : UInt32

-- One boot action: the event and uevent to send when the configuration of a
-- scene has, or does not have, the given value.
structure CommonEventConf where
  eventName : String
  uevent : String
  sceneConfigName : String
  sceneConfigEqual : Bool
  sceneConfigValue : String

-- What the service reads from the parsed configuration. `getInt key defVal` is
-- `defVal` when the key does not lead to a number.
structure BatteryConfig where
  getInt : String → Int → Int
  lightConf : List LightConf := []
  commonEventConf : List CommonEventConf := []

-- The numbers of the configuration that the repository ships.
def shippedNumbers : List (String × Int) := [
  ("temperature.high", 680),
  ("temperature.low", -500),
  ("soc.shutdown", 1),
  ("soc.critical", 5),
  ("soc.warning", 10),
  ("soc.low", 20),
  ("soc.normal", 90),
  ("soc.high", 99),
  ("soc.full", 100)]

def shippedConfig : BatteryConfig where
  getInt key defVal := (shippedNumbers.lookup key).getD defVal
  lightConf := [⟨0, 10, 0xFF0000⟩, ⟨10, 90, 0xFFFF00⟩, ⟨90, 100, 0x00FF00⟩]
  commonEventConf := [{
    eventName := "usual.event.BATTERY_CHANGED"
    uevent := "battery common event"
    sceneConfigName := "wireless"
    sceneConfigEqual := false
    sceneConfigValue := "0" }]

end BatteryManager
