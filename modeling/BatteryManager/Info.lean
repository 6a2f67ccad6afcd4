import Mathlib.Data.Int.Notation

namespace BatteryManager

def INVALID_BATT_INT_VALUE : Int := -1
def INVALID_BATT_TEMP_VALUE : Int := 100
def INVALID_STRING_VALUE : String := "Invalid"
def INVALID_BATT_BOOL_VALUE : Bool := true

-- `static_cast<int32_t>` of an unsigned 32-bit value.
def toInt32 (value : Nat) : Int := (value : Int).bmod 4294967296

theorem toInt32_emod (value : Nat) : toInt32 value % 4294967296 = (value : Int) % 4294967296 :=
  Int.bmod_emod

theorem ofInt_toInt32 (flags : UInt32) : UInt32.ofInt (toInt32 flags.toNat) = flags := by
  have hlt := flags.toNat_lt
  have hmod : toInt32 flags.toNat % 2 ^ 32 = flags.toNat := by
    have hbmod := toInt32_emod flags.toNat
    omega
  rw [UInt32.ofInt, hmod, Int.toNat_natCast, UInt32.ofNat_toNat]

-- Each enumeration below has a fixed underlying type, and the service casts
-- whatever number the HDI reports into it. `Beyond n` is the value `n + 1`
-- above the last enumerator, so `ofCode` has a value for every number.

inductive BatteryChargeState
  | None
  | Enable
  | Disable
  | Full
  | Butt
  | Beyond (excess : Nat)
  deriving DecidableEq

namespace BatteryChargeState

def code : BatteryChargeState → Nat
  | None => 0
  | Enable => 1
  | Disable => 2
  | Full => 3
  | Butt => 4
  | Beyond excess => excess + 5

def ofCode : Nat → BatteryChargeState
  | 0 => None
  | 1 => Enable
  | 2 => Disable
  | 3 => Full
  | 4 => Butt
  | excess + 5 => Beyond excess

end BatteryChargeState

inductive BatteryHealthState
  | Unknown
  | Good
  | Overheat
  | Overvoltage
  | Cold
  | Dead
  | Butt
  | Beyond (excess : Nat)
  deriving DecidableEq

namespace BatteryHealthState

def code : BatteryHealthState → Nat
  | Unknown => 0
  | Good => 1
  | Overheat => 2
  | Overvoltage => 3
  | Cold => 4
  | Dead => 5
  | Butt => 6
  | Beyond excess => excess + 7

def ofCode : Nat → BatteryHealthState
  | 0 => Unknown
  | 1 => Good
  | 2 => Overheat
  | 3 => Overvoltage
  | 4 => Cold
  | 5 => Dead
  | 6 => Butt
  | excess + 7 => Beyond excess

end BatteryHealthState

inductive BatteryPluggedType
  | None
  | Ac
  | Usb
  | Wireless
  | Butt
  | Beyond (excess : Nat)
  deriving DecidableEq

namespace BatteryPluggedType

def code : BatteryPluggedType → Nat
  | None => 0
  | Ac => 1
  | Usb => 2
  | Wireless => 3
  | Butt => 4
  | Beyond excess => excess + 5

def ofCode : Nat → BatteryPluggedType
  | 0 => None
  | 1 => Ac
  | 2 => Usb
  | 3 => Wireless
  | 4 => Butt
  | excess + 5 => Beyond excess

end BatteryPluggedType

inductive ChargeType
  | None
  | WiredNormal
  | WiredQuick
  | WiredSuperQuick
  | WirelessNormal
  | WirelessQuick
  | WirelessSuperQuick
  | Beyond (excess : Nat)
  deriving DecidableEq

namespace ChargeType

def code : ChargeType → Nat
  | None => 0
  | WiredNormal => 1
  | WiredQuick => 2
  | WiredSuperQuick => 3
  | WirelessNormal => 4
  | WirelessQuick => 5
  | WirelessSuperQuick => 6
  | Beyond excess => excess + 7

def ofCode : Nat → ChargeType
  | 0 => None
  | 1 => WiredNormal
  | 2 => WiredQuick
  | 3 => WiredSuperQuick
  | 4 => WirelessNormal
  | 5 => WirelessQuick
  | 6 => WirelessSuperQuick
  | excess + 7 => Beyond excess

end ChargeType

-- The service only ever computes these, so there is no value past the last one.
inductive BatteryCapacityLevel
  | None
  | Full
  | High
  | Normal
  | Low
  | Warning
  | Critical
  | Shutdown
  | Reserved
  deriving DecidableEq

def BatteryCapacityLevel.code : BatteryCapacityLevel → Nat
  | None => 0
  | Full => 1
  | High => 2
  | Normal => 3
  | Low => 4
  | Warning => 5
  | Critical => 6
  | Shutdown => 7
  | Reserved => 8

structure BatteryInfo where
  present : Bool := INVALID_BATT_BOOL_VALUE
  capacity : Int := INVALID_BATT_INT_VALUE
  voltage : Int := INVALID_BATT_INT_VALUE
  temperature : Int := INVALID_BATT_TEMP_VALUE
  totalEnergy : Int := INVALID_BATT_INT_VALUE
  curAverage : Int := INVALID_BATT_INT_VALUE
  nowCurr : Int := INVALID_BATT_INT_VALUE
  pluggedMaxCurrent : Int := INVALID_BATT_INT_VALUE
  pluggedMaxVoltage : Int := INVALID_BATT_INT_VALUE
  chargeCounter : Int := INVALID_BATT_INT_VALUE
  remainEnergy : Int := INVALID_BATT_INT_VALUE
  chargeType : ChargeType := .None
  healthState : BatteryHealthState := .Butt
  pluggedType : BatteryPluggedType := .Butt
  chargeState : BatteryChargeState := .Butt
  technology : String := INVALID_STRING_VALUE
  uevent : String := INVALID_STRING_VALUE
  deriving DecidableEq

end BatteryManager
