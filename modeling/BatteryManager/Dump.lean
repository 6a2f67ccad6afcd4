import BatteryManager.Service.Steps

namespace BatteryManager.Dump

open Library

def CAPACITY_DUMP_PARAM_SIZE : Nat := 2
def CAPACITY_LIMIT_MIN : Int := 0
def CAPACITY_LIMIT_MAX : Int := 100
def UEVENT_DUMP_PARAM_SIZE : Nat := 2
def USER_VERSION : String := "[Failed] User version is not support \n"

-- The code units of a `std::u16string`.
abbrev U16String := List UInt16

-- The literals `u"..."`, which are ASCII.
def u16 (text : String) : U16String := text.toList.map fun char => UInt16.ofNat char.toNat

-- `Str16ToStr8` and `StrToInt` of c_utils.
structure StringUtils where
  str16ToStr8 : U16String → String
  strToInt : String → Option Int

-- How the service is built, and the functions of c_utils.
structure DumpBuild where
  build : Build
  userVersion : Bool
  utils : StringUtils

-- What one call of `Dump` finds: the caller, the clock, and the answers of the
-- HDI and of the rest of the system to whichever command is carried out.
structure DumpEnv where
  isBootCompleted : Bool
  isSystem : Bool
  currentTime : Option String
  answers : HdiAnswers
  errNoInit : Int
  event : HdiBatteryInfo
  chargeType : Option Nat
  report : ReportEnv

-- What one of the handlers returns, does to the service, and prints.
structure Handled (F : Ffrt) where
  handled : Bool
  service : BatteryService F
  effects : List Effect := []
  lines : List String := []

inductive DumpCode
  | Ok
  | NoInit
  | PermissionDenied
  deriving DecidableEq

structure DumpReply (F : Ffrt) where
  code : DumpCode
  service : BatteryService F
  effects : List Effect := []
  lines : List String := []

def dumpBatteryHelp (userVersion : Bool) : List String :=
  ["Usage:\n",
    "      -h: dump help\n",
    "      -i: dump battery info\n"] ++
    if userVersion then []
    else
      ["      -u: unplug battery charging state\n",
        "      -r: reset battery state\n",
        "      --capacity <capacity>: set battery capacity, the capacity range [0, 100]\n",
        "      --uevent <uevent>: set battery uevent\n"]

-- `currentTime` is absent when `localtime` fails.
def dumpCurrentTime (env : DumpEnv) : List String :=
  match env.currentTime with
  | some time => ["Current time: " ++ time ++ "\n"]
  | none => []

variable {F : Ffrt}

def reader (env : DumpEnv) (service : BatteryService F) : HdiReader where
  interface := service.interface
  isMockCapacity := service.isMockCapacity
  isMockUnplugged := service.isMockUnplugged
  isSystem := env.isSystem
  errNoInit := env.errNoInit
  answers := env.answers

def dumpBatteryInfo (env : DumpEnv) (service : BatteryService F) : List String :=
  let asked := reader env service
  let info := service.batteryInfo
  let capacity := asked.getCapacity info
  ["capacity: " ++ toString capacity ++ " \n",
    "batteryLevel: " ++ toString (getCapacityLevelInner service.thresholds capacity).code ++ " \n",
    "chargingStatus: " ++ toString (asked.getChargingStatusInner info).code ++ " \n",
    "healthState: " ++ toString asked.getHealthStatusInner.code ++ " \n",
    "pluggedType: " ++ toString (asked.getPluggedTypeInner info).code ++ " \n",
    "voltage: " ++ toString asked.getVoltageInner ++ " \n",
    "present: " ++ (if asked.getPresentInner then "1" else "0") ++ " \n",
    "technology: " ++ asked.getTechnologyInner ++ " \n",
    "nowCurrent: " ++ toString (asked.getNowCurrentInner info) ++ " \n",
    "currentAverage: " ++ toString (asked.getCurrentAverageInner info) ++ " \n",
    "totalEnergy: " ++ toString (asked.getTotalEnergyInner info) ++ " \n",
    "remainingEnergy: " ++ toString (asked.getRemainEnergyInner info) ++ " \n",
    "remainingChargeTime: " ++
      toString (getRemainingChargeTimeInner env.isSystem service.chargeTime) ++ " \n",
    "temperature: " ++ toString (asked.getBatteryTemperatureInner info) ++ " \n",
    "chargeType: " ++ toString asked.getChargeType.code ++ " \n"]

section Handlers

variable (program : DumpBuild) (config : BatteryConfig) (env : DumpEnv) (args : List U16String)
variable (service : BatteryService F)

def getBatteryInfo : Handled F :=
  if args.head? = some (u16 "-i") then
    { handled := true
      service := service
      lines := dumpCurrentTime env ++ dumpBatteryInfo env service }
  else { handled := false, service := service }

-- The result of a command that the service carries out.
def commanded (moved : BatteryService F × List Effect) (line : String) : Handled F where
  handled := true
  service := moved.1
  effects := moved.2
  lines := [line]

-- The shape of the four commands once their arguments are accepted.
def unlessUserVersion (command : Handled F) : Handled F :=
  if program.userVersion then { handled := true, service := service, lines := [USER_VERSION] }
  else command

def mockUnplugged : Handled F :=
  if args.head? = some (u16 "-u") then
    unlessUserVersion program service
      (commanded (service.mockUnplugged program.build config env.report env.event env.chargeType)
        "unplugged battery charging state \n")
  else { handled := false, service := service }

def reset : Handled F :=
  if args.head? = some (u16 "-r") then
    unlessUserVersion program service
      (commanded (service.reset program.build config env.report env.event env.chargeType)
        "reset battery state \n")
  else { handled := false, service := service }

def mockCapacity : Handled F :=
  if args.length = CAPACITY_DUMP_PARAM_SIZE ∧ args.head? = some (u16 "--capacity") then
    unlessUserVersion program service
      (match program.utils.strToInt (program.utils.str16ToStr8 (args.getD 1 [])) with
        | none => { handled := false, service := service }
        | some capacity =>
            if capacity < CAPACITY_LIMIT_MIN ∨ capacity > CAPACITY_LIMIT_MAX then
              { handled := true, service := service, lines := ["capacity out of range\n"] }
            else
              commanded
                (service.mockCapacity program.build config env.report env.event env.chargeType capacity)
                ("battery capacity " ++ toString capacity ++ " \n"))
  else { handled := false, service := service }

def mockUevent : Handled F :=
  if args.length = UEVENT_DUMP_PARAM_SIZE ∧ args.head? = some (u16 "--uevent") then
    let uevent := program.utils.str16ToStr8 (args.getD 1 [])
    unlessUserVersion program service
      (commanded (service.mockUevent program.build config env.report env.event env.chargeType uevent)
        ("battery uevent " ++ uevent ++ " \n"))
  else { handled := false, service := service }

-- The handlers, one after the other, each on what the one before has left.
def runHandlers : List (BatteryService F → Handled F) → BatteryService F → Handled F
  | [], service => { handled := false, service := service }
  | handler :: rest, service =>
      let first := handler service
      let others := runHandlers rest first.service
      { handled := first.handled || others.handled
        service := others.service
        effects := first.effects ++ others.effects
        lines := first.lines ++ others.lines }

def handlers : List (BatteryService F → Handled F) := [
  getBatteryInfo env args,
  mockUnplugged program config env args,
  mockCapacity program config env args,
  mockUevent program config env args,
  reset program config env args]

def dump : DumpReply F :=
  if ¬env.isBootCompleted then { code := .NoInit, service := service }
  else if ¬env.isSystem then { code := .PermissionDenied, service := service }
  else if args = [] ∨ args.head? = some (u16 "-h") then
    { code := .Ok, service := service, lines := dumpBatteryHelp program.userVersion }
  else
    let total := runHandlers (handlers program config env args) service
    if total.handled then
      { code := .Ok, service := total.service, effects := total.effects, lines := total.lines }
    else
      { code := .NoInit
        service := total.service
        effects := total.effects
        lines := total.lines ++ "cmd param is invalid\n" :: dumpBatteryHelp program.userVersion }

end Handlers

end BatteryManager.Dump
