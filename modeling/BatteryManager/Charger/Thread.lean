import BatteryManager.Charger.Animation
import BatteryManager.Charger.Devices
import BatteryManager.Library.Run

namespace BatteryManager.Charger

open Library

def SEC_TO_MSEC : Int := 1000
def REBOOT_TIME : Int := 2000
def BACKLIGHT_OFF_TIME_MS : Int := 10000
def VIBRATE_TIME_MS : Int := 75
def TIMER_FAST_SEC : Int := 2
def REBOOT_CMD : String := ""
def SHUTDOWN_CMD : String := "shutdown"
def INVALID : Int := -1
def KEY_POWER : Nat := 116
def KEY_MAX : Nat := 767

structure KeyState where
  isUp : Bool := false
  isDown : Bool := false
  timestamp : Int := 0

-- The thread with its static members and the keys. Times are in milliseconds.
structure ChargerThread where
  keyWait : Int := INVALID
  backlightWait : Int := INVALID
  capacity : Int := INVALID
  chargeState : BatteryChargeState := .Reserved
  started : Bool := false
  isChargeStateChanged : Bool := false
  lackPowerCapacity : Int := -1
  epollInterval : Int := -1
  backlight : BatteryBacklight := {}
  led : BatteryLed := {}
  animation : ChargerAnimation := {}
  keys : Nat → KeyState := fun _ => {}
  turnOnByKeydown : Bool := false

-- The files that one update reads, and the answers of the light.
structure UpdateEnv where
  temperature : SysfsFile
  capacity : SysfsFile
  chargeState : SysfsFile
  light : LightEnv

namespace ChargerThread

-- The thread after `Init`. `available` tells whether the battery light is there.
def init (config : BatteryConfig) (available : Bool) (env : LightEnv) :
    ChargerThread × List ChargerEffect :=
  let backlight := BatteryBacklight.turnOnScreen {}
  let led := BatteryLed.turnOff env { available := available }
  ({ lackPowerCapacity := config.getInt "soc.shutdown" 0, backlight := backlight.1, led := led.1 },
    backlight.2 ++ led.2)

def setKeyState (code : Nat) (value now : Int) (thread : ChargerThread) : ChargerThread :=
  let isDown : Bool := value ≠ 0
  let key := thread.keys code
  if code > KEY_MAX then thread
  else if key.isDown = isDown then thread
  else
    let pressed : KeyState := {
      isUp := true
      isDown := isDown
      timestamp := if isDown then now else key.timestamp }
    { thread with keys := fun other => if other = code then pressed else thread.keys other }

def updateEpollInterval (chargeState : BatteryChargeState) (thread : ChargerThread) : ChargerThread :=
  if chargeState ≠ .None ∧ chargeState ≠ .Reserved then
    { thread with epollInterval := TIMER_FAST_SEC * SEC_TO_MSEC }
  else { thread with epollInterval := -1 }

def handleTemperature (config : BatteryConfig) (temperature : Int) : List ChargerEffect :=
  let highTemp := config.getInt "temperature.high" INT32_MAX
  let lowTemp := config.getInt "temperature.low" INT32_MIN
  if (temperature ≤ lowTemp ∨ temperature ≥ highTemp) ∧ lowTemp ≠ highTemp then
    [.DoReboot .HandleTemperature SHUTDOWN_CMD]
  else []

def handleCapacity (thread : ChargerThread) (capacity : Int) : List ChargerEffect :=
  if capacity > thread.lackPowerCapacity ∧
      (thread.chargeState = .Disable ∨ thread.chargeState = .None) then
    [.DoReboot .HandleCapacity SHUTDOWN_CMD]
  else []

-- The results of the three parsers are not looked at.
def readBatteryInfo (env : UpdateEnv) (thread : ChargerThread) : ChargerThread :=
  let chargeState := (parseChargeState env.chargeState thread.chargeState).2
  { thread with
    capacity := (parseCapacity env.capacity thread.capacity).2
    chargeState := chargeState
    isChargeStateChanged := chargeState ≠ thread.chargeState }

def updateAnimation (thread : ChargerThread) : ChargerThread :=
  { thread with
    animation := Charger.updateAnimation thread.lackPowerCapacity thread.chargeState thread.capacity
      thread.animation }

def updateBatteryInfo (config : BatteryConfig) (env : UpdateEnv) (thread : ChargerThread) :
    ChargerThread × List ChargerEffect :=
  let temperature := (parseTemperature env.temperature 0).2
  let read := thread.readBatteryInfo env
  let lit := read.led.updateColor env.light config.lightConf read.chargeState read.capacity
  let shown := { read with led := lit.led }
  (if read.backlight.screenState = .ScreenOn then shown.updateAnimation else shown,
    handleTemperature config temperature ++ read.handleCapacity read.capacity ++ lit.effects)

def cycleMatters (config : BatteryConfig) (now : Int) (env : UpdateEnv) (thread : ChargerThread) :
    ChargerThread × List ChargerEffect :=
  let started :=
    if thread.started then thread else { thread with started := true, backlightWait := now - 1 }
  let updated := started.updateBatteryInfo config env
  (updated.1.updateEpollInterval updated.1.chargeState, updated.2)

def setKeyWait (key : KeyState) (timeout : Int) (thread : ChargerThread) : ChargerThread :=
  let nextMoment := key.timestamp + timeout
  if thread.keyWait = INVALID ∨ nextMoment < thread.keyWait then { thread with keyWait := nextMoment }
  else thread

def handleChargingState (now : Int) (thread : ChargerThread) : ChargerThread × List ChargerEffect :=
  if thread.chargeState = .None ∨ thread.chargeState = .Reserved then (thread, [])
  else if thread.isChargeStateChanged then
    let on := thread.backlight.turnOnScreen
    let lit := { thread with
      backlight := on.1, backlightWait := now - 1, isChargeStateChanged := false }
    (lit.updateAnimation, on.2)
  else (thread, [])

def handleScreenState (now : Int) (thread : ChargerThread) : ChargerThread × List ChargerEffect :=
  if thread.backlightWait ≠ INVALID ∧ now > thread.backlightWait + BACKLIGHT_OFF_TIME_MS then
    let off := thread.backlight.turnOffScreen
    ({ thread with
      backlight := off.1, animation := thread.animation.stopAll, backlightWait := INVALID }, off.2)
  else (thread, [])

def handlePowerKey (keycode : Nat) (now : Int) (thread : ChargerThread) :
    ChargerThread × List ChargerEffect :=
  if keycode = KEY_POWER then
    let key := thread.keys keycode
    if key.isDown then
      let rebootTime := key.timestamp + REBOOT_TIME
      if now ≥ rebootTime then
        let off := thread.backlight.turnOffScreen
        ({ thread with backlight := off.1 }, off.2 ++
          [.HandleVibration VIBRATE_TIME_MS, .ClearPowerOffChargeFlag,
            .DoReboot .HandlePowerKey REBOOT_CMD])
      else if thread.backlight.screenState = .ScreenOff then
        let on := thread.backlight.turnOnScreen
        let lit := { thread.setKeyWait key REBOOT_TIME with
          backlight := on.1, backlightWait := now - 1, turnOnByKeydown := true }
        (lit.updateAnimation, on.2)
      else (thread, [])
    else if key.isUp then
      let released := { thread with
        keys := fun other => if other = keycode then { key with isUp := false } else thread.keys other
        turnOnByKeydown := false }
      if thread.backlight.screenState = .ScreenOn ∧ !thread.turnOnByKeydown then
        let off := thread.backlight.turnOffScreen
        ({ released with
          backlight := off.1, animation := thread.animation.stopAll, backlightWait := INVALID }, off.2)
      else
        let on := thread.backlight.turnOnScreen
        let lit := { released with backlight := on.1, backlightWait := now - 1 }
        (lit.updateAnimation, on.2)
    else (thread, [])
  else (thread, [])

def handlePowerKeyState (now : Int) (thread : ChargerThread) : ChargerThread × List ChargerEffect :=
  let handled := thread.handlePowerKey KEY_POWER now
  (if handled.1.keyWait ≠ INVALID ∧ now > handled.1.keyWait then
      { handled.1 with keyWait := INVALID }
    else handled.1, handled.2)

end ChargerThread

-- The calls of the loop, of the uevent callback and of the input monitor, each
-- executed as a whole. The loop makes them in one order, uevents and keys come
-- at any time.
inductive ChargerCall
  | CycleMatters (now : Int) (env : UpdateEnv)
  | UpdateBatteryInfo (env : UpdateEnv)
  | HandleChargingState (now : Int)
  | HandlePowerKeyState (now : Int)
  | HandlePowerKey (keycode : Nat) (now : Int)
  | HandleScreenState (now : Int)
  | SetKeyState (code : Nat) (value now : Int)

def ChargerCall.execute (config : BatteryConfig) (thread : ChargerThread) :
    ChargerCall → ChargerThread × List ChargerEffect
  | .CycleMatters now env => thread.cycleMatters config now env
  | .UpdateBatteryInfo env => thread.updateBatteryInfo config env
  | .HandleChargingState now => thread.handleChargingState now
  | .HandlePowerKeyState now => thread.handlePowerKeyState now
  | .HandlePowerKey keycode now => thread.handlePowerKey keycode now
  | .HandleScreenState now => thread.handleScreenState now
  | .SetKeyState code value now => (thread.setKeyState code value now, [])

def chargerStep (config : BatteryConfig) (thread : ChargerThread) (call : ChargerCall) :
    Option (ChargerThread × List ChargerEffect) :=
  some (call.execute config thread)

abbrev ChargerRun (config : BatteryConfig) (available : Bool) (env : LightEnv) :
    List ChargerCall → ChargerThread → List ChargerEffect → Prop :=
  Run (chargerStep config) (ChargerThread.init config available env).1

end BatteryManager.Charger
