import BatteryManager.Charger.Provider
import BatteryManager.Light

namespace BatteryManager.Charger

def BACKLIGHT_ON : Nat := 128

-- The handlers that reboot or shut down.
inductive RebootCaller
  | HandleTemperature
  | HandleCapacity
  | HandlePowerKey
  deriving DecidableEq

-- What the charger does to the rest of the system. `caller` is the handler that
-- calls `DoReboot`.
inductive ChargerEffect
  | SetDisplayPowerStatus (powerOn : Bool)
  | SetDisplayBacklight (level : Nat)
  | TurnOffLight (succeeded : Bool)
  | TurnOnLight (red green blue : Nat) (succeeded : Bool)
  | HandleVibration (time : Int)
  | ClearPowerOffChargeFlag
  | DoReboot (caller : RebootCaller) (cmd : String)
  deriving DecidableEq

def ChargerEffect.isReboot : ChargerEffect → Bool
  | .DoReboot _ _ => true
  | _ => false

def ChargerEffect.isLight : ChargerEffect → Bool
  | .TurnOffLight _ => true
  | .TurnOnLight _ _ _ _ => true
  | _ => false

theorem ChargerEffect.isReboot_of_isLight {effect : ChargerEffect} (hlight : effect.isLight = true) :
    effect.isReboot = false := by
  cases effect with
  | DoReboot caller cmd => cases hlight
  | _ => rfl

inductive ScreenState
  | ScreenOff
  | ScreenOn
  deriving DecidableEq

structure BatteryBacklight where
  screenState : ScreenState := .ScreenOff

namespace BatteryBacklight

def turnOnScreen (backlight : BatteryBacklight) : BatteryBacklight × List ChargerEffect :=
  if backlight.screenState ≠ .ScreenOn then
    ({ backlight with screenState := .ScreenOn },
      [.SetDisplayPowerStatus true, .SetDisplayBacklight BACKLIGHT_ON])
  else (backlight, [])

def turnOffScreen (backlight : BatteryBacklight) : BatteryBacklight × List ChargerEffect :=
  if backlight.screenState ≠ .ScreenOff then
    ({ backlight with screenState := .ScreenOff }, [.SetDisplayPowerStatus false])
  else (backlight, [])

@[simp] theorem turnOnScreen_screenState (backlight : BatteryBacklight) :
    backlight.turnOnScreen.1.screenState = .ScreenOn := by
  unfold turnOnScreen
  split
  · rfl
  · rename_i hon
    exact not_not.mp hon

@[simp] theorem turnOffScreen_screenState (backlight : BatteryBacklight) :
    backlight.turnOffScreen.1.screenState = .ScreenOff := by
  unfold turnOffScreen
  split
  · rfl
  · rename_i hoff
    exact not_not.mp hoff

end BatteryBacklight

structure BatteryLed where
  available : Bool := false
  lightColor : UInt32 := 0

namespace BatteryLed

def turnOff (env : LightEnv) (led : BatteryLed) : BatteryLed × List ChargerEffect :=
  if led.available then
    ({ led with lightColor := if env.turnOff then 0 else led.lightColor }, [.TurnOffLight env.turnOff])
  else (led, [])

def turnOn (env : LightEnv) (color : UInt32) (led : BatteryLed) : BatteryLed × List ChargerEffect :=
  if led.available then
    ({ led with lightColor := if env.turnOn then color else led.lightColor },
      [.TurnOnLight ((color >>> 16) &&& 0xFF).toNat ((color >>> 8) &&& 0xFF).toNat
        (color &&& 0xFF).toNat env.turnOn])
  else (led, [])

structure UpdateResult where
  result : Bool
  led : BatteryLed
  effects : List ChargerEffect

def showRange (env : LightEnv) (capacity : Int) (led : BatteryLed) : List LightConf → UpdateResult
  | [] => ⟨false, led, []⟩
  | conf :: rest =>
      if conf.beginSoc ≤ capacity ∧ capacity ≤ conf.endSoc then
        if led.lightColor = conf.rgb then ⟨true, led, []⟩
        else
          let off := led.turnOff env
          let on := off.1.turnOn env conf.rgb
          ⟨true, on.1, off.2 ++ on.2⟩
      else led.showRange env capacity rest

def updateColor (env : LightEnv) (lightConf : List LightConf) (chargeState : BatteryChargeState)
    (capacity : Int) (led : BatteryLed) : UpdateResult :=
  if chargeState = .None ∨ chargeState = .Reserved ∨ !led.available then
    let off := led.turnOff env
    ⟨false, off.1, off.2⟩
  else led.showRange env capacity lightConf

-- The lamp does nothing but light up or go out.
theorem turnOff_lights (env : LightEnv) (led : BatteryLed) :
    ∀ effect ∈ (led.turnOff env).2, effect.isLight = true := by
  unfold turnOff
  split <;> simp [ChargerEffect.isLight]

theorem turnOn_lights (env : LightEnv) (color : UInt32) (led : BatteryLed) :
    ∀ effect ∈ (led.turnOn env color).2, effect.isLight = true := by
  unfold turnOn
  split <;> simp [ChargerEffect.isLight]

theorem showRange_lights (env : LightEnv) (capacity : Int) (led : BatteryLed)
    (lightConf : List LightConf) :
    ∀ effect ∈ (led.showRange env capacity lightConf).effects, effect.isLight = true := by
  induction lightConf with
  | nil => simp [showRange]
  | cons conf rest ih =>
      unfold showRange
      split
      · split
        · simp
        · intro effect heffect
          rcases List.mem_append.mp heffect with hoff | hon
          · exact turnOff_lights env led effect hoff
          · exact turnOn_lights env conf.rgb _ effect hon
      · exact ih

theorem updateColor_lights (env : LightEnv) (lightConf : List LightConf)
    (chargeState : BatteryChargeState) (capacity : Int) (led : BatteryLed) :
    ∀ effect ∈ (led.updateColor env lightConf chargeState capacity).effects,
      effect.isLight = true := by
  unfold updateColor
  split
  · exact turnOff_lights env led
  · exact showRange_lights env capacity led lightConf

-- The lamp never reboots the device.
theorem updateColor_effects (env : LightEnv) (lightConf : List LightConf)
    (chargeState : BatteryChargeState) (capacity : Int) (led : BatteryLed) :
    ∀ effect ∈ (led.updateColor env lightConf chargeState capacity).effects,
      effect.isReboot = false :=
  fun effect heffect =>
    ChargerEffect.isReboot_of_isLight (updateColor_lights env lightConf chargeState capacity led effect heffect)

end BatteryLed

end BatteryManager.Charger
