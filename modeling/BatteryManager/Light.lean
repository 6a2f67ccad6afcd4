import BatteryManager.Config
import BatteryManager.Effect

namespace BatteryManager

structure BatteryLight where
  available : Bool := false
  lightColor : UInt32 := 0

-- Whether the driver accepts the two calls that one `updateColor` can make.
structure LightEnv where
  turnOff : Bool
  turnOn : Bool

def BatteryLight.turnOff (env : LightEnv) (light : BatteryLight) : BatteryLight × List Effect :=
  if light.available then
    ({ light with lightColor := if env.turnOff then 0 else light.lightColor },
      [.TurnOffLight env.turnOff])
  else (light, [])

def BatteryLight.turnOn (env : LightEnv) (color : UInt32) (light : BatteryLight) :
    BatteryLight × List Effect :=
  if light.available then
    ({ light with lightColor := if env.turnOn then color else light.lightColor },
      [.TurnOnLight ((color >>> 16) &&& 0xFF).toNat ((color >>> 8) &&& 0xFF).toNat
        (color &&& 0xFF).toNat env.turnOn])
  else (light, [])

structure LightResult where
  result : Bool
  light : BatteryLight
  effects : List Effect

-- The loop over the configured ranges stops at the first one that matches.
def BatteryLight.showRange (env : LightEnv) (capacity : Int) (light : BatteryLight) :
    List LightConf → LightResult
  | [] => ⟨false, light, []⟩
  | conf :: rest =>
      if conf.beginSoc ≤ capacity ∧ capacity ≤ conf.endSoc then
        if light.lightColor = conf.rgb then ⟨true, light, []⟩
        else
          let off := light.turnOff env
          let on := off.1.turnOn env conf.rgb
          ⟨true, on.1, off.2 ++ on.2⟩
      else light.showRange env capacity rest

def BatteryLight.updateColor (env : LightEnv) (lightConf : List LightConf)
    (chargeState : BatteryChargeState) (capacity : Int) (light : BatteryLight) : LightResult :=
  if chargeState = .None ∨ chargeState = .Butt ∨ chargeState = .Disable then
    let off := light.turnOff env
    ⟨false, off.1, off.2⟩
  else if light.available then light.showRange env capacity lightConf
  else ⟨false, light, []⟩

end BatteryManager
