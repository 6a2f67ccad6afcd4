import BatteryManager.ConfigParser.Theorems
import BatteryManager.Library.Bytes
import BatteryManager.Light

namespace BatteryManager

open Library

@[simp] theorem BatteryLight.turnOn_effects (env : LightEnv) (color : UInt32) {light : BatteryLight}
    (havailable : light.available = true) :
    (light.turnOn env color).2 =
      [.TurnOnLight (highByte color) (middleByte color) (lowByte color) env.turnOn] := by
  rw [BatteryLight.turnOn, if_pos havailable]
  rfl

-- An available light is asked for exactly the three components.
def SendsColor (color : UInt32) (red green blue : Int) : Prop :=
  ∀ (env : LightEnv) (light : BatteryLight), light.available = true →
    ∃ r g b : Nat, (light.turnOn env color).2 = [.TurnOnLight r g b env.turnOn] ∧
      (r : Int) = red ∧ (g : Int) = green ∧ (b : Int) = blue

def IsByte (value : Int) : Prop := 0 ≤ value ∧ value ≤ 255

theorem sendsColor_iff (color : UInt32) (red green blue : Int) :
    SendsColor color red green blue ↔
      (highByte color : Int) = red ∧ (middleByte color : Int) = green ∧ (lowByte color : Int) = blue := by
  constructor
  · intro hsends
    obtain ⟨r, g, b, heffects, hcolor⟩ := hsends ⟨true, true⟩ { available := true } rfl
    rw [BatteryLight.turnOn_effects _ _ rfl] at heffects
    cases heffects
    exact hcolor
  · intro hbytes env light havailable
    exact ⟨_, _, _, BatteryLight.turnOn_effects env color havailable, hbytes⟩

theorem parseLightConf_rgb {split : SplitStr} {config : Option CJson} {level : String}
    {conf : LightConf} {red green blue : Int} (hparse : parseLightConf split config level = some conf)
    (hrgb : CJson.array? (getValue split config ("light." ++ level ++ ".rgb")) =
      some [.Number red, .Number green, .Number blue]) :
    conf.rgb = packBytes (UInt32.ofInt red) (UInt32.ofInt green) (UInt32.ofInt blue) := by
  unfold parseLightConf at hparse
  rw [hrgb] at hparse
  obtain ⟨soc, -, hparse⟩ := Option.bind_eq_some_iff.mp hparse
  simp only [Option.bind_eq_bind, Option.bind_some] at hparse
  split at hparse
  · rename_i hcolors
    cases hcolors
    obtain ⟨beginSoc, -, hparse⟩ := Option.bind_eq_some_iff.mp hparse
    obtain ⟨endSoc, -, hparse⟩ := Option.bind_eq_some_iff.mp hparse
    cases hparse
    rfl
  · cases hparse

-- The components are packed without being looked at, and unpacked as bytes.
theorem parseLightConf_sendsColor_iff {split : SplitStr} {config : Option CJson} {level : String}
    {conf : LightConf} {red green blue : Int} (hparse : parseLightConf split config level = some conf)
    (hrgb : CJson.array? (getValue split config ("light." ++ level ++ ".rgb")) =
      some [.Number red, .Number green, .Number blue]) :
    SendsColor conf.rgb red green blue ↔ IsByte red ∧ IsByte green ∧ IsByte blue := by
  rw [sendsColor_iff, parseLightConf_rgb hparse hrgb]
  constructor
  · rintro ⟨hred, hgreen, hblue⟩
    have hhigh := highByte_lt (packBytes (UInt32.ofInt red) (UInt32.ofInt green) (UInt32.ofInt blue))
    have hmiddle := middleByte_lt (packBytes (UInt32.ofInt red) (UInt32.ofInt green) (UInt32.ofInt blue))
    have hlow := lowByte_lt (packBytes (UInt32.ofInt red) (UInt32.ofInt green) (UInt32.ofInt blue))
    unfold IsByte
    omega
  · rintro ⟨⟨hredLow, hredHigh⟩, ⟨hgreenLow, hgreenHigh⟩, hblueLow, hblueHigh⟩
    have hred := toNat_ofInt_byte hredLow hredHigh
    have hgreen := toNat_ofInt_byte hgreenLow hgreenHigh
    have hblue := toNat_ofInt_byte hblueLow hblueHigh
    obtain ⟨hhigh, hmiddle, hlow⟩ := unpackBytes (show (UInt32.ofInt red).toNat < 256 by omega)
      (show (UInt32.ofInt green).toNat < 256 by omega) (show (UInt32.ofInt blue).toNat < 256 by omega)
    rw [hhigh, hmiddle, hlow]
    exact ⟨hred, hgreen, hblue⟩

def lowLight (rgb : List CJson) : CJson :=
  .Object [("light", .Object [("low", .Object [("soc", .Array [.Number 0, .Number 10]), ("rgb", .Array rgb)])])]

theorem parseLightConf_sendsColor_iff_red :
    ∃ conf, parseLightConf dotSplit (some (lowLight [.Number 255, .Number 0, .Number 0])) "low" = some conf ∧
      SendsColor conf.rgb 255 0 0 := by
  have hparse : parseLightConf dotSplit (some (lowLight [.Number 255, .Number 0, .Number 0])) "low" =
      some ⟨0, 10, 16711680⟩ := rfl
  refine ⟨_, hparse, (parseLightConf_sendsColor_iff hparse ?_).mpr ?_⟩
  · rfl
  · simp [IsByte]

-- A green component of 256 is sent as a red one of 1.
theorem not_sendsColor_green :
    ¬∀ (split : SplitStr) (config : Option CJson) (level : String) (conf : LightConf) (red green blue : Int),
      parseLightConf split config level = some conf →
      CJson.array? (getValue split config ("light." ++ level ++ ".rgb")) =
        some [.Number red, .Number green, .Number blue] →
      SendsColor conf.rgb red green blue := by
  intro hsends
  have hgreen := hsends dotSplit (some (lowLight [.Number 0, .Number 256, .Number 0])) "low" ⟨0, 10, 65536⟩
    0 256 0 rfl rfl
  have hred := ((sendsColor_iff _ _ _ _).mp hgreen).1
  revert hred
  decide

end BatteryManager
