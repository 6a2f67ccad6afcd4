import BatteryManager.Library.Run
import BatteryManager.Light.Colors

namespace BatteryManager

open Library

-- A colour of three bytes.
def RGB_COLORS : Nat := 16777216

-- What the driver calls make of the lamp. A failed call changes nothing.
def Effect.show (color : Nat) : Effect → Nat
  | .TurnOffLight true => 0
  | .TurnOnLight red green blue true => red * 65536 + green * 256 + blue
  | _ => color

-- The colour of a lamp that was off before the first effect.
def shownColor (log : List Effect) : Nat := log.foldl Effect.show 0

def Effect.driverFailed : Effect → Bool
  | .TurnOffLight succeeded => !succeeded
  | .TurnOnLight _ _ _ succeeded => !succeeded
  | _ => false

-- The three entry points, with the answers of the driver.
inductive LightCall
  | TurnOff (env : LightEnv)
  | TurnOn (env : LightEnv) (color : UInt32)
  | UpdateColor (env : LightEnv) (chargeState : BatteryChargeState) (capacity : Int)

def lightMove (lightConf : List LightConf) (light : BatteryLight) : LightCall → BatteryLight × List Effect
  | .TurnOff env => light.turnOff env
  | .TurnOn env color => light.turnOn env color
  | .UpdateColor env chargeState capacity =>
      let updated := light.updateColor env lightConf chargeState capacity
      (updated.light, updated.effects)

def LightCall.Small : LightCall → Prop
  | .TurnOn _ color => color.toNat < RGB_COLORS
  | _ => True

-- The first range that contains the capacity.
def firstRange (lightConf : List LightConf) (capacity : Int) : Option LightConf :=
  lightConf.find? fun conf => conf.beginSoc ≤ capacity ∧ capacity ≤ conf.endSoc

-- The light is there, and remembers what the lamp shows.
structure InSync (light : BatteryLight) (log : List Effect) : Prop where
  available : light.available = true
  shown : light.lightColor.toNat = shownColor log

theorem shownColor_concat (log : List Effect) (effect : Effect) :
    shownColor (log ++ [effect]) = effect.show (shownColor log) := by
  simp [shownColor]

theorem show_turnOnLight (color : UInt32) (hsmall : color.toNat < RGB_COLORS) (before : Nat) :
    (Effect.TurnOnLight (highByte color) (middleByte color) (lowByte color) true).show before =
      color.toNat :=
  bytes_toNat hsmall

namespace InSync

variable {light : BatteryLight} {log : List Effect} (env : LightEnv)

theorem turnOff (hsync : InSync light log) :
    InSync (light.turnOff env).1 (log ++ (light.turnOff env).2) := by
  rw [BatteryLight.turnOff, if_pos hsync.available]
  refine ⟨hsync.available, ?_⟩
  rw [shownColor_concat]
  cases henv : env.turnOff with
  | true => rfl
  | false => exact hsync.shown

theorem turnOn (hsync : InSync light log) {color : UInt32} (hsmall : color.toNat < RGB_COLORS) :
    InSync (light.turnOn env color).1 (log ++ (light.turnOn env color).2) := by
  rw [BatteryLight.turnOn_effects env color hsync.available, BatteryLight.turnOn,
    if_pos hsync.available]
  refine ⟨hsync.available, ?_⟩
  rw [shownColor_concat]
  cases henv : env.turnOn with
  | true => exact (show_turnOnLight color hsmall _).symm
  | false => exact hsync.shown

-- Off and then on, as `UpdateColor` does it.
theorem change (hsync : InSync light log) {color : UInt32} (hsmall : color.toNat < RGB_COLORS) :
    InSync ((light.turnOff env).1.turnOn env color).1
      (log ++ ((light.turnOff env).2 ++ ((light.turnOff env).1.turnOn env color).2)) := by
  rw [← List.append_assoc]
  exact (hsync.turnOff env).turnOn env hsmall

end InSync

-- The loop over the ranges acts on the first one that contains the capacity.
theorem showRange_none (env : LightEnv) (light : BatteryLight) {lightConf : List LightConf} {capacity : Int}
    (hrange : firstRange lightConf capacity = none) :
    light.showRange env capacity lightConf = ⟨false, light, []⟩ := by
  induction lightConf with
  | nil => rfl
  | cons conf rest ih =>
      unfold firstRange at hrange
      rw [List.find?_cons] at hrange
      split at hrange
      · cases hrange
      · rename_i hoff
        rw [BatteryLight.showRange, if_neg (by simpa using hoff)]
        exact ih hrange

theorem showRange_some (env : LightEnv) (light : BatteryLight) {lightConf : List LightConf} {capacity : Int}
    {conf : LightConf} (hrange : firstRange lightConf capacity = some conf) :
    light.showRange env capacity lightConf =
      if light.lightColor = conf.rgb then ⟨true, light, []⟩
      else ⟨true, ((light.turnOff env).1.turnOn env conf.rgb).1,
        (light.turnOff env).2 ++ ((light.turnOff env).1.turnOn env conf.rgb).2⟩ := by
  induction lightConf with
  | nil => cases hrange
  | cons head rest ih =>
      unfold firstRange at hrange
      rw [List.find?_cons] at hrange
      split at hrange
      · rename_i hon
        cases hrange
        rw [BatteryLight.showRange, if_pos (by simpa using hon)]
      · rename_i hoff
        rw [BatteryLight.showRange, if_neg (by simpa using hoff)]
        exact ih hrange

theorem firstRange_mem {lightConf : List LightConf} {capacity : Int} {conf : LightConf}
    (hrange : firstRange lightConf capacity = some conf) : conf ∈ lightConf :=
  List.mem_of_find?_eq_some hrange

-- The states in which the lamp is turned off.
def TurnsOff (chargeState : BatteryChargeState) : Prop :=
  chargeState = .None ∨ chargeState = .Butt ∨ chargeState = .Disable

instance (chargeState : BatteryChargeState) : Decidable (TurnsOff chargeState) :=
  inferInstanceAs (Decidable (_ ∨ _ ∨ _))

theorem updateColor_off (env : LightEnv) (lightConf : List LightConf) (capacity : Int)
    (light : BatteryLight) {chargeState : BatteryChargeState} (hoff : TurnsOff chargeState) :
    light.updateColor env lightConf chargeState capacity =
      ⟨false, (light.turnOff env).1, (light.turnOff env).2⟩ := by
  unfold BatteryLight.updateColor
  exact if_pos hoff

theorem updateColor_on (env : LightEnv) (lightConf : List LightConf) (capacity : Int)
    {light : BatteryLight} (havailable : light.available = true) {chargeState : BatteryChargeState}
    (hon : ¬TurnsOff chargeState) :
    light.updateColor env lightConf chargeState capacity = light.showRange env capacity lightConf := by
  unfold BatteryLight.updateColor
  exact (if_neg hon).trans (if_pos havailable)

theorem updateColor_turnsOff {light : BatteryLight} {log : List Effect} (hsync : InSync light log)
    (env : LightEnv) (lightConf : List LightConf) (capacity : Int) {chargeState : BatteryChargeState}
    (hoff : TurnsOff chargeState)
    (hdriver : ∀ effect ∈ (light.updateColor env lightConf chargeState capacity).effects,
      effect.driverFailed = false) :
    shownColor (log ++ (light.updateColor env lightConf chargeState capacity).effects) = 0 := by
  have hafter := (hsync.turnOff env).shown
  have hturned : light.turnOff env = ({ light with
      lightColor := if env.turnOff then 0 else light.lightColor }, [.TurnOffLight env.turnOff]) := by
    rw [BatteryLight.turnOff, if_pos hsync.available]
  rw [updateColor_off env lightConf capacity light hoff] at hdriver ⊢
  rw [hturned] at hdriver hafter ⊢
  have hdriven : env.turnOff = true := by
    simpa [Effect.driverFailed] using hdriver _ (List.mem_singleton.mpr rfl)
  rw [← hafter]
  simp [hdriven]

section Run

variable {lightConf : List LightConf} (hsmall : ∀ conf ∈ lightConf, conf.rgb.toNat < RGB_COLORS)
  {light : BatteryLight} {log : List Effect} (env : LightEnv) (chargeState : BatteryChargeState)
  (capacity : Int)

include hsmall

theorem InSync.updateColor (hsync : InSync light log) :
    InSync (light.updateColor env lightConf chargeState capacity).light
      (log ++ (light.updateColor env lightConf chargeState capacity).effects) := by
  by_cases hoff : TurnsOff chargeState
  · rw [updateColor_off env lightConf capacity light hoff]
    exact hsync.turnOff env
  · rw [updateColor_on env lightConf capacity hsync.available hoff]
    cases hrange : firstRange lightConf capacity with
    | none =>
        rw [showRange_none env light hrange, List.append_nil]
        exact hsync
    | some conf =>
        rw [showRange_some env light hrange]
        split
        · rw [List.append_nil]
          exact hsync
        · exact hsync.change env (hsmall conf (firstRange_mem hrange))

-- With a range for the capacity and a driver that does what it is asked, the
-- lamp ends up in the colour of the range.
theorem updateColor_shows (hsync : InSync light log)
    (hresult : (light.updateColor env lightConf chargeState capacity).result = true)
    (hdriver : ∀ effect ∈ (light.updateColor env lightConf chargeState capacity).effects,
      effect.driverFailed = false) :
    ∃ conf, firstRange lightConf capacity = some conf ∧
      shownColor (log ++ (light.updateColor env lightConf chargeState capacity).effects) =
        conf.rgb.toNat := by
  have hafter := hsync.updateColor hsmall env chargeState capacity
  by_cases hoff : TurnsOff chargeState
  · rw [updateColor_off env lightConf capacity light hoff] at hresult
    cases hresult
  · rw [updateColor_on env lightConf capacity hsync.available hoff] at hresult hdriver hafter ⊢
    cases hrange : firstRange lightConf capacity with
    | none =>
        rw [showRange_none env light hrange] at hresult
        cases hresult
    | some conf =>
        refine ⟨conf, rfl, ?_⟩
        rw [← hafter.shown]
        rw [showRange_some env light hrange] at hdriver ⊢
        split
        · rename_i hsame
          rw [← hsame]
        · rename_i hdifferent
          rw [if_neg hdifferent] at hdriver
          have havailable := (hsync.turnOff env).available
          have honly := BatteryLight.turnOn_effects env conf.rgb havailable
          have hon := hdriver (.TurnOnLight (highByte conf.rgb) (middleByte conf.rgb) (lowByte conf.rgb)
            env.turnOn) (by simp [honly])
          have hdriven : env.turnOn = true := by simpa [Effect.driverFailed] using hon
          simp [BatteryLight.turnOn, havailable, hdriven]

theorem inSync_run {history : List LightCall}
    (hrun : Run (fun light call => some (lightMove lightConf light call)) { available := true }
      history light log) (hcalls : ∀ call ∈ history, call.Small) : InSync light log := by
  refine hrun.total_invariant
    (fun past light log => (∀ call ∈ past, call.Small) → InSync light log) (fun _ => ⟨rfl, rfl⟩) ?_ hcalls
  intro past light log call ih hpast
  have hsync := ih fun earlier hearlier => hpast earlier (by simp [hearlier])
  cases call with
  | TurnOff env => exact hsync.turnOff env
  | TurnOn env color => exact hsync.turnOn env (hpast (.TurnOn env color) (by simp))
  | UpdateColor env chargeState capacity => exact hsync.updateColor hsmall env chargeState capacity

end Run

-- The light that `UpdateColor` remembers is the one that the lamp shows, whichever
-- of the driver calls have failed.
theorem lightColor_shown {lightConf : List LightConf}
    (hsmall : ∀ conf ∈ lightConf, conf.rgb.toNat < RGB_COLORS) {history : List LightCall}
    {light : BatteryLight} {log : List Effect}
    (hrun : Run (fun light call => some (lightMove lightConf light call)) { available := true }
      history light log) (hcalls : ∀ call ∈ history, call.Small) :
    light.lightColor.toNat = shownColor log ∧
    ∀ env chargeState capacity,
      let updated := light.updateColor env lightConf chargeState capacity
      (∀ effect ∈ updated.effects, effect.driverFailed = false) →
        (updated.result = true → ∃ conf, firstRange lightConf capacity = some conf ∧
          shownColor (log ++ updated.effects) = conf.rgb.toNat) ∧
        (chargeState = .None ∨ chargeState = .Disable ∨ chargeState = .Butt →
          shownColor (log ++ updated.effects) = 0) := by
  have hsync := inSync_run hsmall hrun hcalls
  refine ⟨hsync.shown, ?_⟩
  intro env chargeState capacity updated hdriver
  refine ⟨fun hresult => ?_, fun hoff => ?_⟩
  · exact updateColor_shows hsmall env chargeState capacity hsync hresult hdriver
  · have hturns : TurnsOff chargeState := by
      unfold TurnsOff
      tauto
    exact updateColor_turnsOff hsync env lightConf capacity hturns hdriver

-- The lamp cannot be turned off, and then the other colour is shown after all.
theorem lightColor_shown_failure :
    let lightConf : List LightConf := [⟨0, 10, 16711680⟩, ⟨11, 100, 65280⟩]
    let history : List LightCall :=
      [.UpdateColor ⟨true, true⟩ .Enable 5, .UpdateColor ⟨false, false⟩ .Enable 50]
    ∃ light log, Run (fun light call => some (lightMove lightConf light call)) { available := true }
      history light log ∧ light.lightColor.toNat = 16711680 ∧ shownColor log = 16711680 := by
  intro lightConf history
  have hrun := exec_run (fun light call => some (lightMove lightConf light call)) { available := true }
    history rfl
  have hsmall : ∀ conf ∈ lightConf, conf.rgb.toNat < RGB_COLORS := by
    simp [lightConf, RGB_COLORS]
  have hcalls : ∀ call ∈ history, call.Small := by simp [history, LightCall.Small]
  have hshown := (lightColor_shown hsmall hrun hcalls).1
  exact ⟨_, _, hrun, rfl, hshown.symm.trans rfl⟩

end BatteryManager
