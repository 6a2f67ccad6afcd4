import BatteryManager.Charger.Devices
import BatteryManager.Light.Theorems

namespace BatteryManager.Charger

open Library

def BatteryChargeState.code : BatteryChargeState → Nat
  | None => 0
  | Enable => 1
  | Disable => 2
  | Full => 3
  | Reserved => 4

-- The state of the service that has the same number.
def BatteryChargeState.toService (chargeState : BatteryChargeState) : BatteryManager.BatteryChargeState :=
  .ofCode chargeState.code

structure LightReport where
  chargeState : BatteryChargeState
  capacity : Int

-- A driver that does what it is asked.
def workingDriver : LightEnv where
  turnOff := true
  turnOn := true

variable (lightConf : List LightConf)

-- The result of `UpdateColor` and the colour that it leaves, in the service and
-- in the charger.
def serviceLight (color : UInt32) (report : LightReport) : Bool × UInt32 :=
  let updated := BatteryLight.updateColor workingDriver lightConf report.chargeState.toService
    report.capacity { available := true, lightColor := color }
  (updated.result, updated.light.lightColor)

def chargerLed (color : UInt32) (report : LightReport) : Bool × UInt32 :=
  let updated := BatteryLed.updateColor workingDriver lightConf report.chargeState report.capacity
    { available := true, lightColor := color }
  (updated.result, updated.led.lightColor)

-- The results and colours of a sequence of reports.
def lightTrace (update : UInt32 → LightReport → Bool × UInt32) : UInt32 → List LightReport →
    List (Bool × UInt32)
  | _, [] => []
  | color, report :: rest => update color report :: lightTrace update (update color report).2 rest

-- A disabled charging with no range to show, while the lamp is off, or any other
-- charge state.
def IndifferentToDisable (color : UInt32) (report : LightReport) : Prop :=
  report.chargeState = .Disable → firstRange lightConf report.capacity = none ∧ color = 0

-- The same at every report of a sequence, with the colour that it finds.
def AllIndifferent : UInt32 → List LightReport → Prop
  | _, [] => True
  | color, report :: rest =>
      IndifferentToDisable lightConf color report ∧
        AllIndifferent (serviceLight lightConf color report).2 rest

-- What a lamp makes of a capacity, whoever drives it.
def rangeLight (color : UInt32) (capacity : Int) : Bool × UInt32 :=
  match firstRange lightConf capacity with
  | some conf => (true, conf.rgb)
  | none => (false, color)

section UpdateColor

variable (color : UInt32) (capacity : Int) {chargeState : BatteryChargeState}

theorem serviceLight_off (hoff : TurnsOff chargeState.toService) :
    serviceLight lightConf color ⟨chargeState, capacity⟩ = (false, 0) := by
  unfold serviceLight
  rw [updateColor_off _ _ _ _ hoff]
  rfl

theorem serviceLight_on (hon : ¬TurnsOff chargeState.toService) :
    serviceLight lightConf color ⟨chargeState, capacity⟩ = rangeLight lightConf color capacity := by
  unfold serviceLight rangeLight
  rw [updateColor_on _ _ _ rfl hon]
  cases hrange : firstRange lightConf capacity with
  | none => rw [showRange_none _ _ hrange]
  | some conf =>
      rw [showRange_some _ _ hrange]
      dsimp only
      split
      · rename_i hsame
        rw [← hsame]
      · rfl

theorem chargerLed_off (hoff : chargeState = .None ∨ chargeState = .Reserved) :
    chargerLed lightConf color ⟨chargeState, capacity⟩ = (false, 0) := by
  unfold chargerLed BatteryLed.updateColor
  rcases hoff with rfl | rfl <;> rfl

theorem ledShowRange :
    let shown := BatteryLed.showRange workingDriver capacity { available := true, lightColor := color }
      lightConf
    (shown.result, shown.led.lightColor) = rangeLight lightConf color capacity := by
  induction lightConf with
  | nil => rfl
  | cons conf rest ih =>
      unfold BatteryLed.showRange rangeLight firstRange
      rw [List.find?_cons]
      by_cases hin : conf.beginSoc ≤ capacity ∧ capacity ≤ conf.endSoc
      · rw [if_pos hin, decide_eq_true hin]
        dsimp only
        split
        · rename_i hsame
          rw [← hsame]
        · rfl
      · rw [if_neg hin, decide_eq_false hin]
        exact ih

theorem chargerLed_on (hon : ¬(chargeState = .None ∨ chargeState = .Reserved)) :
    chargerLed lightConf color ⟨chargeState, capacity⟩ = rangeLight lightConf color capacity := by
  have htest : ¬(chargeState = .None ∨ chargeState = .Reserved ∨ (!true) = true) := by
    simpa using hon
  unfold chargerLed BatteryLed.updateColor
  rw [if_neg htest]
  exact ledShowRange lightConf color capacity

end UpdateColor

theorem rangeLight_eq_off (color : UInt32) (capacity : Int) :
    (false, 0) = rangeLight lightConf color capacity ↔ firstRange lightConf capacity = none ∧ color = 0 := by
  unfold rangeLight
  cases firstRange lightConf capacity with
  | none => simp [eq_comm]
  | some conf => simp

-- The two copies differ in the state in which charging is disabled: the service
-- turns its lamp off, and the charger shows the range of the capacity.
theorem serviceLight_eq_iff (color : UInt32) (report : LightReport) :
    serviceLight lightConf color report = chargerLed lightConf color report ↔
      IndifferentToDisable lightConf color report := by
  obtain ⟨chargeState, capacity⟩ := report
  cases chargeState with
  | None =>
      refine iff_of_true ?_ fun hdisable => by cases hdisable
      rw [serviceLight_off _ _ _ (.inl rfl), chargerLed_off _ _ _ (.inl rfl)]
  | Enable =>
      refine iff_of_true ?_ fun hdisable => by cases hdisable
      rw [serviceLight_on _ _ _ (by decide), chargerLed_on _ _ _ (by decide)]
  | Disable =>
      rw [serviceLight_off _ _ _ (.inr (.inr rfl)), chargerLed_on _ _ _ (by decide), rangeLight_eq_off]
      exact ⟨fun hoff _ => hoff, fun hindifferent => hindifferent rfl⟩
  | Full =>
      refine iff_of_true ?_ fun hdisable => by cases hdisable
      rw [serviceLight_on _ _ _ (by decide), chargerLed_on _ _ _ (by decide)]
  | Reserved =>
      refine iff_of_true ?_ fun hdisable => by cases hdisable
      rw [serviceLight_off _ _ _ (.inr (.inl rfl)), chargerLed_off _ _ _ (.inr rfl)]

theorem lightTrace_eq_iff (color : UInt32) (reports : List LightReport) :
    lightTrace (serviceLight lightConf) color reports = lightTrace (chargerLed lightConf) color reports ↔
      AllIndifferent lightConf color reports := by
  induction reports generalizing color with
  | nil => exact iff_of_true rfl trivial
  | cons report rest ih =>
      unfold lightTrace AllIndifferent
      rw [List.cons_eq_cons, serviceLight_eq_iff, ← ih]
      refine and_congr_right fun hindifferent => ?_
      rw [(serviceLight_eq_iff lightConf color report).mpr hindifferent]

theorem lightPolicy_iff :
    (∀ color report, serviceLight lightConf color report = chargerLed lightConf color report ↔
      IndifferentToDisable lightConf color report) ∧
    ∀ color reports, lightTrace (serviceLight lightConf) color reports =
      lightTrace (chargerLed lightConf) color reports ↔ AllIndifferent lightConf color reports :=
  ⟨serviceLight_eq_iff lightConf, lightTrace_eq_iff lightConf⟩

-- Charging is disabled at a capacity that has a colour.
theorem not_lightPolicy_disable :
    ¬∀ (lightConf : List LightConf) (color : UInt32) (report : LightReport),
      serviceLight lightConf color report = chargerLed lightConf color report := by
  intro hsame
  have hdisable := hsame [⟨0, 10, 16711680⟩] 0 ⟨.Disable, 5⟩
  revert hdisable
  decide

end BatteryManager.Charger
