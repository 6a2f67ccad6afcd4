import BatteryManager.CapacityLevel
import BatteryManager.Library.Bands
import Mathlib.Data.Int.Order.Basic

namespace BatteryManager

open Library

namespace CapacityThresholds

-- The thresholds in the order of the table, each with its level.
def levels (thresholds : CapacityThresholds) : List (Int × BatteryCapacityLevel) := [
  (thresholds.shutdown, .Shutdown),
  (thresholds.critical, .Critical),
  (thresholds.warning, .Warning),
  (thresholds.low, .Low),
  (thresholds.normal, .Normal),
  (thresholds.high, .High),
  (thresholds.full, .Full)]

-- Any of the thresholds may be undefined. The others are positive and go up.
structure WellOrdered (thresholds : CapacityThresholds) : Prop where
  positive : ∀ entry ∈ thresholds.levels, isCapacityLevelDefined entry.1 = true → 0 < entry.1
  increasing : thresholds.levels.Pairwise fun lower upper =>
    isCapacityLevelDefined lower.1 = true → isCapacityLevelDefined upper.1 = true → lower.1 < upper.1

-- `entry` is the smallest defined threshold that is not below `capacity`.
def IsSmallest (thresholds : CapacityThresholds) (capacity : Int)
    (entry : Int × BatteryCapacityLevel) : Prop :=
  entry ∈ thresholds.levels ∧ isCapacityLevelDefined entry.1 = true ∧ capacity ≤ entry.1 ∧
    ∀ other ∈ thresholds.levels, isCapacityLevelDefined other.1 = true → capacity ≤ other.1 →
      entry.1 ≤ other.1

theorem WellOrdered.ascending {thresholds : CapacityThresholds} (hordered : thresholds.WellOrdered) :
    Ascending INVALID_BATT_INT_VALUE thresholds.levels := by
  refine hordered.increasing.imp ?_
  intro lower upper hlt hlower hupper
  exact hlt (by simpa [isCapacityLevelDefined] using hlower)
    (by simpa [isCapacityLevelDefined] using hupper)

theorem isSmallest_iff (thresholds : CapacityThresholds) (capacity : Int)
    (entry : Int × BatteryCapacityLevel) :
    thresholds.IsSmallest capacity entry ↔
      LeastCover INVALID_BATT_INT_VALUE capacity thresholds.levels entry := by
  simp [IsSmallest, LeastCover, Covers, isCapacityLevelDefined, and_assoc]

theorem levels_ne_none (thresholds : CapacityThresholds) :
    ∀ entry ∈ thresholds.levels, entry.2 ≠ .None := by
  simp [levels]

-- The codes go down from the shutdown level to the full one.
theorem levels_code (thresholds : CapacityThresholds) :
    thresholds.levels.Pairwise fun lower upper => upper.2.code ≤ lower.2.code := by
  simp [levels, BatteryCapacityLevel.code]

end CapacityThresholds

theorem getCapacityLevelInner_eq_band (thresholds : CapacityThresholds) (capacity : Int) :
    getCapacityLevelInner thresholds capacity =
      band INVALID_BATT_INT_VALUE capacity .None INVALID_BATT_INT_VALUE thresholds.levels := by
  simp [getCapacityLevelInner, capacityLevelCompare, isCapacityLevelDefined, band,
    CapacityThresholds.levels, and_assoc]

theorem getCapacityLevelInner_eq_find (thresholds : CapacityThresholds) {capacity : Int}
    (hcapacity : 0 ≤ capacity) :
    getCapacityLevelInner thresholds capacity =
      ((thresholds.levels.find? fun entry =>
        Covers INVALID_BATT_INT_VALUE capacity entry).map Prod.snd).getD .None := by
  have hinvalid : INVALID_BATT_INT_VALUE < capacity := by
    unfold INVALID_BATT_INT_VALUE
    omega
  rw [getCapacityLevelInner_eq_band]
  exact band_eq_find INVALID_BATT_INT_VALUE capacity .None hinvalid hinvalid thresholds.levels

theorem getCapacityLevelInner_smallest (thresholds : CapacityThresholds)
    (hordered : thresholds.WellOrdered) :
    (∀ capacity, 0 ≤ capacity →
      (∀ entry, thresholds.IsSmallest capacity entry →
        getCapacityLevelInner thresholds capacity = entry.2) ∧
      (getCapacityLevelInner thresholds capacity ≠ .None →
        ∃ threshold, thresholds.IsSmallest capacity
          (threshold, getCapacityLevelInner thresholds capacity)) ∧
      (getCapacityLevelInner thresholds capacity = .None ↔
        ∀ entry ∈ thresholds.levels, isCapacityLevelDefined entry.1 = true → ¬capacity ≤ entry.1)) ∧
    ∀ lower upper, 0 ≤ lower → lower ≤ upper →
      (getCapacityLevelInner thresholds upper).code ≤ (getCapacityLevelInner thresholds lower).code := by
  constructor
  · intro capacity hcapacity
    have hlevel := getCapacityLevelInner_eq_find thresholds hcapacity
    cases hfind : thresholds.levels.find? fun entry =>
        Covers INVALID_BATT_INT_VALUE capacity entry with
    | none =>
        rw [hfind] at hlevel
        have hnone := (find_covers_none _ _ _).mp hfind
        refine ⟨?_, fun hsome => absurd hlevel hsome, iff_of_true hlevel ?_⟩
        · intro entry hsmallest
          have hleast := (thresholds.isSmallest_iff capacity entry).mp hsmallest
          exact absurd hleast.2.1 (hnone entry hleast.1)
        · intro entry hentry hdefined hle
          exact hnone entry hentry ⟨by simpa [isCapacityLevelDefined] using hdefined, hle⟩
    | some found =>
        rw [hfind] at hlevel
        have hleast := find_covers_least hordered.ascending hfind
        have hne : getCapacityLevelInner thresholds capacity ≠ .None := by
          rw [hlevel]
          exact thresholds.levels_ne_none found hleast.1
        refine ⟨?_, fun _ => ⟨found.1, ?_⟩, iff_of_false hne ?_⟩
        · intro entry hsmallest
          have hentry := (find_covers_iff hordered.ascending entry).mpr
            ((thresholds.isSmallest_iff capacity entry).mp hsmallest)
          rw [hfind] at hentry
          cases hentry
          exact hlevel
        · rw [hlevel]
          exact (thresholds.isSmallest_iff capacity found).mpr hleast
        · intro hnone
          refine hnone found hleast.1 ?_ hleast.2.1.2
          simpa [isCapacityLevelDefined] using hleast.2.1.1
  · intro lower upper hlower hle
    rw [getCapacityLevelInner_eq_find thresholds hlower,
      getCapacityLevelInner_eq_find thresholds (le_trans hlower hle)]
    exact find_covers_mono hle BatteryCapacityLevel.code .None thresholds.levels_code
      (fun entry _ => Nat.zero_le _)

-- Only three of the thresholds are configured.
theorem getCapacityLevelInner_smallest_gaps :
    let thresholds : CapacityThresholds := { critical := 5, low := 20, full := 100 }
    thresholds.IsSmallest 6 (20, .Low) ∧ getCapacityLevelInner thresholds 6 = .Low := by
  intro thresholds
  have hordered : thresholds.WellOrdered :=
    ⟨by simp [thresholds, CapacityThresholds.levels, isCapacityLevelDefined, INVALID_BATT_INT_VALUE],
      by simp [thresholds, CapacityThresholds.levels, isCapacityLevelDefined, INVALID_BATT_INT_VALUE]⟩
  have hsmallest : thresholds.IsSmallest 6 (20, .Low) := by
    simp [thresholds, CapacityThresholds.IsSmallest, CapacityThresholds.levels,
      isCapacityLevelDefined, INVALID_BATT_INT_VALUE]
  exact ⟨hsmallest,
    ((getCapacityLevelInner_smallest thresholds hordered).1 6 (by decide)).1 _ hsmallest⟩

end BatteryManager
