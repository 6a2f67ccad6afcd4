import BatteryManager.ChargeTime.Lemmas
import BatteryManager.Library.CheckedInt

namespace BatteryManager

open Library

-- The calls with the types of the source: capacities are 32 bits wide, times are
-- 64 bits wide. Without a result an operation divides by zero or overflows.
def ChargeTime.estimateChecked (clock : ClockReadings) (capacity : Int) (chargeTime : ChargeTime) :
    Option ChargeTime := do
  let rise ← int32 (capacity - chargeTime.lastCapacity)
  if 1 ≤ rise ∧ 0 ≤ chargeTime.lastCapacity ∧ chargeTime.chargeFlag = true then
    let elapsed ← int64 (clock.elapsed - chargeTime.lastTime)
    let divisor ← int32 (capacity - chargeTime.lastCapacity)
    let onceTime ← divide64 elapsed divisor
    let left ← int32 (BATTERY_FULL_CAPACITY - capacity)
    let remainTime ← int64 (left * onceTime)
    some { chargeTime with remainTime, lastCapacity := capacity, lastTime := clock.rebased }
  else some chargeTime

def ChargeTime.calculateChecked (chargeTime : ChargeTime) (report : ChargeReport) : Option ChargeTime :=
  if report.capacity > BATTERY_FULL_CAPACITY then some chargeTime
  else if report.chargeState ≠ .Enable then
    some { chargeTime with remainTime := 0, chargeFlag := false }
  else
    ((chargeTime.begin report.clock report.capacity).lower report.capacity).estimateChecked report.clock
      report.capacity

def chargeTimeChecked (history : List ChargeReport) : Option ChargeTime :=
  history.foldlM ChargeTime.calculateChecked {}

-- The range of the times: 2^53 milliseconds from zero on.
def InClockRange (time : Int) : Prop := 0 ≤ time ∧ time < 9007199254740992

section Estimate

variable {clock : ClockReadings} {capacity : Int} {chargeTime : ChargeTime}

-- The first subtraction is the only one that the tests do not guard.
theorem estimateChecked_overflows (hbig : 2147483647 < capacity - chargeTime.lastCapacity) :
    chargeTime.estimateChecked clock capacity = none := by
  unfold ChargeTime.estimateChecked
  rw [int32_of_gt hbig]
  rfl

theorem estimateChecked_fits (helapsed : InClockRange clock.elapsed)
    (hlastTime : InClockRange chargeTime.lastTime) (hcapacity : capacity ≤ BATTERY_FULL_CAPACITY)
    (hlower : chargeTime.lastCapacity ≤ capacity)
    (hfits : capacity - chargeTime.lastCapacity ≤ 2147483647) :
    chargeTime.estimateChecked clock capacity = some (chargeTime.estimate clock capacity) := by
  unfold InClockRange at helapsed hlastTime
  unfold BATTERY_FULL_CAPACITY at hcapacity
  have hrise : int32 (capacity - chargeTime.lastCapacity) = some (capacity - chargeTime.lastCapacity) :=
    int32_of_range (by omega) hfits
  unfold ChargeTime.estimateChecked ChargeTime.estimate
  rw [hrise]
  dsimp only [Option.bind_eq_bind, Option.bind_some]
  split_ifs with hguard
  · obtain ⟨hpositive, hlast, -⟩ := hguard
    have hdifference : int64 (clock.elapsed - chargeTime.lastTime) =
        some (clock.elapsed - chargeTime.lastTime) := int64_of_range (by omega) (by omega)
    have hquotient : divide64 (clock.elapsed - chargeTime.lastTime)
        (capacity - chargeTime.lastCapacity) = some ((clock.elapsed - chargeTime.lastTime).tdiv
          (capacity - chargeTime.lastCapacity)) :=
      divide64_of_range (by omega) (by omega) (by omega)
    have hleft : int32 (BATTERY_FULL_CAPACITY - capacity) = some (BATTERY_FULL_CAPACITY - capacity) := by
      unfold BATTERY_FULL_CAPACITY
      exact int32_of_range (by omega) (by omega)
    have honce : -9007199254740992 ≤ (clock.elapsed - chargeTime.lastTime).tdiv
        (capacity - chargeTime.lastCapacity) ∧ (clock.elapsed - chargeTime.lastTime).tdiv
          (capacity - chargeTime.lastCapacity) ≤ 9007199254740992 :=
      tdiv_bounds _ (by omega) (by omega)
    generalize (clock.elapsed - chargeTime.lastTime).tdiv (capacity - chargeTime.lastCapacity) =
      onceTime at hquotient honce ⊢
    have hproduct : int64 ((BATTERY_FULL_CAPACITY - capacity) * onceTime) =
        some ((BATTERY_FULL_CAPACITY - capacity) * onceTime) := by
      have hhundred : (BATTERY_FULL_CAPACITY - capacity).natAbs ≤ 100 := by
        unfold BATTERY_FULL_CAPACITY
        omega
      have honceAbs : onceTime.natAbs ≤ 9007199254740992 := by omega
      obtain ⟨hlow, hhigh⟩ := mul_bounds hhundred honceAbs
      exact int64_of_range (by omega) (by omega)
    rw [hdifference, Option.bind_some, hquotient, Option.bind_some, hleft, Option.bind_some, hproduct]
    rfl
  · rfl

end Estimate

-- Every clock reading of the reports is in range.
def ClockInRange (history : List ChargeReport) : Prop :=
  ∀ report ∈ history, ∀ time, report.MadeAt time → InClockRange time

theorem ClockInRange.init {history : List ChargeReport} {report : ChargeReport}
    (hrange : ClockInRange (history ++ [report])) : ClockInRange history :=
  fun earlier hearlier => hrange earlier (List.mem_append_left _ hearlier)

theorem ClockInRange.lastTime {history : List ChargeReport} (hrange : ClockInRange history) :
    InClockRange (chargeTimeAfter history).lastTime := by
  induction history using List.reverseRecOn with
  | nil => exact ⟨Int.le_refl 0, by decide⟩
  | append_singleton before report ih =>
      have hbefore := ih hrange.init
      have hreport := hrange report (List.mem_concat_self)
      have hmove := chargeTimeAfter_move before report
      generalize chargeTimeAfter (before ++ [report]) = next at hmove ⊢
      cases hmove with
      | Reject => exact hbefore
      | Stop => exact hbefore
      | Begin => exact hreport _ (.inl rfl)
      | Drop => exact hbefore
      | Rise => exact hreport _ (.inr (.inr rfl))
      | Stay => exact hbefore

-- The first subtraction goes out of its type.
def Overflows (history : List ChargeReport) (report : ChargeReport) : Prop :=
  report.Charging ∧ (chargeTimeAfter history).chargeFlag = true ∧
    2147483647 < report.capacity - (chargeTimeAfter history).lastCapacity

section Step

variable {history : List ChargeReport} {report : ChargeReport}

theorem calculateChecked_charging (chargeTime : ChargeTime) (hcharging : report.Charging) :
    chargeTime.calculateChecked report =
      ((chargeTime.begin report.clock report.capacity).lower report.capacity).estimateChecked
        report.clock report.capacity := by
  rw [ChargeTime.calculateChecked, if_neg (Int.not_lt.mpr hcharging.1),
    if_neg (not_not.mpr hcharging.2)]

theorem calculateChecked_overflows (hoverflows : Overflows history report) :
    (chargeTimeAfter history).calculateChecked report = none := by
  obtain ⟨hcharging, hflag, hbig⟩ := hoverflows
  have hkept : (chargeTimeAfter history).lower report.capacity = chargeTimeAfter history :=
    if_neg (by omega)
  rw [calculateChecked_charging _ hcharging, ChargeTime.lower_begin_of_flag hflag, hkept]
  exact estimateChecked_overflows hbig

theorem calculateChecked_fits (hrange : ClockInRange (history ++ [report]))
    (hfits : ¬Overflows history report) :
    (chargeTimeAfter history).calculateChecked report = some (chargeTimeAfter (history ++ [report])) := by
  have hlastTime := hrange.init.lastTime
  have hreport := hrange report List.mem_concat_self
  rw [chargeTimeAfter_concat]
  by_cases haccepted : report.capacity ≤ BATTERY_FULL_CAPACITY
  · by_cases hstate : report.chargeState = .Enable
    · have hcharging : report.Charging := ⟨haccepted, hstate⟩
      rw [calculateChecked_charging _ hcharging, ChargeTime.calculate_charging _ hcharging]
      have helapsed := hreport _ (.inr (.inl rfl))
      cases hflag : (chargeTimeAfter history).chargeFlag with
      | false =>
          have hbegin : ((chargeTimeAfter history).begin report.clock report.capacity).lower
              report.capacity = { chargeTimeAfter history with
                lastCapacity := report.capacity, lastTime := report.clock.started,
                chargeFlag := true } := by
            simp [ChargeTime.begin, ChargeTime.lower, hflag]
          rw [hbegin]
          refine estimateChecked_fits helapsed (hreport _ (.inl rfl)) haccepted (Int.le_refl _) ?_
          simp
      | true =>
          rw [ChargeTime.lower_begin_of_flag hflag]
          by_cases hdrop : report.capacity < (chargeTimeAfter history).lastCapacity
          · rw [ChargeTime.lower, if_pos hdrop]
            refine estimateChecked_fits helapsed hlastTime haccepted (Int.le_refl _) ?_
            simp
          · rw [ChargeTime.lower, if_neg hdrop]
            refine estimateChecked_fits helapsed hlastTime haccepted (Int.not_lt.mp hdrop) ?_
            exact Int.not_lt.mp fun hbig => hfits ⟨hcharging, hflag, hbig⟩
    · have hstops : report.Stops := ⟨haccepted, hstate⟩
      rw [ChargeTime.calculate_stops _ hstops, ChargeTime.calculateChecked,
        if_neg (Int.not_lt.mpr haccepted), if_pos hstate]
  · have hfull : BATTERY_FULL_CAPACITY < report.capacity := Int.not_le.mp haccepted
    rw [ChargeTime.calculate_reject _ hfull, ChargeTime.calculateChecked, if_pos hfull]

theorem chargeTimeChecked_concat (history : List ChargeReport) (report : ChargeReport) :
    chargeTimeChecked (history ++ [report]) =
      (chargeTimeChecked history).bind fun chargeTime => chargeTime.calculateChecked report := by
  simp [chargeTimeChecked, List.foldlM_append]

end Step

theorem chargeTimeChecked_eq {history : List ChargeReport} (hrange : ClockInRange history) :
    (Occurs Overflows history → chargeTimeChecked history = none) ∧
      (¬Occurs Overflows history → chargeTimeChecked history = some (chargeTimeAfter history)) := by
  induction history using List.reverseRecOn with
  | nil => exact ⟨fun hoccurs => absurd hoccurs (occurs_nil _), fun _ => rfl⟩
  | append_singleton before report ih =>
      obtain ⟨hnone, hsome⟩ := ih hrange.init
      rw [occurs_concat, chargeTimeChecked_concat]
      constructor
      · intro hoccurs
        by_cases hbefore : Occurs Overflows before
        · rw [hnone hbefore, Option.bind_none]
        · rw [hsome hbefore, Option.bind_some]
          exact calculateChecked_overflows (hoccurs.resolve_left hbefore)
      · intro hfits
        obtain ⟨hbefore, hlast⟩ := not_or.mp hfits
        rw [hsome hbefore, Option.bind_some]
        exact calculateChecked_fits hrange hlast

theorem InSession.mono {p q : ChargeReport → Prop} (himplies : ∀ report, p report → q report)
    {history : List ChargeReport} (hsession : InSession p history) : InSession q history := by
  obtain ⟨before, entry, after, hsplit, ⟨hcharging, hentry⟩, hgoes⟩ := hsession
  exact ⟨before, entry, after, hsplit, ⟨hcharging, himplies entry hentry⟩, hgoes⟩

-- The baseline is the capacity of a report of the session.
theorem lastCapacity_reported (history : List ChargeReport)
    (hflag : (chargeTimeAfter history).chargeFlag = true) :
    InSession (fun report => report.capacity = (chargeTimeAfter history).lastCapacity) history := by
  induction history using List.reverseRecOn with
  | nil => cases hflag
  | append_singleton before report ih =>
      have hmove := chargeTimeAfter_move before report
      generalize chargeTimeAfter (before ++ [report]) = next at hmove hflag ⊢
      cases hmove with
      | Reject hfull => exact (ih hflag).concat (not_stops_of_reject hfull)
      | Stop => cases hflag
      | Begin hcharging => exact inSession_self hcharging rfl
      | Drop hcharging => exact inSession_self hcharging rfl
      | Rise hcharging => exact inSession_self hcharging rfl
      | Stay hcharging hon => exact (ih hon).concat hcharging.not_stops

-- A baseline below zero is the lowest capacity of the session.
theorem lastCapacity_le {bound : Int} (hbound : bound < 0) {history : List ChargeReport}
    (hsession : InSession (fun report => report.capacity ≤ bound) history) :
    (chargeTimeAfter history).chargeFlag = true ∧ (chargeTimeAfter history).lastCapacity ≤ bound := by
  induction history using List.reverseRecOn with
  | nil => exact absurd hsession (since_nil _ _)
  | append_singleton before report ih =>
      have hcases := (since_concat _ _ _ _).mp hsession
      have hmove := chargeTimeAfter_move before report
      generalize chargeTimeAfter (before ++ [report]) = next at hmove ⊢
      cases hmove with
      | Reject hfull =>
          rcases hcases with ⟨hcharging, -⟩ | ⟨hbefore, -⟩
          · exact absurd hcharging.1 (Int.not_le.mpr hfull)
          · exact ih hbefore
      | Stop hstops =>
          rcases hcases with ⟨hcharging, -⟩ | ⟨-, hgoes⟩
          · exact absurd hstops hcharging.not_stops
          · exact absurd hstops hgoes
      | Begin _ hoff =>
          rcases hcases with ⟨-, hlow⟩ | ⟨hbefore, -⟩
          · exact ⟨rfl, hlow⟩
          · rw [(ih hbefore).1] at hoff
            cases hoff
      | Drop _ hon hdrop =>
          rcases hcases with ⟨-, hlow⟩ | ⟨hbefore, -⟩
          · exact ⟨hon, hlow⟩
          · exact ⟨hon, Int.le_trans (Int.le_of_lt hdrop) (ih hbefore).2⟩
      | Rise _ hon hlast hrise =>
          rcases hcases with ⟨-, hlow⟩ | ⟨hbefore, -⟩
          · omega
          · have hbelow := (ih hbefore).2
            omega
      | Stay _ hon hle =>
          rcases hcases with ⟨-, hlow⟩ | ⟨hbefore, -⟩
          · exact ⟨hon, Int.le_trans hle hlow⟩
          · exact ih hbefore

-- No report of a session is above an earlier one by more than an `int32_t` holds.
def RisesFit (history : List ChargeReport) : Prop :=
  ¬Occurs (fun past report => report.Charging ∧
    InSession (fun earlier => 2147483647 < report.capacity - earlier.capacity) past) history

theorem overflows_iff (history : List ChargeReport) (report : ChargeReport) :
    Overflows history report ↔ report.Charging ∧
      InSession (fun earlier => 2147483647 < report.capacity - earlier.capacity) history := by
  constructor
  · rintro ⟨hcharging, hflag, hbig⟩
    refine ⟨hcharging, (lastCapacity_reported history hflag).mono ?_⟩
    intro earlier hearlier
    rw [hearlier]
    exact hbig
  · rintro ⟨hcharging, hsession⟩
    have hfull := hcharging.1
    unfold BATTERY_FULL_CAPACITY at hfull
    have hlow : InSession (fun earlier => earlier.capacity ≤ report.capacity - 2147483648) history :=
      hsession.mono fun earlier hearlier => by omega
    obtain ⟨hflag, hlast⟩ := lastCapacity_le (by omega) hlow
    exact ⟨hcharging, hflag, by omega⟩

-- No operation of any call divides by zero or overflows, unless the capacity
-- rises too far in a session.
theorem chargeTimeChecked_isSome_iff (history : List ChargeReport) (hrange : ClockInRange history) :
    (chargeTimeChecked history).isSome = true ↔ RisesFit history := by
  have hsame : RisesFit history ↔ ¬Occurs Overflows history := by
    have hfun : Overflows = fun past report => report.Charging ∧
        InSession (fun earlier => 2147483647 < report.capacity - earlier.capacity) past := by
      funext past report
      exact propext (overflows_iff past report)
    rw [hfun]
    exact Iff.rfl
  obtain ⟨hnone, hsome⟩ := chargeTimeChecked_eq hrange
  rw [hsame]
  constructor
  · intro hchecked hoccurs
    rw [hnone hoccurs] at hchecked
    cases hchecked
  · intro hfits
    rw [hsome hfits]
    rfl

-- Charging from 50 to 51 in a minute.
theorem chargeTimeChecked_isSome_iff_minute :
    RisesFit [⟨⟨0, 0, 0⟩, 50, .Enable⟩, ⟨⟨60000, 60000, 60000⟩, 51, .Enable⟩] := by
  refine (chargeTimeChecked_isSome_iff _ ?_).mp (by decide)
  unfold ClockInRange
  simp [ChargeReport.MadeAt, InClockRange]

-- After the lowest capacity, zero is too far away.
theorem not_chargeTimeChecked_lowest :
    ¬∀ history : List ChargeReport,
      (∀ report ∈ history, -2147483648 ≤ report.capacity ∧ report.capacity ≤ 2147483647) →
      ClockOrdered history → ClockInRange history → (chargeTimeChecked history).isSome = true := by
  intro hchecked
  let history : List ChargeReport :=
    [⟨⟨0, 0, 0⟩, -2147483648, .Enable⟩, ⟨⟨60000, 60000, 60000⟩, 0, .Enable⟩]
  have hclock : ClockOrdered history := ⟨by simp [history], by simp [history]⟩
  have hrange : ClockInRange history := by
    unfold ClockInRange
    simp [history, ChargeReport.MadeAt, InClockRange]
  have hsome := hchecked history (by simp [history]) hclock hrange
  have hnone : chargeTimeChecked history = none := by decide
  rw [hnone] at hsome
  cases hsome

end BatteryManager
