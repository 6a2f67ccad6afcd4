import BatteryManager.ChargeTime.Sessions

namespace BatteryManager

open Library

-- Some report of the session was made at `time` with `capacity`.
def Observed (history : List ChargeReport) (capacity time : Int) : Prop :=
  InSession (fun report => report.capacity = capacity ∧ report.MadeAt time) history

def BaselineObserved (history : List ChargeReport) : Prop :=
  (chargeTimeAfter history).chargeFlag = true →
    Observed history (chargeTimeAfter history).lastCapacity (chargeTimeAfter history).lastTime

-- The test in front of the estimate, at the point where it is made.
def Estimates (history : List ChargeReport) (report : ChargeReport) : Prop :=
  let lowered := ((chargeTimeAfter history).begin report.clock report.capacity).lower report.capacity
  report.Charging ∧ 1 ≤ report.capacity - lowered.lastCapacity ∧ 0 ≤ lowered.lastCapacity ∧
    lowered.chargeFlag = true

-- The estimate comes from one earlier report of the session.
def EstimateObserved (history : List ChargeReport) (report : ChargeReport) : Prop :=
  ∃ capacity time, Observed history capacity time ∧
    (chargeTimeAfter (history ++ [report])).remainTime =
      (BATTERY_FULL_CAPACITY - report.capacity) *
        (report.clock.elapsed - time).tdiv (report.capacity - capacity)

-- The baseline and the estimates are observed all along a run.
structure RateObserved (history : List ChargeReport) : Prop where
  baseline : ∀ before after, history = before ++ after → BaselineObserved before
  estimate : ∀ before report after, history = before ++ report :: after → Estimates before report →
    EstimateObserved before report

-- The branch that lowers `lastCapacity` and leaves `lastTime` alone.
def TakesDrop (history : List ChargeReport) (report : ChargeReport) : Prop :=
  report.Charging ∧ (chargeTimeAfter history).chargeFlag = true ∧
    report.capacity < (chargeTimeAfter history).lastCapacity

-- Whenever a session falls, it has a report, perhaps this one, of the lower
-- capacity at the time that it is measured since.
def DropsObserved (history : List ChargeReport) : Prop :=
  ∀ before report after, history = before ++ report :: after → report.Charging →
    Falls (session before) report →
    ∃ time ∈ measuredSince (session before), ∃ other ∈ session (before ++ [report]),
      other.capacity = report.capacity ∧ other.MadeAt time

theorem takesDrop_iff (history : List ChargeReport) (report : ChargeReport) :
    TakesDrop history report ↔ report.Charging ∧ Falls (session history) report := by
  have hmeasures := measuresSession history
  unfold TakesDrop
  constructor
  · rintro ⟨hcharging, hflag, hlower⟩
    exact ⟨hcharging, (hmeasures.level hflag).falls_iff.mpr hlower⟩
  · rintro ⟨hcharging, hfalls⟩
    obtain ⟨last, hlast, -⟩ := hfalls.1
    have hflag := hmeasures.opened.mpr (List.ne_nil_of_mem (List.mem_of_getLast? hlast))
    exact ⟨hcharging, hflag, (hmeasures.level hflag).falls_iff.mp hfalls⟩

-- A drop keeps the time that the session is measured since.
theorem drop_observed_iff {history : List ChargeReport} {report : ChargeReport}
    (hdrop : TakesDrop history report) :
    Observed (history ++ [report]) report.capacity (chargeTimeAfter history).lastTime ↔
      ∃ time ∈ measuredSince (session history), ∃ other ∈ session (history ++ [report]),
        other.capacity = report.capacity ∧ other.MadeAt time := by
  rw [Observed, inSession_iff, (measuresSession history).since hdrop.2.1]
  simp

theorem estimates_iff (history : List ChargeReport) (report : ChargeReport) :
    Estimates history report ↔
      report.Charging ∧ (chargeTimeAfter history).chargeFlag = true ∧
        0 ≤ (chargeTimeAfter history).lastCapacity ∧
        (chargeTimeAfter history).lastCapacity < report.capacity := by
  unfold Estimates
  cases hflag : (chargeTimeAfter history).chargeFlag with
  | false => simp [ChargeTime.begin, ChargeTime.lower, hflag]
  | true =>
      rw [ChargeTime.lower_begin_of_flag hflag]
      unfold ChargeTime.lower
      split
      · rename_i hdrop
        simp only [Int.sub_self]
        constructor
        · rintro ⟨-, hrise, -⟩
          omega
        · rintro ⟨-, -, -, hrise⟩
          omega
      · constructor
        · rintro ⟨hcharging, hrise, hlast, -⟩
          exact ⟨hcharging, rfl, hlast, by omega⟩
        · rintro ⟨hcharging, -, hlast, hrise⟩
          exact ⟨hcharging, by omega, hlast, hflag⟩

theorem remainTime_of_estimates {history : List ChargeReport} {report : ChargeReport}
    (hestimates : Estimates history report) :
    (chargeTimeAfter (history ++ [report])).remainTime =
      (BATTERY_FULL_CAPACITY - report.capacity) *
        (report.clock.elapsed - (chargeTimeAfter history).lastTime).tdiv
          (report.capacity - (chargeTimeAfter history).lastCapacity) := by
  obtain ⟨hcharging, hflag, hlast, hrise⟩ := (estimates_iff history report).mp hestimates
  have hkept : (chargeTimeAfter history).lower report.capacity = chargeTimeAfter history :=
    if_neg (by omega)
  rw [chargeTimeAfter_concat, ChargeTime.calculate_charging _ hcharging,
    ChargeTime.lower_begin_of_flag hflag, hkept, ChargeTime.estimate, if_pos ⟨by omega, hlast, hflag⟩]

theorem estimateObserved_of_baseline {history : List ChargeReport} {report : ChargeReport}
    (hbaseline : BaselineObserved history) (hestimates : Estimates history report) :
    EstimateObserved history report :=
  ⟨_, _, hbaseline ((estimates_iff history report).mp hestimates).2.1,
    remainTime_of_estimates hestimates⟩

-- Every branch but one moves the capacity and the time of the baseline together.
theorem baselineObserved_concat {history : List ChargeReport} {report : ChargeReport}
    (hbaseline : BaselineObserved history)
    (hdrop : TakesDrop history report →
      Observed (history ++ [report]) report.capacity (chargeTimeAfter history).lastTime) :
    BaselineObserved (history ++ [report]) := by
  unfold BaselineObserved
  have hmove := chargeTimeAfter_move history report
  generalize chargeTimeAfter (history ++ [report]) = next at hmove ⊢
  intro hflag
  cases hmove with
  | Reject hfull => exact (hbaseline hflag).concat (not_stops_of_reject hfull)
  | Stop => cases hflag
  | Begin hcharging => exact inSession_self hcharging ⟨rfl, .inl rfl⟩
  | Drop hcharging hon hlower => exact hdrop ⟨hcharging, hon, hlower⟩
  | Rise hcharging => exact inSession_self hcharging ⟨rfl, .inr (.inr rfl)⟩
  | Stay hcharging => exact (hbaseline hflag).concat hcharging.not_stops

theorem baselineObserved_of_drops {history : List ChargeReport} (hdrops : DropsObserved history)
    (before after : List ChargeReport) (hsplit : history = before ++ after) :
    BaselineObserved before := by
  induction before using List.reverseRecOn generalizing after with
  | nil => exact fun hflag => nomatch hflag
  | append_singleton earlier report ih =>
      have hearlier : history = earlier ++ report :: after := by
        rw [hsplit]
        simp
      refine baselineObserved_concat (ih (report :: after) hearlier) fun hdrop => ?_
      obtain ⟨hcharging, hfalls⟩ := (takesDrop_iff earlier report).mp hdrop
      exact (drop_observed_iff hdrop).mpr (hdrops earlier report after hearlier hcharging hfalls)

theorem chargeTimeAfter_of_drop {history : List ChargeReport} {report : ChargeReport}
    (hdrop : TakesDrop history report) :
    chargeTimeAfter (history ++ [report]) =
      { chargeTimeAfter history with lastCapacity := report.capacity } := by
  obtain ⟨hcharging, hflag, hlower⟩ := hdrop
  have hlowered : (chargeTimeAfter history).lower report.capacity =
      { chargeTimeAfter history with lastCapacity := report.capacity } := if_pos hlower
  rw [chargeTimeAfter_concat, ChargeTime.calculate_charging _ hcharging,
    ChargeTime.lower_begin_of_flag hflag, hlowered]
  simp [ChargeTime.estimate]

theorem dropsObserved_of_rate {history : List ChargeReport} (hobserved : RateObserved history) :
    DropsObserved history := by
  intro before report after hsplit hcharging hfalls
  have hdrop : TakesDrop before report := (takesDrop_iff before report).mpr ⟨hcharging, hfalls⟩
  have hprefix : history = (before ++ [report]) ++ after := by
    rw [hsplit]
    simp
  have hbaseline := hobserved.baseline (before ++ [report]) after hprefix
  have hafter := chargeTimeAfter_of_drop hdrop
  unfold BaselineObserved at hbaseline
  rw [hafter] at hbaseline
  exact (drop_observed_iff hdrop).mp (hbaseline hdrop.2.1)

theorem rateObserved_of_drops {history : List ChargeReport} (hdrops : DropsObserved history) :
    RateObserved history := by
  have hbaseline := baselineObserved_of_drops hdrops
  refine ⟨hbaseline, ?_⟩
  intro before report after hsplit hestimates
  exact estimateObserved_of_baseline (hbaseline before (report :: after) hsplit) hestimates

theorem rateObserved_iff_dropsObserved (history : List ChargeReport) :
    RateObserved history ↔ DropsObserved history :=
  ⟨dropsObserved_of_rate, rateObserved_of_drops⟩

-- The capacity drops from 50 to 40, and nothing was reported with 40 at the
-- time of the 50.
theorem not_rateObserved_drop :
    ¬∀ history, (∀ report ∈ history, report.capacity ≤ BATTERY_FULL_CAPACITY) →
      ClockOrdered history → RateObserved history := by
  intro hobserved
  let history : List ChargeReport := [⟨⟨0, 0, 0⟩, 50, .Enable⟩, ⟨⟨100, 100, 100⟩, 40, .Enable⟩]
  have hclock : ClockOrdered history := ⟨by simp [history], by simp [history]⟩
  have hall := hobserved history (by simp [history, BATTERY_FULL_CAPACITY]) hclock
  obtain ⟨before, report, after, hsplit, ⟨-, hcapacity, htime⟩, -⟩ :=
    hall.baseline history [] (by simp) rfl
  have hmem : report ∈ history := by simp [hsplit]
  have hlast : (chargeTimeAfter history).lastCapacity = 40 := rfl
  have hkept : (chargeTimeAfter history).lastTime = 0 := rfl
  rw [hlast] at hcapacity
  rw [hkept] at htime
  simp only [history, List.mem_cons, List.not_mem_nil, or_false] at hmem
  rcases hmem with rfl | rfl
  · cases hcapacity
  · simp [ChargeReport.MadeAt] at htime

-- A report of at least one more than an earlier report of its session.
def RisesInSession (history : List ChargeReport) : Prop :=
  Occurs (fun past report =>
    report.Charging ∧ InSession (fun earlier => earlier.capacity + 1 ≤ report.capacity) past) history

theorem chargeTimeAfter_of_reject (history : List ChargeReport) {report : ChargeReport}
    (hfull : BATTERY_FULL_CAPACITY < report.capacity) :
    chargeTimeAfter (history ++ [report]) = chargeTimeAfter history := by
  rw [chargeTimeAfter_concat, ChargeTime.calculate_reject _ hfull]

theorem chargeTimeAfter_of_stop (history : List ChargeReport) {report : ChargeReport}
    (hstops : report.Stops) :
    chargeTimeAfter (history ++ [report]) =
      { chargeTimeAfter history with remainTime := 0, chargeFlag := false } := by
  rw [chargeTimeAfter_concat, ChargeTime.calculate_stops _ hstops]

-- The baseline is never in the future.
theorem lastTime_reached {history : List ChargeReport} (hclock : ClockOrdered history)
    (hflag : (chargeTimeAfter history).chargeFlag = true) :
    ∃ report ∈ history, (chargeTimeAfter history).lastTime ≤ report.clock.rebased := by
  induction history using List.reverseRecOn with
  | nil => cases hflag
  | append_singleton before report ih =>
      have hkept : (chargeTimeAfter before).chargeFlag = true →
          ∃ earlier ∈ before ++ [report],
            (chargeTimeAfter before).lastTime ≤ earlier.clock.rebased := by
        intro hbefore
        obtain ⟨earlier, hearlier, hle⟩ := ih hclock.init hbefore
        exact ⟨earlier, by simp [hearlier], hle⟩
      have hwithin := hclock.within report (by simp)
      have hmove := chargeTimeAfter_move before report
      generalize chargeTimeAfter (before ++ [report]) = next at hmove hflag ⊢
      cases hmove with
      | Reject => exact hkept hflag
      | Stop => cases hflag
      | Begin => exact ⟨report, by simp, Int.le_trans hwithin.1 hwithin.2⟩
      | Drop _ hon => exact hkept hon
      | Rise => exact ⟨report, by simp, Int.le_refl _⟩
      | Stay => exact hkept hflag

theorem remainTime_nonneg {history : List ChargeReport} (hclock : ClockOrdered history) :
    0 ≤ (chargeTimeAfter history).remainTime := by
  induction history using List.reverseRecOn with
  | nil => exact Int.le_refl 0
  | append_singleton before report ih =>
      have hbefore := ih hclock.init
      have hmove := chargeTimeAfter_move before report
      generalize chargeTimeAfter (before ++ [report]) = next at hmove ⊢
      cases hmove with
      | Reject => exact hbefore
      | Stop => exact Int.le_refl 0
      | Begin => exact hbefore
      | Drop => exact hbefore
      | Rise hcharging hon _ hrise =>
          obtain ⟨earlier, hearlier, hreached⟩ := lastTime_reached hclock.init hon
          have helapsed := Int.le_trans hreached (hclock.elapsed_le hearlier)
          have honce : 0 ≤ (report.clock.elapsed - (chargeTimeAfter before).lastTime).tdiv
              (report.capacity - (chargeTimeAfter before).lastCapacity) :=
            Int.tdiv_nonneg (by omega) (by omega)
          exact Int.mul_nonneg (Int.sub_nonneg_of_le hcharging.1) honce
      | Stay => exact hbefore

-- After a report that stops the charging, the time stays zero, and the baseline
-- is the capacity of a report of the session, until the capacity rises.
theorem remainTime_of_no_rise (before : List ChargeReport) {stop : ChargeReport} (hstops : stop.Stops)
    {later : List ChargeReport} (hrises : ¬RisesInSession later) :
    (chargeTimeAfter (before ++ stop :: later)).remainTime = 0 ∧
    ((chargeTimeAfter (before ++ stop :: later)).chargeFlag = true →
      InSession (fun report =>
        report.capacity = (chargeTimeAfter (before ++ stop :: later)).lastCapacity) later) := by
  induction later using List.reverseRecOn with
  | nil =>
      rw [chargeTimeAfter_of_stop before hstops]
      exact ⟨rfl, fun hflag => nomatch hflag⟩
  | append_singleton rest report ih =>
      have hrest : ¬RisesInSession rest ∧ ¬(report.Charging ∧
          InSession (fun earlier => earlier.capacity + 1 ≤ report.capacity) rest) := by
        rw [← not_or]
        exact fun hor => hrises ((occurs_concat _ _ _).mpr hor)
      obtain ⟨hzero, hbase⟩ := ih hrest.1
      have hsplit : before ++ stop :: (rest ++ [report]) = (before ++ stop :: rest) ++ [report] := by
        simp
      rw [hsplit]
      have hmove := chargeTimeAfter_move (before ++ stop :: rest) report
      generalize chargeTimeAfter ((before ++ stop :: rest) ++ [report]) = next at hmove ⊢
      cases hmove with
      | Reject hfull =>
          exact ⟨hzero, fun hflag => (hbase hflag).concat (not_stops_of_reject hfull)⟩
      | Stop => exact ⟨rfl, fun hflag => nomatch hflag⟩
      | Begin hcharging => exact ⟨hzero, fun _ => inSession_self hcharging rfl⟩
      | Drop hcharging => exact ⟨hzero, fun _ => inSession_self hcharging rfl⟩
      | Rise hcharging hon _ hrise =>
          refine absurd ⟨hcharging, ?_⟩ hrest.2
          obtain ⟨past, entry, after, hpast, ⟨hentry, hcapacity⟩, hgoes⟩ := hbase hon
          exact ⟨past, entry, after, hpast, ⟨hentry, by omega⟩, hgoes⟩
      | Stay hcharging hon =>
          exact ⟨hzero, fun hflag => (hbase hflag).concat hcharging.not_stops⟩

theorem remainTime_meaningful (history : List ChargeReport) (hclock : ClockOrdered history) :
    0 ≤ (chargeTimeAfter history).remainTime ∧
    (∀ isSystem, getRemainingChargeTimeInner isSystem (chargeTimeAfter history) =
      INVALID_REMAINING_CHARGE_TIME_VALUE ↔ isSystem = false) ∧
    (∀ before stop later, history = before ++ stop :: later →
      stop.capacity ≤ BATTERY_FULL_CAPACITY → stop.chargeState ≠ .Enable → ¬RisesInSession later →
      (chargeTimeAfter history).remainTime = 0) ∧
    ∀ report : ChargeReport, report.capacity > BATTERY_FULL_CAPACITY →
      chargeTimeAfter (history ++ [report]) = chargeTimeAfter history := by
  have hnonneg := remainTime_nonneg hclock
  refine ⟨hnonneg, ?_, ?_, ?_⟩
  · intro isSystem
    cases isSystem with
    | false => simp [getRemainingChargeTimeInner]
    | true =>
        simp only [getRemainingChargeTimeInner, if_true, INVALID_REMAINING_CHARGE_TIME_VALUE]
        constructor
        · intro hinvalid
          omega
        · intro hfalse
          cases hfalse
  · rintro before stop later rfl haccepted hstate hrises
    exact (remainTime_of_no_rise before ⟨haccepted, hstate⟩ hrises).1
  · intro report hfull
    exact chargeTimeAfter_of_reject history hfull

-- Charging goes from 50 to 51 in a minute and then stops.
theorem remainTime_meaningful_charging :
    let history : List ChargeReport :=
      [⟨⟨0, 0, 0⟩, 50, .Enable⟩, ⟨⟨60000, 60000, 60000⟩, 51, .Enable⟩]
    let stop : ChargeReport := ⟨⟨70000, 70000, 70000⟩, 51, .Disable⟩
    (chargeTimeAfter history).remainTime = 2940000 ∧ 0 ≤ (chargeTimeAfter history).remainTime ∧
      (chargeTimeAfter (history ++ [stop])).remainTime = 0 := by
  intro history stop
  have hclock : ClockOrdered history := ⟨by simp [history], by simp [history]⟩
  have hstopped : ClockOrdered (history ++ [stop]) := ⟨by simp [history, stop], by simp [history, stop]⟩
  refine ⟨by decide, (remainTime_meaningful history hclock).1, ?_⟩
  exact (remainTime_meaningful (history ++ [stop]) hstopped).2.2.1 history stop [] rfl (by decide)
    (by decide) (occurs_nil _)

end BatteryManager
