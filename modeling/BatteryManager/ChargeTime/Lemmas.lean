import BatteryManager.ChargeTime
import BatteryManager.Library.Run

namespace BatteryManager

open Library

-- One call of `CalculateRemainingChargeTime`.
structure ChargeReport where
  clock : ClockReadings
  capacity : Int
  chargeState : BatteryChargeState

namespace ChargeReport

-- A report of more than the full capacity is rejected: it neither belongs to a
-- charging session nor ends one.
def Charging (report : ChargeReport) : Prop :=
  report.capacity ≤ BATTERY_FULL_CAPACITY ∧ report.chargeState = .Enable

def Stops (report : ChargeReport) : Prop :=
  report.capacity ≤ BATTERY_FULL_CAPACITY ∧ report.chargeState ≠ .Enable

def MadeAt (report : ChargeReport) (time : Int) : Prop :=
  time = report.clock.started ∨ time = report.clock.elapsed ∨ time = report.clock.rebased

end ChargeReport

def chargeTimeAfter (history : List ChargeReport) : ChargeTime :=
  history.foldl (fun chargeTime report =>
    chargeTime.calculateRemainingChargeTime report.clock report.capacity report.chargeState) {}

-- A report of the current charging session satisfies `p`.
def InSession (p : ChargeReport → Prop) (history : List ChargeReport) : Prop :=
  Since (fun report => report.Charging ∧ p report) ChargeReport.Stops history

-- The clock never goes back, neither within a call nor from one to the next.
structure ClockOrdered (history : List ChargeReport) : Prop where
  within : ∀ report ∈ history,
    report.clock.started ≤ report.clock.elapsed ∧ report.clock.elapsed ≤ report.clock.rebased
  between : history.Pairwise fun earlier later => earlier.clock.rebased ≤ later.clock.started

theorem ClockOrdered.init {history : List ChargeReport} {report : ChargeReport}
    (hclock : ClockOrdered (history ++ [report])) : ClockOrdered history where
  within := fun earlier hearlier => hclock.within earlier (by simp [hearlier])
  between := (List.pairwise_append.mp hclock.between).1

theorem ClockOrdered.elapsed_le {history : List ChargeReport} {report earlier : ChargeReport}
    (hclock : ClockOrdered (history ++ [report])) (hearlier : earlier ∈ history) :
    earlier.clock.rebased ≤ report.clock.elapsed := by
  have hlater := (List.pairwise_append.mp hclock.between).2.2 earlier hearlier report (by simp)
  have hwithin := (hclock.within report (by simp)).1
  exact Int.le_trans hlater hwithin

@[simp] theorem chargeTimeAfter_nil : chargeTimeAfter [] = {} := rfl

theorem chargeTimeAfter_concat (history : List ChargeReport) (report : ChargeReport) :
    chargeTimeAfter (history ++ [report]) =
      (chargeTimeAfter history).calculateRemainingChargeTime report.clock report.capacity
        report.chargeState := by
  simp [chargeTimeAfter]

-- Everything that one call can do.
inductive ChargeTime.Move (report : ChargeReport) (chargeTime : ChargeTime) : ChargeTime → Prop
  | Reject : BATTERY_FULL_CAPACITY < report.capacity → Move report chargeTime chargeTime
  | Stop : report.Stops →
      Move report chargeTime { chargeTime with remainTime := 0, chargeFlag := false }
  | Begin : report.Charging → chargeTime.chargeFlag = false →
      Move report chargeTime { chargeTime with
        lastCapacity := report.capacity, lastTime := report.clock.started, chargeFlag := true }
  | Drop : report.Charging → chargeTime.chargeFlag = true → report.capacity < chargeTime.lastCapacity →
      Move report chargeTime { chargeTime with lastCapacity := report.capacity }
  | Rise : report.Charging → chargeTime.chargeFlag = true → 0 ≤ chargeTime.lastCapacity →
      chargeTime.lastCapacity < report.capacity →
      Move report chargeTime { chargeTime with
        remainTime := (BATTERY_FULL_CAPACITY - report.capacity) *
          (report.clock.elapsed - chargeTime.lastTime).tdiv (report.capacity - chargeTime.lastCapacity)
        lastCapacity := report.capacity
        lastTime := report.clock.rebased }
  | Stay : report.Charging → chargeTime.chargeFlag = true → chargeTime.lastCapacity ≤ report.capacity →
      (0 ≤ chargeTime.lastCapacity → report.capacity = chargeTime.lastCapacity) →
      Move report chargeTime chargeTime

theorem ChargeTime.lower_begin_of_flag {chargeTime : ChargeTime} {clock : ClockReadings} {capacity : Int}
    (hflag : chargeTime.chargeFlag = true) :
    (chargeTime.begin clock capacity).lower capacity = chargeTime.lower capacity := by
  simp [ChargeTime.begin, hflag]

theorem ChargeTime.calculate_charging (chargeTime : ChargeTime) {report : ChargeReport}
    (hcharging : report.Charging) :
    chargeTime.calculateRemainingChargeTime report.clock report.capacity report.chargeState =
      ((chargeTime.begin report.clock report.capacity).lower report.capacity).estimate report.clock
        report.capacity := by
  rw [calculateRemainingChargeTime, if_neg (Int.not_lt.mpr hcharging.1),
    if_neg (not_not.mpr hcharging.2)]

theorem ChargeTime.calculate_stops (chargeTime : ChargeTime) {report : ChargeReport}
    (hstops : report.Stops) :
    chargeTime.calculateRemainingChargeTime report.clock report.capacity report.chargeState =
      { chargeTime with remainTime := 0, chargeFlag := false } := by
  rw [calculateRemainingChargeTime, if_neg (Int.not_lt.mpr hstops.1), if_pos hstops.2]

theorem ChargeTime.calculate_reject (chargeTime : ChargeTime) {report : ChargeReport}
    (hfull : BATTERY_FULL_CAPACITY < report.capacity) :
    chargeTime.calculateRemainingChargeTime report.clock report.capacity report.chargeState =
      chargeTime := by
  rw [calculateRemainingChargeTime, if_pos hfull]

-- Once the session has begun, the reported capacity is a drop, a rise or neither.
theorem ChargeTime.lower_estimate_move {chargeTime : ChargeTime} {report : ChargeReport}
    (hcharging : report.Charging) (hflag : chargeTime.chargeFlag = true) :
    chargeTime.Move report
      ((chargeTime.lower report.capacity).estimate report.clock report.capacity) := by
  by_cases hdrop : report.capacity < chargeTime.lastCapacity
  · have hlower : (chargeTime.lower report.capacity).estimate report.clock report.capacity =
        { chargeTime with lastCapacity := report.capacity } := by
      simp [ChargeTime.lower, ChargeTime.estimate, hdrop]
    rw [hlower]
    exact .Drop hcharging hflag hdrop
  · have hlower : chargeTime.lower report.capacity = chargeTime := by
      simp [ChargeTime.lower, hdrop]
    rw [hlower]
    unfold estimate
    split
    · rename_i hrise
      exact .Rise hcharging hflag hrise.2.1 (by omega)
    · rename_i hstay
      refine .Stay hcharging hflag (Int.not_lt.mp hdrop) fun hlast => ?_
      have hnot : ¬1 ≤ report.capacity - chargeTime.lastCapacity :=
        fun hrise => hstay ⟨hrise, hlast, hflag⟩
      omega

theorem ChargeTime.calculate_move (chargeTime : ChargeTime) (report : ChargeReport) :
    chargeTime.Move report (chargeTime.calculateRemainingChargeTime report.clock report.capacity
      report.chargeState) := by
  by_cases haccepted : report.capacity ≤ BATTERY_FULL_CAPACITY
  · by_cases hstate : report.chargeState = .Enable
    · have hcharging : report.Charging := ⟨haccepted, hstate⟩
      rw [chargeTime.calculate_charging hcharging]
      cases hflag : chargeTime.chargeFlag with
      | false =>
          have hbegin : ((chargeTime.begin report.clock report.capacity).lower
              report.capacity).estimate report.clock report.capacity =
                { chargeTime with
                  lastCapacity := report.capacity, lastTime := report.clock.started,
                  chargeFlag := true } := by
            simp [ChargeTime.begin, ChargeTime.lower, ChargeTime.estimate, hflag]
          rw [hbegin]
          exact .Begin hcharging hflag
      | true =>
          rw [lower_begin_of_flag hflag]
          exact lower_estimate_move hcharging hflag
    · have hstops : report.Stops := ⟨haccepted, hstate⟩
      rw [chargeTime.calculate_stops hstops]
      exact .Stop hstops
  · have hfull : BATTERY_FULL_CAPACITY < report.capacity := Int.not_le.mp haccepted
    rw [chargeTime.calculate_reject hfull]
    exact .Reject hfull

theorem chargeTimeAfter_move (history : List ChargeReport) (report : ChargeReport) :
    (chargeTimeAfter history).Move report (chargeTimeAfter (history ++ [report])) := by
  rw [chargeTimeAfter_concat]
  exact (chargeTimeAfter history).calculate_move report

theorem ChargeReport.Charging.not_stops {report : ChargeReport} (hcharging : report.Charging) :
    ¬report.Stops :=
  fun hstops => hstops.2 hcharging.2

-- A report belongs to its own session.
theorem inSession_self {p : ChargeReport → Prop} {history : List ChargeReport} {report : ChargeReport}
    (hcharging : report.Charging) (hp : p report) : InSession p (history ++ [report]) :=
  (since_concat _ _ _ _).mpr (.inl ⟨hcharging, hp⟩)

theorem InSession.concat {p : ChargeReport → Prop} {history : List ChargeReport} {report : ChargeReport}
    (hsession : InSession p history) (hgoes : ¬report.Stops) : InSession p (history ++ [report]) :=
  (since_concat _ _ _ _).mpr (.inr ⟨hsession, hgoes⟩)

theorem not_stops_of_reject {report : ChargeReport} (hfull : BATTERY_FULL_CAPACITY < report.capacity) :
    ¬report.Stops :=
  fun hstops => Int.not_le.mpr hfull hstops.1

end BatteryManager
