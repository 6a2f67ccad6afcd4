import BatteryManager.ChargeTime.Lemmas
import BatteryManager.Library.Edge
import Mathlib.Data.List.DropRight

namespace BatteryManager

open Library

instance (report : ChargeReport) : Decidable report.Charging :=
  inferInstanceAs (Decidable (_ ∧ _))

instance (report : ChargeReport) : Decidable report.Stops :=
  inferInstanceAs (Decidable (_ ∧ _))

-- The reports of the charging session that the history ends in.
def session (history : List ChargeReport) : List ChargeReport :=
  (history.rtakeWhile fun report => !decide report.Stops).filter fun report => report.Charging

-- A report above the one before it. Below zero no capacity rises any more.
def Rises (session : List ChargeReport) (report : ChargeReport) : Prop :=
  (∃ last ∈ session.getLast?, last.capacity < report.capacity) ∧
    ∀ earlier ∈ session, 0 ≤ earlier.capacity

-- A report below the one before it, and below all that are below zero.
def Falls (session : List ChargeReport) (report : ChargeReport) : Prop :=
  (∃ last ∈ session.getLast?, report.capacity < last.capacity) ∧
    ∀ earlier ∈ session, earlier.capacity < 0 → report.capacity < earlier.capacity

instance (session : List ChargeReport) (report : ChargeReport) : Decidable (Rises session report) :=
  inferInstanceAs (Decidable (_ ∧ _))

-- The time of the last rise of a session, or else that of its first report.
def measuredSince (session : List ChargeReport) : Option Int :=
  ((filterPast (fun past report => decide (Rises past report)) [] session).getLast?.map
    fun report => report.clock.rebased).or
      (session.head?.map fun report => report.clock.started)

theorem session_concat (history : List ChargeReport) (report : ChargeReport) :
    session (history ++ [report]) =
      if report.Stops then [] else if report.Charging then session history ++ [report]
      else session history := by
  unfold session
  by_cases hstops : report.Stops
  · simp [hstops]
  · by_cases hcharging : report.Charging <;> simp [hstops, hcharging]

theorem session_of_charging {history : List ChargeReport} {report : ChargeReport}
    (hcharging : report.Charging) : session (history ++ [report]) = session history ++ [report] := by
  rw [session_concat, if_neg hcharging.not_stops, if_pos hcharging]

-- To be observed in the session is to be one of its reports.
theorem inSession_iff (p : ChargeReport → Prop) (history : List ChargeReport) :
    InSession p history ↔ ∃ report ∈ session history, p report := by
  induction history using List.reverseRecOn with
  | nil => simp [InSession, session]
  | append_singleton before report ih =>
      unfold InSession at ih ⊢
      rw [since_concat, ih, session_concat]
      by_cases hcharging : report.Charging
      · have hgoes := hcharging.not_stops
        simp only [hcharging, hgoes, true_and, not_false_eq_true, and_true, if_false, if_true,
          List.mem_append, List.mem_singleton]
        constructor
        · rintro (hp | ⟨earlier, hearlier, hp⟩)
          · exact ⟨report, .inr rfl, hp⟩
          · exact ⟨earlier, .inl hearlier, hp⟩
        · rintro ⟨earlier, hearlier | rfl, hp⟩
          · exact .inr ⟨earlier, hearlier, hp⟩
          · exact .inl hp
      · by_cases hstops : report.Stops <;> simp [hcharging, hstops]

theorem measuredSince_concat (session : List ChargeReport) (report : ChargeReport) :
    measuredSince (session ++ [report]) =
      if Rises session report then some report.clock.rebased
      else (measuredSince session).or (some report.clock.started) := by
  unfold measuredSince
  rw [filterPast_concat, List.nil_append]
  by_cases hrises : Rises session report
  · simp [hrises]
  · cases session <;> simp [hrises]

-- A session is measured from its latest capacity, and from its lowest one once
-- that is below zero.
def Level (session : List ChargeReport) (capacity : Int) : Prop :=
  ((∀ earlier ∈ session, 0 ≤ earlier.capacity) ∧
    ∃ last ∈ session.getLast?, last.capacity = capacity) ∨
  capacity < 0 ∧ (∃ earlier ∈ session, earlier.capacity = capacity) ∧
    ∀ earlier ∈ session, capacity ≤ earlier.capacity

section Level

variable {session : List ChargeReport} {capacity : Int} {report : ChargeReport}

theorem level_single (report : ChargeReport) : Level [report] report.capacity := by
  by_cases hbelow : report.capacity < 0
  · exact .inr ⟨hbelow, ⟨report, by simp, rfl⟩, by simp⟩
  · exact .inl ⟨by simpa using hbelow, report, by simp, rfl⟩

theorem Level.rises_iff (hlevel : Level session capacity) :
    Rises session report ↔ 0 ≤ capacity ∧ capacity < report.capacity := by
  unfold Rises
  rcases hlevel with ⟨habove, last, hlast, rfl⟩ | ⟨hbelow, ⟨lowest, hlowest, rfl⟩, -⟩
  · have hnonneg := habove last (List.mem_of_getLast? hlast)
    constructor
    · rintro ⟨⟨other, hother, hrise⟩, -⟩
      cases Option.mem_unique hlast hother
      exact ⟨hnonneg, hrise⟩
    · rintro ⟨-, hrise⟩
      exact ⟨⟨last, hlast, hrise⟩, habove⟩
  · constructor
    · rintro ⟨-, habove⟩
      exact absurd (habove lowest hlowest) (Int.not_le.mpr hbelow)
    · rintro ⟨hnonneg, -⟩
      exact absurd hnonneg (Int.not_le.mpr hbelow)

theorem Level.falls_iff (hlevel : Level session capacity) :
    Falls session report ↔ report.capacity < capacity := by
  unfold Falls
  rcases hlevel with ⟨habove, last, hlast, rfl⟩ | ⟨hbelow, ⟨lowest, hlowest, rfl⟩, hleast⟩
  · constructor
    · rintro ⟨⟨other, hother, hfall⟩, -⟩
      cases Option.mem_unique hlast hother
      exact hfall
    · intro hfall
      refine ⟨⟨last, hlast, hfall⟩, fun earlier hearlier hnegative => ?_⟩
      exact absurd (habove earlier hearlier) (Int.not_le.mpr hnegative)
  · constructor
    · rintro ⟨-, hunder⟩
      exact hunder lowest hlowest hbelow
    · intro hfall
      obtain ⟨last, hlast⟩ := Option.isSome_iff_exists.mp
        (List.getLast?_isSome.mpr (List.ne_nil_of_mem hlowest))
      have hunder : ∀ earlier ∈ session, report.capacity < earlier.capacity :=
        fun earlier hearlier => Int.lt_of_lt_of_le hfall (hleast earlier hearlier)
      exact ⟨⟨last, hlast, hunder last (List.mem_of_getLast? hlast)⟩,
        fun earlier hearlier _ => hunder earlier hearlier⟩

theorem Level.concat_lower (hlevel : Level session capacity) (hlower : report.capacity < capacity) :
    Level (session ++ [report]) report.capacity := by
  by_cases hbelow : report.capacity < 0
  · refine .inr ⟨hbelow, ⟨report, by simp, rfl⟩, fun earlier hearlier => ?_⟩
    rcases List.mem_append.mp hearlier with hold | hnew
    · rcases hlevel with ⟨habove, -⟩ | ⟨-, -, hleast⟩
      · exact Int.le_of_lt (Int.lt_of_lt_of_le hbelow (habove earlier hold))
      · exact Int.le_trans (Int.le_of_lt hlower) (hleast earlier hold)
    · exact Int.le_of_eq (by rw [List.mem_singleton.mp hnew])
  · rcases hlevel with ⟨habove, -⟩ | ⟨hnegative, -⟩
    · refine .inl ⟨fun earlier hearlier => ?_, report, by simp, rfl⟩
      rcases List.mem_append.mp hearlier with hold | hnew
      · exact habove earlier hold
      · rw [List.mem_singleton.mp hnew]
        exact Int.not_lt.mp hbelow
    · exact absurd (Int.lt_trans hlower hnegative) hbelow

-- At or above zero the level is always that of the last report.
theorem Level.concat_above (hlevel : Level session capacity) (hnonneg : 0 ≤ capacity)
    (hgrows : capacity ≤ report.capacity) : Level (session ++ [report]) report.capacity := by
  rcases hlevel with ⟨habove, -⟩ | ⟨hnegative, -⟩
  · refine .inl ⟨fun earlier hearlier => ?_, report, by simp, rfl⟩
    rcases List.mem_append.mp hearlier with hold | hnew
    · exact habove earlier hold
    · rw [List.mem_singleton.mp hnew]
      exact Int.le_trans hnonneg hgrows
  · exact absurd hnonneg (Int.not_le.mpr hnegative)

theorem Level.concat_below (hlevel : Level session capacity) (hnegative : capacity < 0)
    (hgrows : capacity ≤ report.capacity) : Level (session ++ [report]) capacity := by
  rcases hlevel with ⟨habove, last, hlast, rfl⟩ | ⟨-, ⟨lowest, hlowest, rfl⟩, hleast⟩
  · exact absurd (habove last (List.mem_of_getLast? hlast)) (Int.not_le.mpr hnegative)
  · refine .inr ⟨hnegative, ⟨lowest, by simp [hlowest], rfl⟩, fun earlier hearlier => ?_⟩
    rcases List.mem_append.mp hearlier with hold | hnew
    · exact hleast earlier hold
    · rw [List.mem_singleton.mp hnew]
      exact hgrows

end Level

-- While a session lasts, the members hold where and when it is measured from.
structure MeasuresSession (session : List ChargeReport) (chargeTime : ChargeTime) : Prop where
  opened : chargeTime.chargeFlag = true ↔ session ≠ []
  level : chargeTime.chargeFlag = true → Level session chargeTime.lastCapacity
  since : chargeTime.chargeFlag = true → measuredSince session = some chargeTime.lastTime

theorem MeasuresSession.move {session : List ChargeReport} {chargeTime next : ChargeTime}
    {report : ChargeReport} (hbefore : MeasuresSession session chargeTime)
    (hmove : chargeTime.Move report next) (hcharging : report.Charging) :
    MeasuresSession (session ++ [report]) next := by
  have hlast : ∀ hflag : chargeTime.chargeFlag = true, measuredSince (session ++ [report]) =
      some (if Rises session report then report.clock.rebased else chargeTime.lastTime) := by
    intro hflag
    rw [measuredSince_concat, hbefore.since hflag]
    split <;> rfl
  cases hmove with
  | Reject hfull => exact absurd hcharging.1 (Int.not_le.mpr hfull)
  | Stop hstops => exact absurd hstops hcharging.not_stops
  | Begin _ hflag =>
      have hnil : session = [] := by
        by_contra hne
        rw [hbefore.opened.mpr hne] at hflag
        cases hflag
      subst hnil
      refine ⟨by simp, fun _ => level_single report, fun _ => ?_⟩
      simp [Rises, measuredSince, filterPast]
  | Drop _ hflag hlower =>
      have hlevel := hbefore.level hflag
      refine ⟨by simp [hflag], fun _ => hlevel.concat_lower hlower, fun _ => ?_⟩
      rw [hlast hflag, if_neg fun hrises => ?_]
      exact Int.lt_asymm hlower (hlevel.rises_iff.mp hrises).2
  | Rise _ hflag hnonneg hrise =>
      have hlevel := hbefore.level hflag
      refine ⟨by simp [hflag], fun _ => hlevel.concat_above hnonneg (Int.le_of_lt hrise), fun _ => ?_⟩
      rw [hlast hflag, if_pos (hlevel.rises_iff.mpr ⟨hnonneg, hrise⟩)]
  | Stay _ hflag hle hsame =>
      have hlevel := hbefore.level hflag
      refine ⟨by simp [hflag], fun _ => ?_, fun _ => ?_⟩
      · by_cases hnonneg : 0 ≤ chargeTime.lastCapacity
        · have habove := hlevel.concat_above hnonneg hle
          rwa [hsame hnonneg] at habove
        · exact hlevel.concat_below (Int.not_le.mp hnonneg) hle
      · rw [hlast hflag, if_neg fun hrises => ?_]
        obtain ⟨hnonneg, hrise⟩ := hlevel.rises_iff.mp hrises
        exact Int.ne_of_lt hrise (hsame hnonneg).symm

theorem measuresSession (history : List ChargeReport) :
    MeasuresSession (session history) (chargeTimeAfter history) := by
  induction history using List.reverseRecOn with
  | nil => exact ⟨by simp [session], (nomatch ·), (nomatch ·)⟩
  | append_singleton before report ih =>
      have hmove := chargeTimeAfter_move before report
      by_cases hcharging : report.Charging
      · rw [session_of_charging hcharging]
        exact ih.move hmove hcharging
      · rw [session_concat]
        generalize chargeTimeAfter (before ++ [report]) = next at hmove ⊢
        cases hmove with
        | Reject hfull => rwa [if_neg (not_stops_of_reject hfull), if_neg hcharging]
        | Stop hstops =>
            rw [if_pos hstops]
            exact ⟨by simp, (nomatch ·), (nomatch ·)⟩
        | Begin hcharges => exact absurd hcharges hcharging
        | Drop hcharges => exact absurd hcharges hcharging
        | Rise hcharges => exact absurd hcharges hcharging
        | Stay hcharges => exact absurd hcharges hcharging

end BatteryManager
