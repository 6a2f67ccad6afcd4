import BatteryManager.Hibernate.Lemmas
import BatteryManager.Library.Run
import BatteryManager.Service.Lemmas

namespace BatteryManager

open Library

variable {F : Ffrt}

-- What can happen to the delayed hibernation of the build that defines
-- `BATTERY_MANAGER_SET_LOW_CAPACITY_THRESHOLD`.
inductive ThresholdLabel
  | Report (info : BatteryInfo) (env : ReportEnv)
  | ExpireTimer (isInExtremePowerSaveMode : Bool)
  | ReceiveEvent (action : String)
  | Interface (present : Bool)
  | Reset (event : HdiBatteryInfo) (chargeType : Option Nat) (env : ReportEnv)

namespace ThresholdLabel

def reported : ThresholdLabel → Option BatteryInfo
  | .Report info _ => some info
  | _ => none

def isReset : ThresholdLabel → Bool
  | .Reset _ _ _ => true
  | _ => false

-- The power manager gives the running lock that the label asks for.
def createsRunningLock : ThresholdLabel → Bool
  | .Report _ env => env.runningLockCreated
  | .Reset _ _ env => env.runningLockCreated
  | _ => true

def isInterface (wanted : Bool) : ThresholdLabel → Bool
  | .Interface present => present = wanted
  | _ => false

end ThresholdLabel

def thresholdStep (config : BatteryConfig) (service : BatteryService F) :
    ThresholdLabel → Option (BatteryService F × List Effect)
  | .Report info env => some (service.report .SetLowCapacityThreshold config env info)
  | .ExpireTimer isInExtremePowerSaveMode =>
      (service.delayHibernate.expire isInExtremePowerSaveMode).map fun ran =>
        ({ service with delayHibernate := ran.1 }, ran.2)
  | .ReceiveEvent action =>
      some ({ service with delayHibernate := service.delayHibernate.onReceiveEvent action }, [])
  | .Interface present => some ({ service with interface := present }, [])
  | .Reset event chargeType env =>
      some (service.reset .SetLowCapacityThreshold config env event chargeType)

abbrev ThresholdRun (config : BatteryConfig) (enableS4 : Bool) :
    List ThresholdLabel → BatteryService F → List Effect → Prop :=
  Run (thresholdStep config) (.init .SetLowCapacityThreshold config enableS4)

def lastReport (history : List ThresholdLabel) : Option BatteryInfo :=
  (history.filterMap ThresholdLabel.reported).getLast?

-- What a report does to the timer, when `previous` is the report before it.
def TimerFollows (threshold : Int) (previous : Option BatteryInfo) (info : BatteryInfo)
    (service : BatteryService F) : Prop :=
  (info.capacity ≤ threshold → info.present = true → isCharging info.chargeState = false →
    (∀ last ∈ previous, info.capacity ≤ last.capacity) →
    service.delayHibernate.isDelayHibernateTimerValid = true) ∧
  (info.present = true ∧ isCharging info.chargeState = true ∨
      (∃ last ∈ previous, last.capacity < info.capacity) →
    service.delayHibernate.isDelayHibernateTimerValid = false)

section Capacity

variable {config : BatteryConfig} {enableS4 : Bool} {history : List ThresholdLabel}
  {service : BatteryService F} {log : List Effect}

-- Without a reset the timer object stays, and the service compares with the
-- capacity of the last report, or with -1 when there is none.
structure TimerInvariant (config : BatteryConfig) (history : List ThresholdLabel)
    (service : BatteryService F) : Prop where
  threshold : service.thresholds.shutdown = (initThresholds config).shutdown
  timer : service.delayHibernate.ffrtTimer.isSome = true
  lastCapacity : service.lastBatteryInfo.capacity =
    ((lastReport history).map BatteryInfo.capacity).getD INVALID_BATT_INT_VALUE

theorem lastReport_concat (history : List ThresholdLabel) (label : ThresholdLabel) :
    lastReport (history ++ [label]) = label.reported.or (lastReport history) := by
  unfold lastReport
  cases hreported : label.reported <;> simp [hreported]

theorem timerInvariant_step (hinv : TimerInvariant config history service) (label : ThresholdLabel)
    (hreset : label.isReset = false) {next : BatteryService F} {out : List Effect}
    (hstep : thresholdStep config service label = some (next, out)) :
    TimerInvariant config (history ++ [label]) next := by
  cases label with
  | Report info env =>
      obtain rfl : (service.report .SetLowCapacityThreshold config env info).1 = next :=
        congrArg Prod.fst (Option.some.inj hstep)
      obtain ⟨uevent, hlast⟩ :=
        service.report_lastBatteryInfo config env info .SetLowCapacityThreshold
      constructor
      · rw [BatteryService.report_thresholds, hinv.threshold]
      · rw [BatteryService.report_delayHibernate, DelayHibernate.handleCapacityExt_isSome, hinv.timer]
      · rw [hlast, lastReport_concat]
        rfl
  | ExpireTimer extreme =>
      obtain ⟨ran, hexpire, hnext⟩ := Option.map_eq_some_iff.mp hstep
      cases hnext
      obtain ⟨-, hsome⟩ := DelayHibernate.expire_paired hexpire
      exact ⟨hinv.threshold, hsome.trans hinv.timer, by rw [lastReport_concat]; exact hinv.lastCapacity⟩
  | ReceiveEvent action =>
      cases hstep
      exact ⟨hinv.threshold, (DelayHibernate.onReceiveEvent_isSome action _).trans hinv.timer,
        by rw [lastReport_concat]; exact hinv.lastCapacity⟩
  | Interface present =>
      cases hstep
      exact ⟨hinv.threshold, hinv.timer, by rw [lastReport_concat]; exact hinv.lastCapacity⟩
  | Reset event chargeType env => cases hreset

theorem timerInvariant_run (hrun : ThresholdRun config enableS4 history service log)
    (hreset : ∀ label ∈ history, label.isReset = false) : TimerInvariant config history service := by
  induction hrun with
  | nil => exact ⟨rfl, rfl, rfl⟩
  | snoc label _ hstep ih =>
      have hbefore := ih fun earlier hm => hreset earlier (List.mem_append_left _ hm)
      exact timerInvariant_step hbefore label (hreset label (by simp)) hstep

-- The first low report after boot arms the timer, and the second test then
-- clears it, because the capacity is above the -1 of `lastBatteryInfo_`.
theorem timerFollows_iff (hrun : ThresholdRun config enableS4 history service log)
    (hreset : ∀ label ∈ history, label.isReset = false) (info : BatteryInfo) (env : ReportEnv) :
    TimerFollows (initThresholds config).shutdown (lastReport history) info
        (service.report .SetLowCapacityThreshold config env info).1 ↔
      ¬(lastReport history = none ∧ info.capacity ≤ (initThresholds config).shutdown ∧
        info.present = true ∧ isCharging info.chargeState = false ∧
        INVALID_BATT_INT_VALUE < info.capacity) := by
  obtain ⟨hthreshold, htimer, hlast⟩ := timerInvariant_run hrun hreset
  have hvalid := DelayHibernate.handleCapacityExt_valid env.runningLockCreated
    service.thresholds.shutdown service.lastBatteryInfo.capacity info.capacity info.chargeState
    info.present service.delayHibernate htimer
  rw [← BatteryService.report_delayHibernate config env info service, hthreshold, hlast] at hvalid
  rw [TimerFollows, hvalid]
  cases lastReport history with
  | none =>
      constructor
      · rintro hfollows ⟨-, hlow, hpresent, hcharging, habove⟩
        have harmed := hfollows.1 hlow hpresent hcharging (by simp)
        simp [habove] at harmed
      · intro hnot
        refine ⟨fun hlow hpresent hcharging _ => ?_, ?_⟩
        · have hbelow : ¬INVALID_BATT_INT_VALUE < info.capacity :=
            fun habove => hnot ⟨rfl, hlow, hpresent, hcharging, habove⟩
          simp [hlow, hpresent, hcharging, hbelow]
        · rintro (⟨hpresent, hcharging⟩ | ⟨last, hlast, -⟩)
          · simp [hpresent, hcharging]
          · cases hlast
  | some last =>
      refine iff_of_true ⟨fun hlow hpresent hcharging hle => ?_, ?_⟩ (by simp)
      · have hle : ¬last.capacity < info.capacity := Int.not_lt.mpr (hle last rfl)
        simp [hlow, hpresent, hcharging, hle]
      · rintro (⟨hpresent, hcharging⟩ | ⟨_, hlast, hlt⟩)
        · simp [hpresent, hcharging]
        · cases hlast
          simp [hlt]

end Capacity

def shippedThresholdExec (history : List ThresholdLabel) :
    Option (BatteryService ticketFfrt × List Effect) :=
  exec (thresholdStep shippedConfig) (.init .SetLowCapacityThreshold shippedConfig true) history

theorem shippedThreshold_run (history : List ThresholdLabel)
    (henabled : (shippedThresholdExec history).isSome = true) :
    ThresholdRun shippedConfig true history ((shippedThresholdExec history).get henabled).1
      ((shippedThresholdExec history).get henabled).2 :=
  exec_run _ _ history henabled

def dischargingInfo (capacity : Int) : BatteryInfo where
  capacity := capacity
  chargeState := .Disable

theorem timerFollows_iff_second :
    let last := (shippedThresholdExec [.Report (dischargingInfo 50) silentEnv]).get (by decide)
    TimerFollows 1 (some (dischargingInfo 50)) (dischargingInfo 1)
      (last.1.report .SetLowCapacityThreshold shippedConfig silentEnv (dischargingInfo 1)).1 := by
  have hrun := shippedThreshold_run [.Report (dischargingInfo 50) silentEnv] (by decide)
  refine (timerFollows_iff hrun (by decide) (dischargingInfo 1) silentEnv).mpr ?_
  rintro ⟨hnone, -⟩
  cases hnone

theorem not_timerFollows_first :
    ¬∀ (history : List ThresholdLabel) (service : BatteryService ticketFfrt) (log : List Effect)
        (info : BatteryInfo) (env : ReportEnv),
      ThresholdRun shippedConfig true history service log →
      (∀ label ∈ history, label.isReset = false) →
      TimerFollows (initThresholds shippedConfig).shutdown (lastReport history) info
        (service.report .SetLowCapacityThreshold shippedConfig env info).1 := by
  intro hfollows
  have harmed := (hfollows [] _ _ (dischargingInfo 1) silentEnv .nil (by simp)).1 (by decide) rfl rfl
    (by simp [lastReport])
  revert harmed
  decide

section Guard

variable {config : BatteryConfig} {enableS4 : Bool} {history : List ThresholdLabel}
  {service next : BatteryService F} {log out : List Effect}

def Registered : List ThresholdLabel → Prop :=
  Since (fun label => label.isInterface true = true) (fun label => label.isInterface false = true)

-- A reset that the service carries out, and does not refuse for want of an interface.
def ResetWhileRegistered : List ThresholdLabel → Prop :=
  Occurs fun before label => label.isReset = true ∧ Registered before

-- Every later report that asks for the timer gets it.
def Rearmable (config : BatteryConfig) (service : BatteryService F) : Prop :=
  ∀ info env, info.capacity ≤ service.thresholds.shutdown → info.present = true →
    isCharging info.chargeState = false → info.capacity ≤ service.lastBatteryInfo.capacity →
    (service.report .SetLowCapacityThreshold config env
      info).1.delayHibernate.isDelayHibernateTimerValid = true

structure GuardInvariant (history : List ThresholdLabel) (service : BatteryService F) : Prop where
  interface : service.interface = true ↔ Registered history
  timer : service.delayHibernate.ffrtTimer.isSome = true ↔ ¬ResetWhileRegistered history
  paired : service.delayHibernate.ffrtTimer.isSome = true → service.delayHibernate.Paired

theorem BatteryService.reset_unregistered (event : HdiBatteryInfo) (chargeType : Option Nat)
    (env : ReportEnv) (hinterface : service.interface = false) :
    service.reset .SetLowCapacityThreshold config env event chargeType = (service, []) := by
  simp [reset, hinterface]

theorem BatteryService.reset_registered (config : BatteryConfig) (service : BatteryService F)
    (event : HdiBatteryInfo) (chargeType : Option Nat) (env : ReportEnv) (hinterface : service.interface = true) :
    (service.reset .SetLowCapacityThreshold config env event chargeType).1.delayHibernate.ffrtTimer =
      none ∧
    (service.reset .SetLowCapacityThreshold config env event chargeType).1.interface = true := by
  simp [reset, hinterface, DelayHibernate.resetTimer]

theorem registered_concat (history : List ThresholdLabel) (label : ThresholdLabel)
    (hlabel : ∀ wanted, label.isInterface wanted = false) :
    Registered (history ++ [label]) ↔ Registered history := by
  simp [Registered, since_concat, hlabel]

-- A step that neither resets nor changes the interface.
theorem guardInvariant_keep (hinv : GuardInvariant history service) (label : ThresholdLabel)
    (hreset : label.isReset = false) (hlabel : ∀ wanted, label.isInterface wanted = false)
    (hinterface : next.interface = service.interface)
    (hsome : next.delayHibernate.ffrtTimer.isSome = service.delayHibernate.ffrtTimer.isSome)
    (hpaired : service.delayHibernate.ffrtTimer.isSome = true → next.delayHibernate.Paired) :
    GuardInvariant (history ++ [label]) next := by
  constructor
  · rw [hinterface, hinv.interface, registered_concat history label hlabel]
  · rw [hsome, hinv.timer]
    simp [ResetWhileRegistered, occurs_concat, hreset]
  · rw [hsome]
    exact hpaired

theorem guardInvariant_interface (hinv : GuardInvariant history service) (present : Bool) :
    GuardInvariant (history ++ [.Interface present]) { service with interface := present } := by
  constructor
  · cases present <;> simp [Registered, since_concat, ThresholdLabel.isInterface]
  · simp [hinv.timer, ResetWhileRegistered, occurs_concat, ThresholdLabel.isReset]
  · exact hinv.paired

theorem guardInvariant_reset (hinv : GuardInvariant history service) (event : HdiBatteryInfo)
    (chargeType : Option Nat) (env : ReportEnv) :
    GuardInvariant (history ++ [.Reset event chargeType env])
      (service.reset .SetLowCapacityThreshold config env event chargeType).1 := by
  cases hinterface : service.interface with
  | false =>
      have hregistered : ¬Registered history := by simp [← hinv.interface, hinterface]
      rw [service.reset_unregistered event chargeType env hinterface]
      constructor
      · rw [registered_concat _ _ fun _ => rfl, hinv.interface]
      · simp [hinv.timer, ResetWhileRegistered, occurs_concat, hregistered]
      · exact hinv.paired
  | true =>
      have hregistered : Registered history := hinv.interface.mp hinterface
      obtain ⟨hnone, hkept⟩ :=
        BatteryService.reset_registered config service event chargeType env hinterface
      constructor
      · rw [registered_concat _ _ fun _ => rfl, hkept]
        exact iff_of_true rfl hregistered
      · simp [hnone, ResetWhileRegistered, occurs_concat, ThresholdLabel.isReset, hregistered]
      · simp [hnone]

theorem guardInvariant_step (hinv : GuardInvariant history service) (label : ThresholdLabel)
    (hcreated : label.createsRunningLock = true)
    (hstep : thresholdStep config service label = some (next, out)) :
    GuardInvariant (history ++ [label]) next := by
  cases label with
  | Report info env =>
      obtain rfl : (service.report .SetLowCapacityThreshold config env info).1 = next :=
        congrArg Prod.fst (Option.some.inj hstep)
      have hcreated : env.runningLockCreated = true := hcreated
      refine guardInvariant_keep hinv _ rfl (fun _ => rfl)
        (service.report_interface config env info _) ?_ fun hsome => ?_
      · rw [BatteryService.report_delayHibernate, DelayHibernate.handleCapacityExt_isSome]
      · rw [BatteryService.report_delayHibernate, hcreated]
        exact DelayHibernate.handleCapacityExt_paired _ _ _ _ _ _ hsome (hinv.paired hsome)
  | ExpireTimer extreme =>
      obtain ⟨ran, hexpire, hnext⟩ := Option.map_eq_some_iff.mp hstep
      cases hnext
      obtain ⟨hpaired, hsome⟩ := DelayHibernate.expire_paired hexpire
      exact guardInvariant_keep hinv _ rfl (fun _ => rfl) rfl hsome fun _ => hpaired
  | ReceiveEvent action =>
      cases hstep
      refine guardInvariant_keep hinv _ rfl (fun _ => rfl) rfl ?_ fun hsome =>
        DelayHibernate.onReceiveEvent_paired action _ (hinv.paired hsome)
      exact DelayHibernate.onReceiveEvent_isSome action _
  | Interface present =>
      cases hstep
      exact guardInvariant_interface hinv present
  | Reset event chargeType env =>
      obtain rfl : (service.reset .SetLowCapacityThreshold config env event chargeType).1 = next :=
        congrArg Prod.fst (Option.some.inj hstep)
      exact guardInvariant_reset hinv event chargeType env

theorem guardInvariant_run (hrun : ThresholdRun config enableS4 history service log)
    (hcreated : ∀ label ∈ history, label.createsRunningLock = true) : GuardInvariant history service := by
  induction hrun with
  | nil =>
      constructor
      · simp [BatteryService.init, Registered]
      · simp [BatteryService.init, ResetWhileRegistered]
      · simp [BatteryService.init, DelayHibernate.Paired, DelayHibernate.isLocked,
          DelayHibernate.isDelayHibernateTimerValid]
  | snoc label _ hstep ih =>
      have hbefore := ih fun earlier hm => hcreated earlier (List.mem_append_left _ hm)
      exact guardInvariant_step hbefore label (hcreated label (by simp)) hstep

theorem rearmable_iff (service : BatteryService F) :
    Rearmable config service ↔ service.delayHibernate.ffrtTimer.isSome = true := by
  constructor
  · intro hrearm
    by_contra hnone
    have harmed := hrearm
      (dischargingInfo (min service.thresholds.shutdown service.lastBatteryInfo.capacity)) silentEnv
      (Int.min_le_left _ _) rfl rfl (Int.min_le_right _ _)
    rw [BatteryService.report_delayHibernate, DelayHibernate.valid_of_none] at harmed
    · cases harmed
    · rwa [← Option.not_isSome_iff_eq_none, DelayHibernate.handleCapacityExt_isSome]
  · intro hsome info env hlow hpresent hcharging hle
    have hle : ¬service.lastBatteryInfo.capacity < info.capacity := Int.not_lt.mpr hle
    rw [BatteryService.report_delayHibernate, DelayHibernate.handleCapacityExt_valid _ _ _ _ _ _ _ hsome]
    simp [hlow, hpresent, hcharging, hle]

-- `Reset` drops the timer object. The guard that the timer should have released
-- stays locked, and no later report can arm a timer.
theorem guardPaired_iff (hrun : ThresholdRun config enableS4 history service log)
    (hcreated : ∀ label ∈ history, label.createsRunningLock = true) :
    service.delayHibernate.Paired ∧ Rearmable config service ↔ ¬ResetWhileRegistered history := by
  have hinv := guardInvariant_run hrun hcreated
  rw [rearmable_iff, ← hinv.timer]
  exact ⟨fun h => h.2, fun hsome => ⟨hinv.paired hsome, hsome⟩⟩

end Guard

def armedHistory : List ThresholdLabel :=
  [.Interface true, .Report (dischargingInfo 50) silentEnv, .Report (dischargingInfo 1) silentEnv]

theorem guardPaired_iff_armed :
    let last := (shippedThresholdExec armedHistory).get (by decide)
    last.1.delayHibernate.Paired ∧ Rearmable shippedConfig last.1 := by
  have hrun := shippedThreshold_run armedHistory (by decide)
  refine (guardPaired_iff hrun (by decide)).mpr ?_
  rintro ⟨before, label, after, hsplit, hreset, -⟩
  have hnoreset : ∀ label ∈ armedHistory, label.isReset = false := by decide
  rw [hnoreset label (by simp [hsplit])] at hreset
  cases hreset

def dischargingEvent : HdiBatteryInfo where
  capacity := 1
  pluggedType := 0
  pluggedMaxCurrent := 0
  pluggedMaxVoltage := 0
  chargeState := 2
  voltage := 3300
  temperature := 250
  healthState := 1
  chargeCounter := 0
  totalEnergy := 0
  curAverage := 0
  remainEnergy := 0
  present := true
  technology := ""
  curNow := 0
  uevent := ""

-- The timer is armed when the service is reset.
theorem not_guardPaired_reset :
    ¬∀ (history : List ThresholdLabel) (service : BatteryService ticketFfrt) (log : List Effect),
      ThresholdRun shippedConfig true history service log →
      (∀ label ∈ history, label.createsRunningLock = true) →
      service.delayHibernate.Paired ∧ Rearmable shippedConfig service := by
  intro hpaired
  have hreset := (hpaired (armedHistory ++ [.Reset dischargingEvent none silentEnv]) _ _
    (exec_run _ _ _ (by decide)) (by decide)).1
  revert hreset
  unfold DelayHibernate.Paired
  decide

end BatteryManager
