import BatteryManager.Library.Run
import BatteryManager.LowCapacity.Lemmas
import BatteryManager.Service.Lemmas

namespace BatteryManager

open Library

variable {F : Ffrt}

-- What can happen to the low capacity protection of the default build. A report
-- is a call of `HandleBatteryInfo` with any content of `batteryInfo_`.
inductive DefaultLabel (F : Ffrt)
  | Report (info : BatteryInfo) (env : ReportEnv)
  | RunTask (handle : F.queue.Handle) (isInExtremePowerSaveMode : Bool)
  | Interface (present : Bool)

namespace DefaultLabel

def IsLowReport (threshold : Int) : DefaultLabel F → Prop
  | .Report info _ =>
      info.capacity ≤ threshold ∧ info.present = true ∧ isCharging info.chargeState = false
  | _ => False

instance (threshold : Int) (label : DefaultLabel F) : Decidable (label.IsLowReport threshold) :=
  match label with
  | .Report _ _ => inferInstanceAs (Decidable (_ ∧ _ ∧ _))
  | .RunTask _ _ => inferInstanceAs (Decidable False)
  | .Interface _ => inferInstanceAs (Decidable False)

def IsChargingReport : DefaultLabel F → Prop
  | .Report info _ => isCharging info.chargeState = true
  | _ => False

-- A task that ran in extreme power save mode, and so did nothing.
def IsSuppressedTask : DefaultLabel F → Prop
  | .RunTask _ isInExtremePowerSaveMode => isInExtremePowerSaveMode = true
  | _ => False

-- A task that ran in any other mode, and so requested the shutdown.
def IsRequestedTask : DefaultLabel F → Prop
  | .RunTask _ isInExtremePowerSaveMode => isInExtremePowerSaveMode = false
  | _ => False

def IsTask : DefaultLabel F → Prop
  | .RunTask _ _ => True
  | _ => False

end DefaultLabel

def defaultStep (config : BatteryConfig) (service : BatteryService F) :
    DefaultLabel F → Option (BatteryService F × List Effect)
  | .Report info env => some (service.report .Default config env info)
  | .RunTask handle isInExtremePowerSaveMode =>
      (service.lowCapacityShutdown.runTask handle isInExtremePowerSaveMode).map fun ran =>
        ({ service with lowCapacityShutdown := ran.1 }, ran.2)
  | .Interface present => some ({ service with interface := present }, [])

abbrev DefaultRun (config : BatteryConfig) (enableS4 : Bool) :
    List (DefaultLabel F) → BatteryService F → List Effect → Prop :=
  Run (defaultStep config) (.init .Default config enableS4)

-- A report submitted `handle`, and no charging report came after it.
def ArmedBy (config : BatteryConfig) (enableS4 : Bool) (handle : F.queue.Handle)
    (history : List (DefaultLabel F)) : Prop :=
  ∃ before report after service log next out,
    history = before ++ report :: after ∧ DefaultRun config enableS4 before service log ∧
    report.IsLowReport (initThresholds config).shutdown ∧
    defaultStep config service report = some (next, out) ∧
    handle ∉ service.lowCapacityShutdown.pending ∧ handle ∈ next.lowCapacityShutdown.pending ∧
    ∀ later ∈ after, ¬later.IsChargingReport

theorem ArmedBy.concat {config : BatteryConfig} {enableS4 : Bool} {handle : F.queue.Handle}
    {history : List (DefaultLabel F)} (harmed : ArmedBy config enableS4 handle history)
    {label : DefaultLabel F} (hlabel : ¬label.IsChargingReport) :
    ArmedBy config enableS4 handle (history ++ [label]) := by
  obtain ⟨before, report, after, service, log, next, out, rfl, hrun, hlow, hstep, hfresh, hm, hafter⟩ :=
    harmed
  refine ⟨before, report, after ++ [label], service, log, next, out, by simp, hrun, hlow, hstep,
    hfresh, hm, ?_⟩
  intro later hl
  rcases List.mem_append.mp hl with hl | hl
  · exact hafter later hl
  · cases List.mem_singleton.mp hl
    exact hlabel

-- The effect of one step on the protection.
theorem defaultStep_cases {config : BatteryConfig} {service next : BatteryService F}
    {label : DefaultLabel F} {out : List Effect} (hstep : defaultStep config service label = some (next, out)) :
    next.thresholds = service.thresholds ∧
    ((∃ info env, label = .Report info env ∧ .ShutDownDevice LOW_CAPACITY ∉ out ∧
        next.lowCapacityShutdown = handleCapacity service.thresholds.shutdown info.capacity
          info.chargeState info.present service.lowCapacityShutdown) ∨
      (∃ handle isInExtremePowerSaveMode, label = .RunTask handle isInExtremePowerSaveMode ∧
        handle ∈ service.lowCapacityShutdown.pending ∧
        out = lowCapacityTask isInExtremePowerSaveMode ∧
        next.lowCapacityShutdown.handle = service.lowCapacityShutdown.handle ∧
        next.lowCapacityShutdown.pending = service.lowCapacityShutdown.pending.erase handle) ∨
      (∃ present, label = .Interface present ∧ out = [] ∧
        next.lowCapacityShutdown = service.lowCapacityShutdown)) := by
  cases label with
  | Report info env =>
      cases hstep
      exact ⟨service.report_thresholds config env info .Default,
        .inl ⟨info, env, rfl, service.report_no_lowCapacity config env info .Default,
          service.report_lowCapacityShutdown config env info⟩⟩
  | RunTask handle isInExtremePowerSaveMode =>
      simp only [defaultStep, LowCapacityShutdown.runTask, Option.map_eq_some_iff] at hstep
      obtain ⟨ran, hran, hnext⟩ := hstep
      split at hran
      · rename_i hpending
        cases hran
        cases hnext
        refine ⟨rfl, .inr (.inl ⟨handle, isInExtremePowerSaveMode, rfl, hpending, rfl, rfl, ?_⟩)⟩
        exact F.queue.pending_run _ _
      · cases hran
  | Interface present =>
      cases hstep
      exact ⟨rfl, .inr (.inr ⟨present, rfl, rfl, rfl⟩)⟩

-- A task that has run leaves a stale handle behind, and only a charging report
-- clears it.
structure ShutdownInvariant (config : BatteryConfig) (enableS4 : Bool)
    (history : List (DefaultLabel F)) (service : BatteryService F) (log : List Effect) : Prop where
  threshold : service.thresholds.shutdown = (initThresholds config).shutdown
  owns : service.lowCapacityShutdown.HandleOwns
  armed : ∀ handle ∈ service.lowCapacityShutdown.pending, ArmedBy config enableS4 handle history
  requested : .ShutDownDevice LOW_CAPACITY ∈ log ↔ ∃ label ∈ history, label.IsRequestedTask
  stale : service.lowCapacityShutdown.handle ≠ none ∧ service.lowCapacityShutdown.pending = ∅ ↔
    Since DefaultLabel.IsTask DefaultLabel.IsChargingReport history

theorem shutdownInvariant_start (config : BatteryConfig) (enableS4 : Bool) :
    ShutdownInvariant (F := F) config enableS4 [] (.init .Default config enableS4) [] where
  threshold := rfl
  owns := by
    intro handle hm
    simp [LowCapacityShutdown.pending, BatteryService.init] at hm
  armed := by
    intro handle hm
    simp [LowCapacityShutdown.pending, BatteryService.init] at hm
  requested := by simp
  stale := by simp [BatteryService.init]

section Step

variable {config : BatteryConfig} {enableS4 : Bool} {history : List (DefaultLabel F)}
  {service next : BatteryService F} {log out : List Effect}

theorem shutdownInvariant_charging (hinv : ShutdownInvariant config enableS4 history service log)
    (info : BatteryInfo) (env : ReportEnv) (hcharging : isCharging info.chargeState = true)
    (hthreshold : next.thresholds = service.thresholds) (hout : .ShutDownDevice LOW_CAPACITY ∉ out)
    (hnext : next.lowCapacityShutdown = handleCapacity service.thresholds.shutdown info.capacity
      info.chargeState info.present service.lowCapacityShutdown) :
    ShutdownInvariant config enableS4 (history ++ [.Report info env]) next (log ++ out) := by
  obtain ⟨hhandle, hpending⟩ : next.lowCapacityShutdown.handle = none ∧
      next.lowCapacityShutdown.pending = ∅ := by
    rw [hnext]
    exact handleCapacity_charging hcharging hinv.owns
  constructor
  · rw [hthreshold, hinv.threshold]
  · intro handle hm
    simp [hpending] at hm
  · intro handle hm
    simp [hpending] at hm
  · simp [hinv.requested, hout, DefaultLabel.IsRequestedTask]
  · simp [since_concat, hhandle, DefaultLabel.IsTask, DefaultLabel.IsChargingReport, hcharging]

theorem shutdownInvariant_submit (hinv : ShutdownInvariant config enableS4 history service log)
    (hrun : DefaultRun config enableS4 history service log) (info : BatteryInfo) (env : ReportEnv)
    (hstep : defaultStep config service (.Report info env) = some (next, out))
    (hcharging : isCharging info.chargeState = false)
    (hlow : info.capacity ≤ service.thresholds.shutdown) (hpresent : info.present = true)
    (hnone : service.lowCapacityShutdown.handle = none)
    (hthreshold : next.thresholds = service.thresholds) (hout : .ShutDownDevice LOW_CAPACITY ∉ out)
    (hnext : next.lowCapacityShutdown = handleCapacity service.thresholds.shutdown info.capacity
      info.chargeState info.present service.lowCapacityShutdown) :
    ShutdownInvariant config enableS4 (history ++ [.Report info env]) next (log ++ out) := by
  rw [handleCapacity_submit hcharging hlow hpresent hnone] at hnext
  have hempty : service.lowCapacityShutdown.pending = ∅ := hinv.owns.pending_none hnone
  have hpending : next.lowCapacityShutdown.pending =
      {(F.queue.submit service.lowCapacityShutdown.tasks).2} := by
    rw [hnext, LowCapacityShutdown.submit_pending, hempty]
    rfl
  have hnostale : ¬Since DefaultLabel.IsTask DefaultLabel.IsChargingReport history :=
    fun h => (hinv.stale.mpr h).1 hnone
  constructor
  · rw [hthreshold, hinv.threshold]
  · intro handle hm
    rw [hpending, Finset.mem_singleton] at hm
    rw [hnext, hm, LowCapacityShutdown.submit]
  · intro handle hm
    refine ⟨history, .Report info env, [], service, log, next, out, rfl, hrun, ?_, hstep, ?_, hm, ?_⟩
    · exact ⟨hinv.threshold ▸ hlow, hpresent, hcharging⟩
    · simp [hempty]
    · simp
  · simp [hinv.requested, hout, DefaultLabel.IsRequestedTask]
  · simp [since_concat, hpending, hnostale, DefaultLabel.IsTask]

theorem shutdownInvariant_keep (hinv : ShutdownInvariant config enableS4 history service log)
    (label : DefaultLabel F) (hcharging : ¬label.IsChargingReport) (htask : ¬label.IsTask)
    (hrequested : ¬label.IsRequestedTask) (hthreshold : next.thresholds = service.thresholds)
    (hout : .ShutDownDevice LOW_CAPACITY ∉ out)
    (hnext : next.lowCapacityShutdown = service.lowCapacityShutdown) :
    ShutdownInvariant config enableS4 (history ++ [label]) next (log ++ out) := by
  constructor
  · rw [hthreshold, hinv.threshold]
  · rw [hnext]
    exact hinv.owns
  · intro handle hm
    rw [hnext] at hm
    exact (hinv.armed handle hm).concat hcharging
  · simp [hinv.requested, hout, or_and_right, exists_or, hrequested]
  · simp [since_concat, hnext, hinv.stale, hcharging, htask]

theorem shutdownInvariant_task (hinv : ShutdownInvariant config enableS4 history service log)
    (handle : F.queue.Handle) (isInExtremePowerSaveMode : Bool)
    (hm : handle ∈ service.lowCapacityShutdown.pending)
    (hthreshold : next.thresholds = service.thresholds)
    (hhandle : next.lowCapacityShutdown.handle = service.lowCapacityShutdown.handle)
    (hpending : next.lowCapacityShutdown.pending = service.lowCapacityShutdown.pending.erase handle) :
    ShutdownInvariant config enableS4 (history ++ [.RunTask handle isInExtremePowerSaveMode]) next
      (log ++ lowCapacityTask isInExtremePowerSaveMode) := by
  have hsome : service.lowCapacityShutdown.handle = some handle := hinv.owns handle hm
  have hempty : next.lowCapacityShutdown.pending = ∅ := by rw [hpending, hinv.owns.erase hsome]
  constructor
  · rw [hthreshold, hinv.threshold]
  · intro other hother
    simp [hempty] at hother
  · intro other hother
    simp [hempty] at hother
  · cases isInExtremePowerSaveMode <;>
      simp [hinv.requested, lowCapacityTask, DefaultLabel.IsRequestedTask, or_and_right, exists_or]
  · simp [since_concat, hhandle, hsome, hempty, DefaultLabel.IsTask]

theorem shutdownInvariant_step (hinv : ShutdownInvariant config enableS4 history service log)
    (hrun : DefaultRun config enableS4 history service log) (label : DefaultLabel F)
    (hstep : defaultStep config service label = some (next, out)) :
    ShutdownInvariant config enableS4 (history ++ [label]) next (log ++ out) := by
  obtain ⟨hthreshold, ⟨info, env, rfl, hout, hnext⟩ | ⟨handle, extreme, rfl, hm, rfl, hhandle, hpending⟩ |
    ⟨present, rfl, rfl, hnext⟩⟩ := defaultStep_cases hstep
  · cases hcharging : isCharging info.chargeState with
    | true => exact shutdownInvariant_charging hinv info env hcharging hthreshold hout hnext
    | false =>
        by_cases hlow : info.capacity ≤ service.thresholds.shutdown ∧ info.present = true ∧
            service.lowCapacityShutdown.handle = none
        · exact shutdownInvariant_submit hinv hrun info env hstep hcharging hlow.1 hlow.2.1 hlow.2.2
            hthreshold hout hnext
        · rw [handleCapacity_keep hcharging hlow] at hnext
          exact shutdownInvariant_keep hinv _ (by simp [DefaultLabel.IsChargingReport, hcharging])
            id id hthreshold hout hnext
  · exact shutdownInvariant_task hinv handle extreme hm hthreshold hhandle hpending
  · exact shutdownInvariant_keep hinv _ id id id hthreshold (by simp) hnext

theorem shutdownInvariant_run (hrun : DefaultRun config enableS4 history service log) :
    ShutdownInvariant config enableS4 history service log :=
  hrun.history_invariant (ShutdownInvariant config enableS4) (shutdownInvariant_start config enableS4)
    fun _ _ _ label _ _ hrun hinv hstep => shutdownInvariant_step hinv hrun label hstep

end Step

-- The task is scheduled and has not run, or the shutdown has been requested.
def ShutdownScheduled (service : BatteryService F) (log : List Effect) : Prop :=
  service.lowCapacityShutdown.pending.Nonempty ∨ .ShutDownDevice LOW_CAPACITY ∈ log

theorem BatteryService.report_submit (config : BatteryConfig) (env : ReportEnv) (info : BatteryInfo)
    (service : BatteryService F)
    (hlow : (DefaultLabel.Report (F := F) info env).IsLowReport service.thresholds.shutdown)
    (hnone : service.lowCapacityShutdown.handle = none) :
    (service.report .Default config env info).1.lowCapacityShutdown =
      service.lowCapacityShutdown.submit := by
  rw [report_lowCapacityShutdown, handleCapacity_submit hlow.2.2 hlow.1 hlow.2.1 hnone]

-- A stale handle is the only thing that keeps a low report from arming the task.
theorem report_pending_nonempty_iff {config : BatteryConfig} {enableS4 : Bool}
    {history : List (DefaultLabel F)} {service : BatteryService F} {log : List Effect}
    (hinv : ShutdownInvariant config enableS4 history service log) (info : BatteryInfo)
    (env : ReportEnv)
    (hlow : (DefaultLabel.Report (F := F) info env).IsLowReport service.thresholds.shutdown) :
    (service.report .Default config env info).1.lowCapacityShutdown.pending.Nonempty ↔
      ¬Since DefaultLabel.IsTask DefaultLabel.IsChargingReport history := by
  rw [← hinv.stale]
  by_cases hnone : service.lowCapacityShutdown.handle = none
  · rw [service.report_submit config env info hlow hnone, LowCapacityShutdown.submit_pending]
    simp [hnone]
  · have hkeep : ¬(info.capacity ≤ service.thresholds.shutdown ∧ info.present = true ∧
        service.lowCapacityShutdown.handle = none) := fun h => hnone h.2.2
    rw [BatteryService.report_lowCapacityShutdown, handleCapacity_keep hlow.2.2 hkeep,
      Finset.nonempty_iff_ne_empty]
    simp [hnone]

instance (service : BatteryService F) (log : List Effect) : Decidable (ShutdownScheduled service log) :=
  inferInstanceAs (Decidable (_ ∨ _))

-- The task that was suppressed leaves its handle behind, and the handle keeps
-- later reports from submitting another task.
theorem shutdownScheduled_iff {config : BatteryConfig} {enableS4 : Bool}
    {history : List (DefaultLabel F)} {service : BatteryService F} {log : List Effect}
    (hrun : DefaultRun config enableS4 history service log) (info : BatteryInfo) (env : ReportEnv)
    (hlow : (DefaultLabel.Report (F := F) info env).IsLowReport (initThresholds config).shutdown) :
    ShutdownScheduled (service.report .Default config env info).1 log ↔
      (∃ label ∈ history, label.IsRequestedTask) ∨
        ¬Since DefaultLabel.IsSuppressedTask DefaultLabel.IsChargingReport history := by
  have hinv := shutdownInvariant_run hrun
  rw [ShutdownScheduled, report_pending_nonempty_iff hinv info env (hinv.threshold ▸ hlow),
    hinv.requested, or_comm]
  apply or_congr_right'
  intro hrequested
  rw [not_iff_not]
  apply since_congr
  intro label hm
  have hlabel : ¬label.IsRequestedTask := fun h => hrequested ⟨label, hm, h⟩
  cases label with
  | RunTask handle isInExtremePowerSaveMode =>
      cases isInExtremePowerSaveMode with
      | true => simp [DefaultLabel.IsTask, DefaultLabel.IsSuppressedTask]
      | false => exact absurd rfl hlabel
  | _ => rfl

def lowInfo : BatteryInfo where
  capacity := 1
  chargeState := .Disable

def lowReport : DefaultLabel ticketFfrt := .Report lowInfo silentEnv

def firstTask : ticketFfrt.queue.Handle := (ticketFfrt.queue.submit ticketFfrt.queue.empty).2

def chargingReport : DefaultLabel ticketFfrt :=
  .Report { lowInfo with chargeState := .Enable } silentEnv

def shippedExec (history : List (DefaultLabel ticketFfrt)) :
    Option (BatteryService ticketFfrt × List Effect) :=
  exec (defaultStep shippedConfig) (.init .Default shippedConfig true) history

-- A charging report after the suppressed task clears the handle.
theorem shutdownScheduled_iff_recharged :
    let last := (shippedExec [lowReport, .RunTask firstTask true, chargingReport]).get (by decide)
    ShutdownScheduled (last.1.report .Default shippedConfig silentEnv lowInfo).1 last.2 := by
  refine (shutdownScheduled_iff (exec_run _ _ _ (by decide)) lowInfo silentEnv (by decide)).mpr
    (.inr fun hsince => ?_)
  rcases (since_concat _ _ [lowReport, .RunTask firstTask true] chargingReport).mp hsince with
    hlast | ⟨-, hlast⟩
  · exact hlast
  · exact hlast rfl

-- The task of the first report runs in extreme power save mode. After that the
-- second report schedules nothing.
theorem not_shutdownScheduled_suppressed :
    ¬∀ (history : List (DefaultLabel ticketFfrt)) (service : BatteryService ticketFfrt)
        (log : List Effect) (info : BatteryInfo) (env : ReportEnv),
      DefaultRun shippedConfig true history service log →
      (DefaultLabel.Report (F := ticketFfrt) info env).IsLowReport
        (initThresholds shippedConfig).shutdown →
      ShutdownScheduled (service.report .Default shippedConfig env info).1 log := by
  intro hscheduled
  have hsecond := hscheduled [lowReport, .RunTask firstTask true] _ _ lowInfo silentEnv
    (exec_run _ _ _ (by decide)) (by decide)
  revert hsecond
  decide

-- The protection does not fire wrongly.
theorem lowCapacity_shutDown_armed {config : BatteryConfig} {enableS4 : Bool}
    {history : List (DefaultLabel F)} {service : BatteryService F} {log : List Effect}
    (hrun : DefaultRun config enableS4 history service log) :
    service.lowCapacityShutdown.pending.card ≤ 1 ∧
    (service.lowCapacityShutdown.pending.Nonempty → service.lowCapacityShutdown.handle ≠ none) ∧
    ∀ label next out, defaultStep config service label = some (next, out) →
      .ShutDownDevice LOW_CAPACITY ∈ out →
      ∃ handle, label = .RunTask handle false ∧ ArmedBy config enableS4 handle history := by
  have hinv := shutdownInvariant_run hrun
  refine ⟨hinv.owns.card_le_one, ?_, ?_⟩
  · rintro ⟨handle, hm⟩ hnone
    rw [hinv.owns.pending_none hnone] at hm
    simp at hm
  · intro label next out hstep hshut
    obtain ⟨-, ⟨info, env, -, hout, -⟩ | ⟨handle, extreme, rfl, hm, rfl, -, -⟩ | ⟨present, -, rfl, -⟩⟩ :=
      defaultStep_cases hstep
    · exact absurd hshut hout
    · cases extreme with
      | false => exact ⟨handle, rfl, hinv.armed handle hm⟩
      | true => cases hshut
    · cases hshut

theorem lowCapacity_shutDown_armed_first :
    ∃ handle, DefaultLabel.RunTask (F := ticketFfrt) firstTask false = .RunTask handle false ∧
      ArmedBy shippedConfig true handle [lowReport] := by
  have hstep : (defaultStep shippedConfig ((shippedExec [lowReport]).get (by decide)).1
      (.RunTask firstTask false)).isSome = true := by decide
  exact (lowCapacity_shutDown_armed (exec_run _ _ [lowReport] (by decide))).2.2 _ _ _
    (Option.some_get hstep).symm (by decide)

end BatteryManager
