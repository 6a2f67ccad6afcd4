import BatteryManager.ChargeTime.Lemmas
import BatteryManager.Notify.Edges
import BatteryManager.Service.Lemmas

namespace BatteryManager

open Library

variable {F : Ffrt} {build : Build} {config : BatteryConfig} {enableS4 : Bool}

-- One report: what `batteryInfo_` holds when it is handled, and the answers of
-- the rest of the system.
structure Report where
  info : BatteryInfo
  env : ReportEnv

-- The calls of `HandleBatteryInfo` since the service was started.
abbrev ReportRun (build : Build) (config : BatteryConfig) (enableS4 : Bool) :
    List Report → BatteryService F → List Effect → Prop :=
  Run (fun service report => some (service.report build config report.env report.info))
    (.init build config enableS4)

def Report.chargeReport (report : Report) : ChargeReport where
  clock := report.env.clock
  capacity := report.info.capacity
  chargeState := report.info.chargeState

-- The service calculates the charge time from all of its reports.
theorem reportRun_chargeTime {history : List Report} {service : BatteryService F} {log : List Effect}
    (hrun : ReportRun build config enableS4 history service log) :
    service.chargeTime = chargeTimeAfter (history.map Report.chargeReport) := by
  refine hrun.total_invariant
    (fun past service _ => service.chargeTime = chargeTimeAfter (past.map Report.chargeReport)) rfl ?_
  intro past service _ report ih
  rw [List.map_append, List.map_singleton, chargeTimeAfter_concat, ← ih]
  exact BatteryService.handleBatteryInfo_chargeTime config report.env
    { service with batteryInfo := report.info } build

-- An ordinary uevent, while the common event service is present.
def Report.Ordinary (report : Report) : Prop :=
  report.env.serviceExists = true ∧ OrdinaryUevent report.info

instance (report : Report) : Decidable report.Ordinary := inferInstanceAs (Decidable (_ ∧ _))

-- The plug state of the last report. Before the first one it is unplugged.
def lastReportPlugged (history : List Report) : Bool :=
  history.getLast?.any fun last => isNowPlugged last.info.pluggedType

-- The report as `PublishEvents` sees it.
def Report.notifyCall (report : Report) (service : BatteryService F) : NotifyCall where
  info := report.info
  env := { service with batteryInfo := report.info }.publishEnv report.env

-- The last type agrees with the last report, and the notifier has gone through
-- the reports one by one.
structure ReportInvariant (config : BatteryConfig) (history : List Report)
    (service : BatteryService F) : Prop where
  plugged : service.isLastPlugged = lastReportPlugged history
  notified : ∃ calls log, Run notifyStep (.create config) calls service.notify log ∧
    calls.map NotifyCall.info = history.map Report.info ∧
    ∀ call ∈ calls, call.env.serviceExists = true ∧ OrdinaryUevent call.info

theorem report_notifyCall (build : Build) (config : BatteryConfig) (service : BatteryService F)
    (report : Report) :
    (service.report build config report.env report.info).1.notify =
      ((report.notifyCall service).publish service.notify).notify :=
  BatteryService.handleBatteryInfo_notify config report.env
    { service with batteryInfo := report.info } build

theorem report_attempts (build : Build) (config : BatteryConfig) (service : BatteryService F)
    (report : Report) (pair : StatePair) (side : Bool) :
    Attempts (pair.action side) (service.report build config report.env report.info).2 ↔
      Attempts (pair.action side) ((report.notifyCall service).publish service.notify).effects := by
  have hpublications := BatteryService.handleBatteryInfo_publications config report.env
    { service with batteryInfo := report.info } build pair.announces
  rw [attempts_pair_iff, attempts_pair_iff]
  unfold BatteryService.report
  rw [hpublications]
  rfl

theorem report_isLastPlugged (build : Build) (config : BatteryConfig) (service : BatteryService F)
    (report : Report) :
    (service.report build config report.env report.info).1.isLastPlugged =
      isNowPlugged report.info.pluggedType := by
  have htype := BatteryService.handleBatteryInfo_lastPluggedType config report.env
    { service with batteryInfo := report.info } build
  unfold BatteryService.isLastPlugged BatteryService.report
  rw [htype]
  rfl

theorem reportInvariant_init :
    ReportInvariant config [] (.init build config enableS4 : BatteryService F) where
  plugged := rfl
  notified := ⟨[], [], .nil, rfl, by simp⟩

theorem reportInvariant_concat {history : List Report} {service : BatteryService F}
    (hinv : ReportInvariant config history service) {report : Report} (hordinary : report.Ordinary) :
    ReportInvariant config (history ++ [report])
      (service.report build config report.env report.info).1 := by
  obtain ⟨calls, log, hrun, hinfos, hcalls⟩ := hinv.notified
  constructor
  · rw [report_isLastPlugged]
    simp [lastReportPlugged]
  · refine ⟨calls ++ [report.notifyCall service],
      log ++ ((report.notifyCall service).publish service.notify).effects, ?_, ?_, ?_⟩
    · rw [report_notifyCall]
      exact .snoc (report.notifyCall service) hrun rfl
    · simp [hinfos, Report.notifyCall]
    · intro call hcall
      rcases List.mem_append.mp hcall with hearlier | hlast
      · exact hcalls call hearlier
      · cases List.mem_singleton.mp hlast
        exact hordinary

theorem reportInvariant_run {history : List Report} {service : BatteryService F} {log : List Effect}
    (hrun : ReportRun build config enableS4 history service log)
    (hordinary : ∀ report ∈ history, report.Ordinary) : ReportInvariant config history service := by
  refine hrun.total_invariant
    (fun past service _ => (∀ report ∈ past, report.Ordinary) → ReportInvariant config past service)
    (fun _ => reportInvariant_init) ?_ hordinary
  intro past service _ report ih hall
  have hpast := ih fun earlier hearlier => hall earlier (by simp [hearlier])
  exact reportInvariant_concat hpast (hall report (by simp))

-- The notifier announces the changes of the plug state, and a first report in
-- any case.
theorem report_plug_attempts {history : List Report} {service : BatteryService F}
    (hinv : ReportInvariant config history service) {report : Report} (hordinary : report.Ordinary)
    (side : Bool) :
    Attempts (StatePair.Plugged.action side)
        (service.report build config report.env report.info).2 ↔
      isNowPlugged report.info.pluggedType = side ∧ (history = [] ∨ lastReportPlugged history ≠ side) := by
  obtain ⟨calls, log, hrun, hinfos, hcalls⟩ := hinv.notified
  have hcall : ordinaryOncePresent calls (report.notifyCall service) = true := by
    have hexists : (report.notifyCall service).env.serviceExists = true := hordinary.1
    have huevent : OrdinaryUevent (report.notifyCall service).info := hordinary.2
    simp [ordinaryOncePresent, hexists, huevent]
  have hedges := (announcesEdges_of_invariant (edgeInvariant_run hrun) _ hcall).1 .Plugged side
  rw [ordinaryInfos_all hcalls, hinfos] at hedges
  rw [report_attempts, hedges]
  have hholds : ∀ info : BatteryInfo,
      StatePair.Plugged.holds (config.getInt "soc.low" 20) info = isNowPlugged info.pluggedType := by
    intro info
    simp [StatePair.holds, isNowPlugged]
  change StatePair.Plugged.holds (config.getInt "soc.low" 20) report.info = side ∧ _ ↔ _
  rw [hholds]
  refine and_congr_right fun _ => ?_
  rcases List.eq_nil_or_concat history with rfl | ⟨earlier, last, rfl⟩
  · simp
  · simp [lastReportPlugged, hholds]

theorem report_wakeup (service : BatteryService F) {report : Report} (hordinary : report.Ordinary) :
    .WakeupDevice ∈ (service.report build config report.env report.info).2 ↔
      service.isLastPlugged ≠ isNowPlugged report.info.pluggedType :=
  BatteryService.handleBatteryInfo_wakeup config { service with batteryInfo := report.info } build
    hordinary.2

-- The service compares the plugged types, and the notifier keeps two latches,
-- which are both clear at the start.
theorem wakeup_iff_plug_event {history : List Report} {service : BatteryService F} {log : List Effect}
    (hrun : ReportRun build config enableS4 history service log) (report : Report)
    (hordinary : ∀ entry ∈ history ++ [report], entry.Ordinary) :
    let effects := (service.report build config report.env report.info).2
    let plugged := isNowPlugged report.info.pluggedType
    (.WakeupDevice ∈ effects ↔ plugged ≠ lastReportPlugged history) ∧
    (.WakeupDevice ∈ effects ↔
      (Attempts COMMON_EVENT_POWER_CONNECTED effects ∨
        Attempts COMMON_EVENT_POWER_DISCONNECTED effects) ∧
      ¬(history = [] ∧ plugged = false)) ∧
    (history = [] → plugged = false → Attempts COMMON_EVENT_POWER_DISCONNECTED effects) := by
  intro effects plugged
  have hinv := reportInvariant_run hrun fun earlier hearlier => hordinary earlier (by simp [hearlier])
  have hreport := hordinary report (by simp)
  have hwakeup : .WakeupDevice ∈ effects ↔ plugged ≠ lastReportPlugged history := by
    rw [report_wakeup service hreport, hinv.plugged, ne_comm]
  have hconnected : Attempts COMMON_EVENT_POWER_CONNECTED effects ↔
      plugged = true ∧ (history = [] ∨ lastReportPlugged history ≠ true) :=
    report_plug_attempts hinv hreport true
  have hdisconnected : Attempts COMMON_EVENT_POWER_DISCONNECTED effects ↔
      plugged = false ∧ (history = [] ∨ lastReportPlugged history ≠ false) :=
    report_plug_attempts hinv hreport false
  refine ⟨hwakeup, ?_, fun hfirst hplugged => hdisconnected.mpr ⟨hplugged, .inl hfirst⟩⟩
  rw [hwakeup, hconnected, hdisconnected]
  cases plugged with
  | true =>
      have hfirst : history = [] → lastReportPlugged history = false := by
        rintro rfl
        rfl
      cases hlast : lastReportPlugged history with
      | true =>
          rw [hlast] at hfirst
          simpa using hfirst
      | false => simp
  | false =>
      cases hlast : lastReportPlugged history with
      | true =>
          have hlater : history ≠ [] := by
            rintro rfl
            cases hlast
          simp [hlater]
      | false => simp

-- A report of a plugged type in a system in which every publication succeeds.
def plugReport (pluggedType : BatteryPluggedType) : Report where
  info := { pluggedType := pluggedType, uevent := POWER_SUPPLY }
  env := { silentEnv with serviceExists := true, publish := fun _ => true }

theorem wakeup_iff_plug_event_unplugged :
    let started : BatteryService ticketFfrt := .init .Default shippedConfig false
    let first := started.report .Default shippedConfig (plugReport .Usb).env (plugReport .Usb).info
    .WakeupDevice ∈
      (first.1.report .Default shippedConfig (plugReport .Butt).env (plugReport .Butt).info).2 := by
  intro started first
  have hrun : ReportRun .Default shippedConfig false [plugReport .Usb] first.1 ([] ++ first.2) :=
    .snoc (plugReport .Usb) .nil rfl
  exact (wakeup_iff_plug_event hrun (plugReport .Butt) (by decide)).1.mpr (by decide)

end BatteryManager
