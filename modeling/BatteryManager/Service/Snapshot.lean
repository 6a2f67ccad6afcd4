import BatteryManager.Boot.Theorems
import BatteryManager.Service.Steps

namespace BatteryManager

open Library

variable {F : Ffrt}

namespace BatteryService

-- The HDI start task has an interface, every getter answers with the snapshot,
-- and nothing is mocked or withheld.
structure ReadsSnapshot (snapshot : HdiBatteryInfo) (chargeType : Nat) (env : InitEnv)
    (service : BatteryService F) : Prop where
  interface : service.interface = true
  unmocked : service.isMocked = false
  isSystem : env.isSystem = true
  answers : env.answers = snapshot.answers chargeType

-- The two ways of loading a snapshot, up to the uevent, and the events that
-- would be published for them.
structure LoadsAgree (pulled pushed : BatteryInfo) : Prop where
  info : ∀ uevent, { pulled with uevent := uevent } = { pushed with uevent := uevent }
  changed : ∀ uevent last level, changedEvent { pulled with uevent := uevent } last level =
    changedEvent { pushed with uevent := uevent } last level
  changedInner : changedEventInner pulled = changedEventInner pushed

-- The fields that only a report writes.
def ReportedFields (snapshot : HdiBatteryInfo) (info : BatteryInfo) : Prop :=
  info.pluggedMaxCurrent = snapshot.pluggedMaxCurrent ∧
    info.pluggedMaxVoltage = snapshot.pluggedMaxVoltage ∧ info.chargeCounter = snapshot.chargeCounter

section Snapshot

variable {snapshot : HdiBatteryInfo} {chargeType : Nat} {env : InitEnv} {service : BatteryService F}

-- What the getters leave in `batteryInfo_`: the snapshot, except for the three
-- fields that have no getter, and the uevent.
theorem fillInfo_snapshot (hreads : service.ReadsSnapshot snapshot chargeType env) (info : BatteryInfo) :
    (service.reader env).fillInfo info =
      { snapshot.toInfo (.ofCode chargeType) with
        pluggedMaxCurrent := info.pluggedMaxCurrent
        pluggedMaxVoltage := info.pluggedMaxVoltage
        chargeCounter := info.chargeCounter
        uevent := info.uevent } := by
  obtain ⟨hinterface, hunmocked, hsystem, hanswers⟩ := hreads
  simp only [isMocked, Bool.or_eq_false_iff] at hunmocked
  have hreader : service.reader env =
      ⟨true, false, false, true, env.errNoInit, snapshot.answers chargeType⟩ := by
    simp [reader, hinterface, hunmocked, hsystem, hanswers]
  rw [hreader]
  rfl

theorem convertingEvent_snapshot (hreads : service.ReadsSnapshot snapshot chargeType env) :
    service.convertingEvent snapshot (some chargeType) = snapshot.toInfo (.ofCode chargeType) := by
  rw [service.convertingEvent_unmocked snapshot (some chargeType) hreads.unmocked, chargeTypeAnswer,
    if_pos hreads.interface]
  rfl

end Snapshot

end BatteryService

open BatteryService

-- A restart leaves the last report's limits and charge counter in place, so the
-- two ways agree exactly when the snapshot repeats them.
theorem loadsAgree_iff (snapshot : HdiBatteryInfo) (chargeType : Nat) (env : InitEnv)
    (service : BatteryService F) (hreads : service.ReadsSnapshot snapshot chargeType env) :
    LoadsAgree ((service.reader env).fillInfo service.batteryInfo)
        (service.convertingEvent snapshot (some chargeType)) ↔
      ReportedFields snapshot service.batteryInfo := by
  rw [fillInfo_snapshot hreads, convertingEvent_snapshot hreads]
  constructor
  · rintro ⟨hinfo, -, -⟩
    have hsame := hinfo ""
    exact ⟨congrArg BatteryInfo.pluggedMaxCurrent hsame, congrArg BatteryInfo.pluggedMaxVoltage hsame,
      congrArg BatteryInfo.chargeCounter hsame⟩
  · rintro ⟨hcurrent, hvoltage, hcounter⟩
    rw [hcurrent, hvoltage, hcounter]
    exact ⟨fun _ => rfl, fun _ _ _ => rfl, rfl⟩

-- The service after its start and one report of the same snapshot.
def reportedService : BatteryService ticketFfrt :=
  let started :=
    (init .Default shippedConfig true).hdiStartTask .Default shippedConfig (chargingEvent.startEnv 1)
  (started.1.handleBatteryCallbackEvent .Default shippedConfig silentEnv chargingEvent (some 1)).1

theorem loadsAgree_iff_reported :
    LoadsAgree ((reportedService.reader (chargingEvent.startEnv 1)).fillInfo reportedService.batteryInfo)
      (reportedService.convertingEvent chargingEvent (some 1)) :=
  (loadsAgree_iff chargingEvent 1 (chargingEvent.startEnv 1) reportedService
    ⟨by decide, by decide, rfl, rfl⟩).mpr ⟨by decide, by decide, by decide⟩

-- The device is started on its charger, and started again before any report.
theorem not_loadsAgree_restarted :
    ¬∀ (build : Build) (config : BatteryConfig) (enableS4 : Bool) (history : List ServiceLabel)
        (service : BatteryService ticketFfrt) (log : List Effect),
      ServiceRun build config enableS4 history service log →
      ∀ (snapshot : HdiBatteryInfo) (chargeType : Nat) (env : InitEnv),
        service.ReadsSnapshot snapshot chargeType env →
        LoadsAgree ((service.reader env).fillInfo service.batteryInfo)
          (service.convertingEvent snapshot (some chargeType)) := by
  intro hagree
  have hrun := exec_run (serviceStep .Default shippedConfig)
    (init (F := ticketFfrt) .Default shippedConfig true) [.Start (chargingEvent.startEnv 1)] (by decide)
  have hloads := (hagree _ _ _ _ _ _ hrun chargingEvent 1 (chargingEvent.startEnv 1)
    ⟨by decide, by decide, rfl, rfl⟩).changedInner
  revert hloads
  decide

end BatteryManager
