import BatteryManager.Boot.Theorems
import BatteryManager.Service.Steps

namespace BatteryManager

open Library

variable {F : Ffrt}

-- The commands that do something, and so end what an earlier mock has set.
def endsCapacityMock (service : BatteryService F) : ServiceLabel → Bool
  | .MockCapacity _ _ _ _ => service.interface
  | .Reset _ _ _ => service.interface
  | _ => false

def endsUnpluggedMock (service : BatteryService F) : ServiceLabel → Bool
  | .Reset _ _ _ => service.interface
  | _ => false

namespace BatteryService

def CapacityMocked (capacity : Int) (service : BatteryService F) : Prop :=
  service.isMockCapacity = true ∧ service.batteryInfo.capacity = capacity

def IsUnplugged (info : BatteryInfo) : Prop :=
  info.pluggedType = .None ∧ info.chargeState = .None ∧
    info.pluggedMaxCurrent = 0 ∧ info.pluggedMaxVoltage = 0

def UnpluggedMocked (service : BatteryService F) : Prop :=
  service.isMockUnplugged = true ∧ IsUnplugged service.batteryInfo

section Overlay

variable (build : Build) (config : BatteryConfig) (env : ReportEnv) {service : BatteryService F}
variable {capacity : Int}

theorem CapacityMocked.handleBatteryInfo (hmocked : service.CapacityMocked capacity) :
    (service.handleBatteryInfo build config env).1.CapacityMocked capacity := by
  obtain ⟨uevent, hinfo⟩ := service.handleBatteryInfo_uevent build config env
  refine ⟨?_, ?_⟩
  · rw [handleBatteryInfo_isMockCapacity]
    exact hmocked.1
  · rw [hinfo]
    exact hmocked.2

theorem UnpluggedMocked.handleBatteryInfo (hmocked : service.UnpluggedMocked) :
    (service.handleBatteryInfo build config env).1.UnpluggedMocked := by
  obtain ⟨uevent, hinfo⟩ := service.handleBatteryInfo_uevent build config env
  refine ⟨?_, ?_⟩
  · rw [handleBatteryInfo_isMockUnplugged]
    exact hmocked.1
  · rw [hinfo]
    exact hmocked.2

variable (event : HdiBatteryInfo) (chargeType : Option Nat)

theorem convertingEvent_capacity (hmock : service.isMockCapacity = true) :
    (service.convertingEvent event chargeType).capacity = service.batteryInfo.capacity := by
  simp [convertingEvent, hmock]

theorem convertingEvent_isUnplugged (hmocked : service.UnpluggedMocked) :
    IsUnplugged (service.convertingEvent event chargeType) := by
  obtain ⟨hmock, hinfo⟩ := hmocked
  simpa [convertingEvent, hmock, IsUnplugged] using hinfo

-- The HDI restart reads what is mocked back from `batteryInfo_`.
theorem fillInfo_capacity (env : InitEnv) (hmock : service.isMockCapacity = true) (info : BatteryInfo) :
    ((service.reader env).fillInfo info).capacity = info.capacity := by
  simp [HdiReader.fillInfo, HdiReader.initWrites, HdiReader.getCapacity, getCapacityInner, reader, hmock]

theorem fillInfo_isUnplugged (env : InitEnv) (hmock : service.isMockUnplugged = true) {info : BatteryInfo}
    (hinfo : IsUnplugged info) : IsUnplugged ((service.reader env).fillInfo info) := by
  simpa [HdiReader.fillInfo, HdiReader.initWrites, HdiReader.getPluggedTypeInner,
    HdiReader.getChargingStatusInner, reader, hmock, IsUnplugged] using hinfo

-- `AddBootCommonEvents` and `HandleBatteryInfo` only rewrite the uevent of what
-- was filled in.
theorem initBatteryInfo_uevent (service : BatteryService F) (env : InitEnv) :
    ∃ uevent, (service.initBatteryInfo build config env).1.batteryInfo =
      { (service.reader env).fillInfo service.batteryInfo with uevent := uevent } := by
  let filled := { service with batteryInfo := (service.reader env).fillInfo service.batteryInfo }
  let lookup := getBatteryConfigInner env.isSystem service.interface env.getBatteryConfig
  obtain ⟨booted, hboot⟩ := addBootCommonEvents_info (filled.publishEnv env.report)
    config.commonEventConf lookup filled.batteryInfo
  let boot := addBootCommonEvents (filled.publishEnv env.report) config.commonEventConf lookup
    filled.batteryInfo
  obtain ⟨uevent, hinfo⟩ :=
    { filled with batteryInfo := boot.1 }.handleBatteryInfo_uevent build config env.report
  exact ⟨uevent, hinfo.trans (by dsimp only [boot]; rw [hboot])⟩

theorem CapacityMocked.initBatteryInfo (env : InitEnv) (hmocked : service.CapacityMocked capacity) :
    (service.initBatteryInfo build config env).1.CapacityMocked capacity := by
  obtain ⟨uevent, hinfo⟩ := service.initBatteryInfo_uevent build config env
  refine ⟨?_, ?_⟩
  · unfold BatteryService.initBatteryInfo
    dsimp only
    rw [handleBatteryInfo_isMockCapacity]
    exact hmocked.1
  · rw [hinfo]
    exact (fillInfo_capacity env hmocked.1 service.batteryInfo).trans hmocked.2

theorem UnpluggedMocked.initBatteryInfo (env : InitEnv) (hmocked : service.UnpluggedMocked) :
    (service.initBatteryInfo build config env).1.UnpluggedMocked := by
  obtain ⟨uevent, hinfo⟩ := service.initBatteryInfo_uevent build config env
  refine ⟨?_, ?_⟩
  · unfold BatteryService.initBatteryInfo
    dsimp only
    rw [handleBatteryInfo_isMockUnplugged]
    exact hmocked.1
  · rw [hinfo]
    exact fillInfo_isUnplugged env hmocked.1 hmocked.2

-- Whatever reaches the service while a mock flag is set, no report gets through.
theorem callback_mocked (hmock : service.isMocked = true) :
    service.handleBatteryCallbackEvent build config env event chargeType = (service, []) :=
  if_pos hmock

-- A mock command without an interface does nothing.
section Null

variable (hnull : service.interface = false)
include hnull

theorem mockUnplugged_null :
    service.mockUnplugged build config env event chargeType = (service, []) :=
  if_neg (by simp [hnull])

theorem mockCapacity_null (capacity : Int) :
    service.mockCapacity build config env event chargeType capacity = (service, []) :=
  if_neg (by simp [hnull])

theorem mockUevent_null (uevent : String) :
    service.mockUevent build config env event chargeType uevent = (service, []) :=
  if_neg (by simp [hnull])

theorem reset_null : service.reset build config env event chargeType = (service, []) :=
  if_neg (by simp [hnull])

end Null

-- What the two mocks establish.
theorem mockCapacity_mocked (hinterface : service.interface = true) (capacity : Int) :
    (service.mockCapacity build config env event chargeType capacity).1.CapacityMocked capacity := by
  unfold mockCapacity
  rw [if_pos hinterface]
  exact CapacityMocked.handleBatteryInfo build config env ⟨rfl, rfl⟩

theorem mockUnplugged_mocked (hinterface : service.interface = true) :
    (service.mockUnplugged build config env event chargeType).1.UnpluggedMocked := by
  unfold mockUnplugged
  rw [if_pos hinterface]
  exact UnpluggedMocked.handleBatteryInfo build config env ⟨rfl, rfl, rfl, rfl, rfl⟩

-- Each mock survives the other commands.
theorem CapacityMocked.mockUnplugged (hmocked : service.CapacityMocked capacity) :
    (service.mockUnplugged build config env event chargeType).1.CapacityMocked capacity := by
  unfold BatteryService.mockUnplugged
  split
  · refine CapacityMocked.handleBatteryInfo build config env ⟨hmocked.1, ?_⟩
    exact (convertingEvent_capacity event chargeType hmocked.1).trans hmocked.2
  · exact hmocked

theorem CapacityMocked.mockUevent (uevent : String) (hmocked : service.CapacityMocked capacity) :
    (service.mockUevent build config env event chargeType uevent).1.CapacityMocked capacity := by
  unfold BatteryService.mockUevent
  split
  · refine CapacityMocked.handleBatteryInfo build config env ⟨hmocked.1, ?_⟩
    exact (convertingEvent_capacity event chargeType hmocked.1).trans hmocked.2
  · exact hmocked

theorem UnpluggedMocked.mockCapacity (capacity : Int) (hmocked : service.UnpluggedMocked) :
    (service.mockCapacity build config env event chargeType capacity).1.UnpluggedMocked := by
  unfold BatteryService.mockCapacity
  split
  · refine UnpluggedMocked.handleBatteryInfo build config env ⟨hmocked.1, ?_⟩
    exact convertingEvent_isUnplugged event chargeType hmocked
  · exact hmocked

theorem UnpluggedMocked.mockUevent (uevent : String) (hmocked : service.UnpluggedMocked) :
    (service.mockUevent build config env event chargeType uevent).1.UnpluggedMocked := by
  unfold BatteryService.mockUevent
  split
  · refine UnpluggedMocked.handleBatteryInfo build config env ⟨hmocked.1, ?_⟩
    exact convertingEvent_isUnplugged event chargeType hmocked
  · exact hmocked

end Overlay

section Step

variable {build : Build} {config : BatteryConfig} {service next : BatteryService F}
variable {label : ServiceLabel} {out : List Effect} {capacity : Int}

theorem CapacityMocked.step (hmocked : service.CapacityMocked capacity)
    (hgoes : endsCapacityMock service label = false)
    (hstep : serviceStep build config service label = some (next, out)) :
    next.CapacityMocked capacity := by
  have hmock : service.isMocked = true := by simp [isMocked, hmocked.1]
  cases label with
  | Callback event chargeType env =>
      simp only [serviceStep, callback_mocked build config env event chargeType hmock] at hstep
      cases hstep
      exact hmocked
  | MockUnplugged event chargeType env =>
      obtain rfl : (service.mockUnplugged build config env event chargeType).1 = next :=
        congrArg Prod.fst (Option.some.inj hstep)
      exact hmocked.mockUnplugged build config env event chargeType
  | MockCapacity other event chargeType env =>
      simp only [serviceStep, mockCapacity_null build config env event chargeType hgoes] at hstep
      cases hstep
      exact hmocked
  | MockUevent uevent event chargeType env =>
      obtain rfl : (service.mockUevent build config env event chargeType uevent).1 = next :=
        congrArg Prod.fst (Option.some.inj hstep)
      exact hmocked.mockUevent build config env event chargeType uevent
  | Reset event chargeType env =>
      simp only [serviceStep, reset_null build config env event chargeType hgoes] at hstep
      cases hstep
      exact hmocked
  | Stop =>
      cases hstep
      exact hmocked
  | Start env =>
      obtain rfl : (service.hdiStartTask build config env).1 = next :=
        congrArg Prod.fst (Option.some.inj hstep)
      have hregistered : (service.registerBatteryHdiCallback env).CapacityMocked capacity := hmocked
      exact hregistered.initBatteryInfo build config env

theorem UnpluggedMocked.step (hmocked : service.UnpluggedMocked)
    (hgoes : endsUnpluggedMock service label = false)
    (hstep : serviceStep build config service label = some (next, out)) : next.UnpluggedMocked := by
  have hmock : service.isMocked = true := by simp [isMocked, hmocked.1]
  cases label with
  | Callback event chargeType env =>
      simp only [serviceStep, callback_mocked build config env event chargeType hmock] at hstep
      cases hstep
      exact hmocked
  | MockUnplugged event chargeType env =>
      obtain rfl : (service.mockUnplugged build config env event chargeType).1 = next :=
        congrArg Prod.fst (Option.some.inj hstep)
      by_cases hinterface : service.interface = true
      · exact mockUnplugged_mocked build config env event chargeType hinterface
      · rw [mockUnplugged_null build config env event chargeType (Bool.eq_false_iff.mpr hinterface)]
        exact hmocked
  | MockCapacity other event chargeType env =>
      obtain rfl : (service.mockCapacity build config env event chargeType other).1 = next :=
        congrArg Prod.fst (Option.some.inj hstep)
      exact hmocked.mockCapacity build config env event chargeType other
  | MockUevent uevent event chargeType env =>
      obtain rfl : (service.mockUevent build config env event chargeType uevent).1 = next :=
        congrArg Prod.fst (Option.some.inj hstep)
      exact hmocked.mockUevent build config env event chargeType uevent
  | Reset event chargeType env =>
      simp only [serviceStep, reset_null build config env event chargeType hgoes] at hstep
      cases hstep
      exact hmocked
  | Stop =>
      cases hstep
      exact hmocked
  | Start env =>
      obtain rfl : (service.hdiStartTask build config env).1 = next :=
        congrArg Prod.fst (Option.some.inj hstep)
      have hregistered : (service.registerBatteryHdiCallback env).UnpluggedMocked := hmocked
      exact hregistered.initBatteryInfo build config env

end Step

end BatteryService

open BatteryService

-- The mocked values stand until a command ends the mock, no report changes the
-- information meanwhile, and no command works without an interface.
theorem mockOverlay (build : Build) (config : BatteryConfig) (service : BatteryService F) :
    (service.interface = true → ∀ capacity event chargeType env later state log,
      Run (stepUntil endsCapacityMock (serviceStep build config))
        (service.mockCapacity build config env event chargeType capacity).1 later state log →
      state.batteryInfo.capacity = capacity ∧
        ∀ asked : InitEnv, (state.reader asked).getCapacity state.batteryInfo = capacity) ∧
    (service.interface = true → ∀ event chargeType env later state log,
      Run (stepUntil endsUnpluggedMock (serviceStep build config))
        (service.mockUnplugged build config env event chargeType).1 later state log →
      IsUnplugged state.batteryInfo ∧
        ∀ asked : InitEnv, (state.reader asked).getPluggedTypeInner state.batteryInfo = .None ∧
          (state.reader asked).getChargingStatusInner state.batteryInfo = .None) ∧
    (service.isMocked = true → ∀ event chargeType env,
      (service.handleBatteryCallbackEvent build config env event chargeType).1.batteryInfo =
        service.batteryInfo) ∧
    (service.interface = false → ∀ event chargeType env,
      (service.mockUnplugged build config env event chargeType).1 = service ∧
      (∀ capacity, (service.mockCapacity build config env event chargeType capacity).1 = service) ∧
      (∀ uevent, (service.mockUevent build config env event chargeType uevent).1 = service) ∧
      (service.reset build config env event chargeType).1 = service) := by
  refine ⟨?_, ?_, ?_, ?_⟩
  · intro hinterface capacity event chargeType env later state log hrun
    have hmocked : state.CapacityMocked capacity :=
      hrun.invariant_until (CapacityMocked capacity)
        (mockCapacity_mocked build config env event chargeType hinterface capacity)
        fun _ _ _ _ hmocked hgoes hstep => hmocked.step hgoes hstep
    refine ⟨hmocked.2, fun asked => ?_⟩
    simp [HdiReader.getCapacity, getCapacityInner, reader, hmocked.1, hmocked.2]
  · intro hinterface event chargeType env later state log hrun
    have hmocked : state.UnpluggedMocked :=
      hrun.invariant_until UnpluggedMocked
        (mockUnplugged_mocked build config env event chargeType hinterface)
        fun _ _ _ _ hmocked hgoes hstep => hmocked.step hgoes hstep
    refine ⟨hmocked.2, fun asked => ?_⟩
    simp [HdiReader.getPluggedTypeInner, HdiReader.getChargingStatusInner, reader, hmocked.1,
      hmocked.2.1, hmocked.2.2.1]
  · intro hmock event chargeType env
    rw [callback_mocked build config env event chargeType hmock]
  · intro hnull event chargeType env
    refine ⟨?_, fun capacity => ?_, fun uevent => ?_, ?_⟩
    · rw [mockUnplugged_null build config env event chargeType hnull]
    · rw [mockCapacity_null build config env event chargeType hnull]
    · rw [mockUevent_null build config env event chargeType hnull]
    · rw [reset_null build config env event chargeType hnull]

def startedService : BatteryService ticketFfrt :=
  ((init .Default shippedConfig true).hdiStartTask .Default shippedConfig (chargingEvent.startEnv 1)).1

-- The mocked capacity outlives a report, the HDI and its restart.
theorem mockOverlay_restarted :
    let mocked :=
      (startedService.mockCapacity .Default shippedConfig silentEnv chargingEvent (some 1) 7).1
    let last := (exec (stepUntil endsCapacityMock (serviceStep .Default shippedConfig)) mocked
      [.Callback chargingEvent (some 1) silentEnv, .Stop, .Start (chargingEvent.startEnv 1)]).get
        (by decide)
    last.1.batteryInfo.capacity = 7 :=
  ((mockOverlay .Default shippedConfig startedService).1 (by decide) 7 chargingEvent (some 1) silentEnv
    _ _ _ (exec_run _ _ _ (by decide))).1

end BatteryManager
