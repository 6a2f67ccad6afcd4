import BatteryManager.Library.LockCode
import BatteryManager.Service

-- The functions of the service, reduced to what they do with `mutex_`, and to
-- the calls and tests on which that depends. What runs on another thread (a
-- submitted task, a call out of the process) is an entry point of its own.
namespace BatteryManager.Locking

open Library LockCode

inductive Condition
  | InterfacePresent
  | IsMockUnplugged
  | IsMockCapacity
  | IsMocked
  | IsSystem
  | IsNativePermissionGranted
  | IsPermissionGranted
  | NotifyPresent
  | IsDuplicate
  | CommonEventServiceExists
  | IsOrdinaryUevent
  | HasUeventAct
  | IsSendCommonEvent
  | IsCustomEvent
  | IsProductType
  | IsSendPopup
  | IsPopupConfigured
  | IsNotificationShown
  | HasCommonEventConf
  | IsCustomBootEvent
  | IsBatteryHdi
  | IsStart
  | IsReady
  | IsHdiRemove
  | IsCommonEventReady
  | IsBatteryHdiReady
  | IsBootCompleted
  | IsCapacityNumber
  | IsCapacityInRange
  | IsInitialised
  deriving DecidableEq

abbrev Code := LockCode Condition

def sequence : List Code → Code
  | [] => .Skip
  | first :: rest => .Seq first (sequence rest)

-- The shape of the getters: a guard, and a call of the HDI if there is one.
def interfaceCall : Code := .Scope .Shared (.Test .InterfacePresent .Skip .Skip)

def getCapacityInner : Code := .Test .IsMockCapacity .Skip interfaceCall
def getChargingStatusInner : Code := .Test .IsMockUnplugged .Skip interfaceCall
def getPluggedTypeInner : Code := .Test .IsMockUnplugged .Skip interfaceCall
def getHealthStatusInner : Code := interfaceCall
def getVoltageInner : Code := interfaceCall
def getPresentInner : Code := interfaceCall
def getTechnologyInner : Code := interfaceCall
def getBatteryTemperatureInner : Code := interfaceCall
def getTotalEnergyInner : Code := .Test .IsSystem interfaceCall .Skip
def getCurrentAverageInner : Code := interfaceCall
def getNowCurrentInner : Code := interfaceCall
def getRemainEnergyInner : Code := .Test .IsSystem interfaceCall .Skip
def getChargeType : Code := interfaceCall
def getCapacityLevelInner : Code := getCapacityInner
def getRemainingChargeTimeInner : Code := .Test .IsSystem .Skip .Skip
def changePath : Code := interfaceCall

def setBatteryConfigInner : Code :=
  .Test .IsSystem (.Test .IsNativePermissionGranted interfaceCall .Skip) .Skip

def getBatteryConfigInner : Code := .Test .IsSystem interfaceCall .Skip
def isBatteryConfigSupportedInner : Code := .Test .IsSystem interfaceCall .Skip

-- A notification is filled in by `NotificationLocale`, which may ask the service
-- for its configuration through the client, and so on the same thread.
def handleNotification : Code :=
  .Test .IsPopupConfigured (.Repeat (.Test .IsNotificationShown (.Repeat getBatteryConfigInner) .Skip))
    .Skip

def handleNotificationInner : Code :=
  .Test .IsSystem (.Test .IsPermissionGranted (.Test .NotifyPresent handleNotification .Skip) .Skip)
    .Skip

-- The event carries the capacity level, which is read from the service.
def publishChangedEvent : Code := getCapacityLevelInner

def handleUevent : Code :=
  .Test .HasUeventAct
    (.Test .IsSendCommonEvent publishChangedEvent
      (.Test .IsCustomEvent (.Test .IsProductType handleNotification .Skip)
        (.Test .IsSendPopup (.Seq publishChangedEvent handleNotification) .Skip)))
    .Skip

def publishEvents : Code :=
  .Test .CommonEventServiceExists (.Test .IsOrdinaryUevent publishChangedEvent handleUevent) .Skip

-- The light, the power manager and the low capacity protection have locks of
-- their own.
def handleBatteryInfo : Code := publishEvents

def convertingEvent : Code := getChargeType

def handleBatteryCallbackEvent : Code :=
  .Test .IsMocked .Skip (.Seq convertingEvent (.Test .IsDuplicate .Skip handleBatteryInfo))

def fillCommonEvent : Code := .Test .HasCommonEventConf (.Repeat getBatteryConfigInner) .Skip

def addBootCommonEvents : Code := .Seq fillCommonEvent (.Test .IsCustomBootEvent .Skip .Skip)

def initBatteryInfo : Code := sequence [
  getCapacityInner,
  getPluggedTypeInner,
  getChargingStatusInner,
  getVoltageInner,
  getBatteryTemperatureInner,
  getHealthStatusInner,
  getTotalEnergyInner,
  getCurrentAverageInner,
  getRemainEnergyInner,
  getPresentInner,
  getTechnologyInner,
  getNowCurrentInner,
  getChargeType,
  addBootCommonEvents,
  handleBatteryInfo]

def registerBatteryHdiCallback : Code := .Scope .Exclusive (.Test .InterfacePresent .Skip .Skip)

-- This one looks at the interface without the lock.
def setLowCapacityThreshold : Code := .Test .InterfacePresent .Skip .Skip

def hdiStartTask : Build → Code
  | .Default => sequence [registerBatteryHdiCallback, initBatteryInfo]
  | .SetLowCapacityThreshold =>
      sequence [registerBatteryHdiCallback, setLowCapacityThreshold, initBatteryInfo]

-- The status callback only submits the START task.
def hdiStatusCallback : Code :=
  .Test .IsBatteryHdi
    (.Scope .Exclusive (.Test .IsStart .Skip (.Test .InterfacePresent .Skip .Skip))) .Skip

def registerHdiStatusListener : Code := .Skip

inductive SystemAbilityId
  | Miscdevice
  | DeviceServiceManager
  | CommonEvent
  | Other
  deriving DecidableEq

def onAddSystemAbility : SystemAbilityId → Code
  | .Miscdevice => .Skip
  | .DeviceServiceManager => .Test .IsHdiRemove registerHdiStatusListener .Skip
  | .CommonEvent =>
      .Test .IsCommonEventReady .Skip (.Test .IsBatteryHdiReady publishEvents .Skip)
  | .Other => .Skip

def onRemoveSystemAbility : SystemAbilityId → Code
  | .DeviceServiceManager => .Test .IsHdiRemove .Skip .Skip
  | _ => .Skip

def onStart : Code :=
  .Test .IsReady .Skip (.Test .IsInitialised registerHdiStatusListener .Skip)

def onStop : Code := .Test .IsReady (.Scope .Exclusive (.Test .InterfacePresent .Skip .Skip)) .Skip

-- The four commands share their shape: a guard over the whole command, and the
-- same calls as for a report. The values that they mock do not matter here.
def mockCommand : Code :=
  .Scope .Shared (.Test .InterfacePresent (.Seq convertingEvent handleBatteryInfo) .Skip)

def mockUnplugged : Code := mockCommand
def mockCapacity : Code := mockCommand
def mockUevent : Code := mockCommand
def reset : Code := mockCommand

def dumpBatteryInfo : Code := sequence [
  getCapacityInner,
  getCapacityLevelInner,
  getChargingStatusInner,
  getHealthStatusInner,
  getPluggedTypeInner,
  getVoltageInner,
  getPresentInner,
  getTechnologyInner,
  getNowCurrentInner,
  getCurrentAverageInner,
  getTotalEnergyInner,
  getRemainEnergyInner,
  getRemainingChargeTimeInner,
  getBatteryTemperatureInner,
  getChargeType]

-- What the first argument of `Dump` asks for.
inductive DumpCommand
  | Help
  | BatteryInfo
  | Unplugged
  | Capacity
  | Uevent
  | Reset
  | Invalid
  deriving DecidableEq

def DumpCommand.isMock : DumpCommand → Bool
  | .Unplugged => true
  | .Capacity => true
  | .Uevent => true
  | .Reset => true
  | _ => false

-- `userVersion` is whether `BATTERY_USER_VERSION` is defined, where the mock
-- commands only print a line.
def runDumpCommand (userVersion : Bool) (command : DumpCommand) : Code :=
  if userVersion && command.isMock then .Skip
  else
    match command with
    | .Help => .Skip
    | .BatteryInfo => dumpBatteryInfo
    | .Unplugged => mockUnplugged
    | .Capacity => .Test .IsCapacityNumber (.Test .IsCapacityInRange mockCapacity .Skip) .Skip
    | .Uevent => mockUevent
    | .Reset => reset
    | .Invalid => .Skip

def dump (userVersion : Bool) (command : DumpCommand) : Code :=
  .Test .IsBootCompleted (.Test .IsSystem (runDumpCommand userVersion command) .Skip) .Skip

-- What other threads call: the IPC interface, the HDI, the system ability
-- manager and the task queue.
inductive Entry
  | GetCapacity
  | GetChargingStatus
  | GetHealthStatus
  | GetPluggedType
  | GetVoltage
  | GetPresent
  | GetTechnology
  | GetTotalEnergy
  | GetCurrentAverage
  | GetNowCurrent
  | GetRemainEnergy
  | GetBatteryTemperature
  | GetCapacityLevel
  | GetRemainingChargeTime
  | GetChargeType
  | SetBatteryConfig
  | GetBatteryConfig
  | IsBatteryConfigSupported
  | HandleNotification
  | ChangePath
  | Dump (userVersion : Bool) (command : DumpCommand)
  | HandleBatteryCallbackEvent
  | HdiStatusCallback
  | HdiStartTask (build : Build)
  | RegisterRetryTask
  | OnStart
  | OnStop
  | OnAddSystemAbility (systemAbilityId : SystemAbilityId)
  | OnRemoveSystemAbility (systemAbilityId : SystemAbilityId)
  deriving DecidableEq

def Entry.code : Entry → Code
  | .GetCapacity => getCapacityInner
  | .GetChargingStatus => getChargingStatusInner
  | .GetHealthStatus => getHealthStatusInner
  | .GetPluggedType => getPluggedTypeInner
  | .GetVoltage => getVoltageInner
  | .GetPresent => getPresentInner
  | .GetTechnology => getTechnologyInner
  | .GetTotalEnergy => getTotalEnergyInner
  | .GetCurrentAverage => getCurrentAverageInner
  | .GetNowCurrent => getNowCurrentInner
  | .GetRemainEnergy => getRemainEnergyInner
  | .GetBatteryTemperature => getBatteryTemperatureInner
  | .GetCapacityLevel => getCapacityLevelInner
  | .GetRemainingChargeTime => getRemainingChargeTimeInner
  | .GetChargeType => getChargeType
  | .SetBatteryConfig => setBatteryConfigInner
  | .GetBatteryConfig => getBatteryConfigInner
  | .IsBatteryConfigSupported => isBatteryConfigSupportedInner
  | .HandleNotification => handleNotificationInner
  | .ChangePath => changePath
  | .Dump userVersion command => dump userVersion command
  | .HandleBatteryCallbackEvent => handleBatteryCallbackEvent
  | .HdiStatusCallback => hdiStatusCallback
  | .HdiStartTask build => hdiStartTask build
  | .RegisterRetryTask => registerHdiStatusListener
  | .OnStart => onStart
  | .OnStop => onStop
  | .OnAddSystemAbility systemAbilityId => onAddSystemAbility systemAbilityId
  | .OnRemoveSystemAbility systemAbilityId => onRemoveSystemAbility systemAbilityId

-- The entry runs one of the four mock commands.
def Entry.isMockCommand : Entry → Bool
  | .Dump _ command => command.isMock
  | _ => false

-- Only the mock commands touch the lock inside of a guard.
theorem Entry.code_flat (entry : Entry) (hother : entry.isMockCommand = false) :
    entry.code.flat = true := by
  cases entry with
  | Dump userVersion command => cases userVersion <;> cases command <;> first | rfl | cases hother
  | HdiStartTask build => cases build <;> rfl
  | OnAddSystemAbility systemAbilityId => cases systemAbilityId <;> rfl
  | OnRemoveSystemAbility systemAbilityId => cases systemAbilityId <;> rfl
  | _ => rfl

-- The code is disciplined except where it finds the interface.
def FailsOnInterface (code : Code) : Prop :=
  ∀ trace, Executes code trace → (Disciplined trace ↔ .Answer .InterfacePresent true ∉ trace)

theorem failsOnInterface_skip : FailsOnInterface .Skip := by
  intro trace hexec
  cases hexec
  exact iff_of_true rfl (by simp)

-- An early return before the code does not matter.
theorem FailsOnInterface.test {code : Code} (hcode : FailsOnInterface code) {condition : Condition}
    (hcondition : condition ≠ .InterfacePresent) : FailsOnInterface (.Test condition code .Skip) := by
  intro trace hexec
  cases hexec with
  | yes _ _ hyes =>
      have hrest := hcode _ hyes
      simpa [Disciplined, holds, Ne.symm hcondition] using hrest
  | no _ _ hno =>
      cases hno
      exact iff_of_true rfl (by simp)

-- `GetChargeType` takes the lock that the command holds already.
theorem mockCommand_failsOnInterface : FailsOnInterface mockCommand := by
  intro trace hexec
  cases hexec with
  | scope _ hbody =>
      cases hbody with
      | yes _ _ hyes =>
          have hnone := holds_scope_none .Shared _ (hyes.holds_locks rfl (List.cons_ne_nil LockMode.Shared []))
          refine iff_of_false ?_ (by simp)
          intro hdisciplined
          cases hnone.symm.trans hdisciplined
      | no _ _ hno =>
          cases hno
          exact iff_of_true rfl (by simp)

theorem dump_failsOnInterface (userVersion : Bool) {command : DumpCommand} (hmock : command.isMock = true) :
    FailsOnInterface (dump userVersion command) := by
  apply FailsOnInterface.test _ (by decide)
  apply FailsOnInterface.test _ (by decide)
  unfold runDumpCommand
  split
  · exact failsOnInterface_skip
  · cases command with
    | Unplugged => exact mockCommand_failsOnInterface
    | Capacity => exact (mockCommand_failsOnInterface.test (by decide)).test (by decide)
    | Uevent => exact mockCommand_failsOnInterface
    | Reset => exact mockCommand_failsOnInterface
    | Help => cases hmock
    | BatteryInfo => cases hmock
    | Invalid => cases hmock

-- A thread takes the lock twice exactly when a mock command finds the interface.
theorem disciplined_iff (entry : Entry) (trace : List (LockAction Condition))
    (hexec : Executes entry.code trace) :
    Disciplined trace ↔
      ¬(entry.isMockCommand = true ∧ .Answer .InterfacePresent true ∈ trace) := by
  cases hmock : entry.isMockCommand with
  | false =>
      refine iff_of_true (hexec.disciplined (entry.code_flat hmock)) ?_
      simp
  | true =>
      cases entry with
      | Dump userVersion command =>
          rw [dump_failsOnInterface userVersion hmock trace hexec]
          simp
      | _ => cases hmock

theorem disciplined_iff_getCapacity :
    Disciplined [.Answer Condition.IsMockCapacity false, .Acquire .Shared,
      .Answer .InterfacePresent true, .Release .Shared] :=
  (disciplined_iff .GetCapacity _ (.no _ _ (.scope .Shared (.yes _ _ .skip)))).mpr (by decide)

-- The shell command that resets the mocks, while the HDI is there.
theorem not_disciplined_reset :
    ¬∀ (entry : Entry) (trace : List (LockAction Condition)),
      Executes entry.code trace → Disciplined trace := by
  intro hall
  have hcharge : Executes getChargeType [.Acquire .Shared, .Answer .InterfacePresent true, .Release .Shared] :=
    .scope .Shared (.yes _ _ .skip)
  have hreport : Executes handleBatteryInfo [.Answer .CommonEventServiceExists false] := .no _ _ .skip
  have hreset : Executes reset (.Acquire .Shared :: .Answer .InterfacePresent true ::
      [.Acquire .Shared, .Answer .InterfacePresent true, .Release .Shared,
        .Answer .CommonEventServiceExists false] ++ [.Release .Shared]) :=
    .scope .Shared (.yes _ _ (.seq hcharge hreport))
  have hdump : Executes (Entry.Dump false .Reset).code _ := .yes _ _ (.yes _ _ hreset)
  have hdisciplined := hall _ _ hdump
  revert hdisciplined
  unfold Disciplined
  decide

end BatteryManager.Locking
