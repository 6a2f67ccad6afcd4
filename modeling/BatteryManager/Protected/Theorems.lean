import BatteryManager.Boot
import BatteryManager.Protected

namespace BatteryManager.Protected

open Library

section Agreement

variable {η : Type} (hdi : BatteryHdi η) (caller : Caller) (world : ServiceWorld η)

-- The energies are those of the getters that fill `batteryInfo_`.
theorem getTotalEnergyInner_reader {reader : HdiReader} (hinterface : reader.interface = world.interface)
    (hsystem : reader.isSystem = caller.isSystem)
    (hanswer : reader.answers.totalEnergy = (hdi.getTotalEnergy world.hdi).1) :
    (getTotalEnergyInner hdi caller world).response = reader.getTotalEnergyInner world.batteryInfo := by
  unfold getTotalEnergyInner readEnergy HdiReader.getTotalEnergyInner HdiReader.read
  rw [hinterface, hsystem, hanswer]
  split_ifs <;> rfl

theorem getRemainEnergyInner_reader {reader : HdiReader} (hinterface : reader.interface = world.interface)
    (hsystem : reader.isSystem = caller.isSystem)
    (hanswer : reader.answers.remainEnergy = (hdi.getRemainEnergy world.hdi).1) :
    (getRemainEnergyInner hdi caller world).response = reader.getRemainEnergyInner world.batteryInfo := by
  unfold getRemainEnergyInner readEnergy HdiReader.getRemainEnergyInner HdiReader.read
  rw [hinterface, hsystem, hanswer]
  split_ifs <;> rfl

-- The error and the result, as the reader of the boot events takes them.
def asLookup : BatteryError × String → Except BatteryManager.BatteryError String
  | (.Ok, result) => .ok result
  | (.SystemApiDenied, _) => .error .SystemApiDenied
  | _ => .error .Failure

theorem getBatteryConfigInner_lookup (sceneName result : String) {lookup : String → Option String}
    (hlookup : lookup sceneName =
      if (hdi.getBatteryConfig sceneName result world.hdi).1.1 = 0 then
        some (hdi.getBatteryConfig sceneName result world.hdi).1.2
      else none) :
    asLookup (getBatteryConfigInner hdi caller world sceneName result).response =
      BatteryManager.getBatteryConfigInner caller.isSystem world.interface lookup sceneName := by
  unfold getBatteryConfigInner queryConfig BatteryManager.getBatteryConfigInner
  rw [hlookup]
  split_ifs with hsystem hinterface hcode
  · simp [hcode, asLookup]
  · simp [hcode, asLookup]
  · rfl
  · rfl

end Agreement

-- The answer to a caller that is not a system one.
def refusal (request : ProtectedRequest) : ProtectedResponse :=
  match request.call with
  | .GetTotalEnergy => ⟨ERR_OK, .Value INVALID_BATT_INT_VALUE⟩
  | .GetRemainEnergy => ⟨ERR_OK, .Value INVALID_BATT_INT_VALUE⟩
  | .GetRemainingChargeTime => ⟨ERR_OK, .Value INVALID_REMAINING_CHARGE_TIME_VALUE⟩
  | .SetBatteryConfig _ _ => ⟨ERR_OK, .Error BatteryError.SystemApiDenied.code⟩
  | .GetBatteryConfig _ result => ⟨ERR_OK, .Text result BatteryError.SystemApiDenied.code⟩
  | .IsBatteryConfigSupported _ result => ⟨ERR_OK, .Flag result BatteryError.SystemApiDenied.code⟩
  | .HandleNotification _ => ⟨ERR_OK, .Error BatteryError.SystemApiDenied.code⟩

section Calls

variable {η : Type} (hdi : BatteryHdi η) (caller : Caller) (world : ServiceWorld η)

theorem serveProtected_refused {request : ProtectedRequest} (hcaller : request.caller.isSystem = false) :
    serveProtected hdi world request = ⟨refusal request, world, []⟩ := by
  unfold serveProtected refusal
  cases request.call with
  | GetTotalEnergy => simp [getTotalEnergyInner, readEnergy, answer, hcaller]
  | GetRemainEnergy => simp [getRemainEnergyInner, readEnergy, answer, hcaller]
  | GetRemainingChargeTime => simp [getRemainingChargeTimeInner, answer, hcaller]
  | SetBatteryConfig sceneName value => simp [setBatteryConfigInner, answer, hcaller]
  | GetBatteryConfig sceneName result => simp [getBatteryConfigInner, queryConfig, answer, hcaller]
  | IsBatteryConfigSupported featureName result =>
      simp [isBatteryConfigSupportedInner, queryConfig, answer, hcaller]
  | HandleNotification ueventName => simp [handleNotificationInner, answer, hcaller]

theorem readEnergy_effects (operation : HdiOperation) (call : η → Option Int × η) (absent : Int) :
    ∀ effect ∈ (readEnergy caller world operation call absent).effects, effect = .Hdi operation := by
  unfold readEnergy
  split_ifs
  · exact fun effect heffect => List.mem_singleton.mp heffect
  · nofun
  · nofun

theorem queryConfig_effects {α : Type} (operation : HdiOperation) (call : α → η → (Int × α) × η)
    (result : α) :
    ∀ effect ∈ (queryConfig caller world operation call result).effects, effect = .Hdi operation := by
  unfold queryConfig
  split_ifs
  · exact fun effect heffect => List.mem_singleton.mp heffect
  · nofun
  · nofun

theorem setBatteryConfigInner_effects (sceneName value : String) :
    ∀ effect ∈ (setBatteryConfigInner hdi caller world sceneName value).effects,
      caller.isSystem = true ∧ caller.isNativePermissionGranted PERMISSION_POWER_OPTIMIZATION = true := by
  unfold setBatteryConfigInner
  split_ifs with hpermission
  · exact fun _ _ => hpermission
  · nofun
  · nofun

theorem notifyHandleNotification_effects (ueventName : String) :
    ∀ effect ∈ (notifyHandleNotification world ueventName).effects,
      ∃ notification, effect = .Notification notification := by
  unfold notifyHandleNotification
  split
  · split
    · nofun
    · split
      · intro effect heffect
        obtain ⟨notification, -, hnotification⟩ := List.mem_map.mp heffect
        exact ⟨notification, hnotification.symm⟩
      · nofun
  · nofun

theorem handleNotificationInner_effects (ueventName : String) :
    ∀ effect ∈ (handleNotificationInner caller world ueventName).effects,
      ∃ notification, effect = .Notification notification := by
  unfold handleNotificationInner
  split
  · nofun
  · split
    · nofun
    · split
      · nofun
      · exact notifyHandleNotification_effects world ueventName

-- Only its own entry point sets a configuration, for a caller with both rights.
theorem serveProtected_effects (request : ProtectedRequest) :
    ∀ effect ∈ (serveProtected hdi world request).effects, ∀ sceneName value,
      effect = .Hdi (.SetBatteryConfig sceneName value) →
        request.caller.isSystem = true ∧
          request.caller.isNativePermissionGranted PERMISSION_POWER_OPTIMIZATION = true := by
  rintro effect heffect sceneName value rfl
  unfold serveProtected at heffect
  split at heffect
  · cases readEnergy_effects _ _ _ _ _ _ heffect
  · cases readEnergy_effects _ _ _ _ _ _ heffect
  · cases heffect
  · exact setBatteryConfigInner_effects _ _ _ _ _ _ heffect
  · cases queryConfig_effects _ _ _ _ _ _ heffect
  · cases queryConfig_effects _ _ _ _ _ _ heffect
  · obtain ⟨notification, hnotification⟩ := handleNotificationInner_effects _ _ _ _ heffect
    cases hnotification

end Calls

-- Callers without system rights learn nothing and change nothing, and whoever
-- sets a configuration has both rights.
theorem serveAll_protected {η η' : Type} (hdi : BatteryHdi η) (hdi' : BatteryHdi η')
    (world : ServiceWorld η) (world' : ServiceWorld η') (requests : List ProtectedRequest) :
    ((∀ request ∈ requests, request.caller.isSystem = false) →
      (serveAll (serveProtected hdi) world requests).response =
          (serveAll (serveProtected hdi') world' requests).response ∧
        (serveAll (serveProtected hdi) world requests).state = world ∧
        (serveAll (serveProtected hdi) world requests).effects = []) ∧
    ∀ request sceneName value,
      (request, ServiceEffect.Hdi (.SetBatteryConfig sceneName value)) ∈
          (serveAll (serveProtected hdi) world requests).effects →
        request.caller.isSystem = true ∧
          request.caller.isNativePermissionGranted PERMISSION_POWER_OPTIMIZATION = true := by
  constructor
  · intro hcallers
    have hrun : serveAll (serveProtected hdi) world requests = ⟨requests.map refusal, world, []⟩ :=
      serveAll_refused world fun request hrequest state =>
        serveProtected_refused hdi state (hcallers request hrequest)
    have hrun' : serveAll (serveProtected hdi') world' requests =
        ⟨requests.map refusal, world', []⟩ :=
      serveAll_refused world' fun request hrequest state =>
        serveProtected_refused hdi' state (hcallers request hrequest)
    rw [hrun, hrun']
    exact ⟨rfl, rfl, rfl⟩
  · intro request sceneName value hentry
    exact serveAll_effects (serveProtected_effects hdi) world requests _ hentry sceneName value rfl

def guest : Caller where
  isSystem := false
  isNativePermissionGranted := fun _ => true
  isPermissionGranted := fun _ => true

-- A driver that counts the calls.
def countingHdi : BatteryHdi Nat where
  getTotalEnergy := fun calls => (some 5000, calls + 1)
  getRemainEnergy := fun calls => (some 4000, calls + 1)
  setBatteryConfig := fun _ _ calls => (0, calls + 1)
  getBatteryConfig := fun _ _ calls => ((0, "1"), calls + 1)
  isBatteryConfigSupported := fun _ _ calls => ((0, true), calls + 1)

def guestWorld (interface : Bool) : ServiceWorld Nat where
  interface := interface
  batteryInfo := {}
  chargeTime := {}
  batteryNotify := interface
  popupConfig := Table.empty
  notificationConfMap := Table.empty
  notificationManager := {}
  platform := ⟨true, true, ⟨id, fun _ => 0, fun _ => true, true⟩⟩
  hdi := 0

def guestRequests : List ProtectedRequest :=
  [⟨guest, .GetTotalEnergy⟩, ⟨guest, .SetBatteryConfig "scene" "1"⟩, ⟨guest, .HandleNotification "popup"⟩]

theorem serveAll_protected_guest :
    (serveAll (serveProtected countingHdi) (guestWorld true) guestRequests).response =
        (serveAll (serveProtected countingHdi) (guestWorld false) guestRequests).response ∧
      (serveAll (serveProtected countingHdi) (guestWorld true) guestRequests).state.hdi = 0 := by
  have hguests : ∀ request ∈ guestRequests, request.caller.isSystem = false := by
    simp [guestRequests, guest]
  obtain ⟨hresponse, hstate, -⟩ :=
    (serveAll_protected countingHdi countingHdi (guestWorld true) (guestWorld false) guestRequests).1
      hguests
  rw [hstate]
  exact ⟨hresponse, rfl⟩

end BatteryManager.Protected
