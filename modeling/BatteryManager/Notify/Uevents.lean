import BatteryManager.Boot.Theorems
import BatteryManager.Notify.Lemmas

namespace BatteryManager

open Library

-- The actions that an act can select.
inductive UeventAction
  | ShutDown
  | Reboot
  | SendCommonEvent
  | SendCustomEvent
  | SendPopup
  | Undefined
  deriving DecidableEq

def UeventAction.ofAct (act : String) : UeventAction :=
  if act = SHUTDOWN then .ShutDown
  else if act = REBOOT then .Reboot
  else if act = SEND_COMMONEVENT then .SendCommonEvent
  else if BATTERY_CUSTOM_EVENT_PREFIX.toList.isPrefixOf act.toList then .SendCustomEvent
  else if act = SEND_POPUP then .SendPopup
  else .Undefined

def IsProductType (name : String) : Prop :=
  name = PRODUCT_TYPE_THREE ∨ name = PRODUCT_TYPE_FOUR ∨ name = PRODUCT_TYPE_FIVE

instance (name : String) : Decidable (IsProductType name) := inferInstanceAs (Decidable (_ ∨ _ ∨ _))

def Effect.isHiSysEvent : Effect → Bool
  | .HiSysEventWrite _ _ _ _ _ _ _ => true
  | _ => false

-- Apart from a record in the system log, exactly one event is sent. It says that
-- the battery has changed and carries the uevent `name`. Then comes `later`.
def SendsChanged (name : String) (later effects : List Effect) : Prop :=
  ∃ event delivered, event.action = COMMON_EVENT_BATTERY_CHANGED ∧
    event.param "uevent" = some (.String name) ∧
    effects.filter (fun effect => !effect.isHiSysEvent) = .PublishCommonEvent event delivered :: later

-- What it is to perform an action with the argument `name`.
def UeventAction.Performs (name act : String) (effects : List Effect) : UeventAction → Prop
  | .ShutDown => effects = [.ShutDownDevice "POWEROFF_CHARGE_DISABLE"]
  | .Reboot => effects = [.RebootDevice name]
  | .SendCommonEvent => SendsChanged name [] effects
  | .SendCustomEvent => ∃ event delivered, event.action = act ∧
      event.param "uevent" = some (.String name) ∧
      effects = [.HookMgrExecute name, .PublishCommonEvent event delivered] ++
        if IsProductType name then [.HandleNotification name] else []
  | .SendPopup => SendsChanged name [.HandleNotification name] effects
  | .Undefined => effects = []

theorem rsplit_encode (name act : String) (hact : '$' ∉ act.toList) :
    rsplit '$' (name ++ "$" ++ act) = some (name, act) := by
  rw [String.append_assoc]
  exact rsplit_append '$' name ("$" ++ act) act (by simp) hact

-- None of the ordinary uevents has a separator in it.
theorem not_ordinary_of_separator {info : BatteryInfo} (hseparator : '$' ∈ info.uevent.toList) :
    ¬OrdinaryUevent info := by
  rintro (huevent | huevent | huevent) <;> rw [huevent] at hseparator <;>
    revert hseparator <;> decide

theorem customEvent_uevent (info : BatteryInfo) (commonEventName : String) :
    (customEvent info commonEventName).param "uevent" = some (.String info.uevent) := rfl

theorem publishChangedEvent_sendsChanged (env : PublishEnv) (info : BatteryInfo) (notify : BatteryNotify)
    (later : List Effect) (hlater : ∀ effect ∈ later, effect.isHiSysEvent = false) :
    SendsChanged info.uevent later ((publishChangedEvent env info notify).effects ++ later) := by
  have hkept : later.filter (fun effect => !effect.isHiSysEvent) = later :=
    List.filter_eq_self.mpr fun effect heffect => by simp [hlater effect heffect]
  let event := changedEvent info notify.lastCapacityLevel env.capacityLevel
  refine ⟨event, env.publish event, rfl, changedEvent_uevent _ _ _, ?_⟩
  unfold publishChangedEvent publishCommonEvent
  dsimp only
  rw [List.filter_append, hkept]
  split <;> rfl

theorem publishCustomEvent_unhooked (env : PublishEnv) (info : BatteryInfo) (commonEventName : String)
    (hhook : env.ueventCheck info.uevent = true) :
    (publishCustomEvent env info commonEventName).2 =
      [.HookMgrExecute info.uevent, .PublishCommonEvent (customEvent info commonEventName)
        (env.publish (customEvent info commonEventName))] := by
  simp [publishCustomEvent, hhook]

section Uevents

variable (env : PublishEnv) (notify : BatteryNotify) (info : BatteryInfo)

-- Wherever the separator is, a uevent that contains one goes to `handleUevent`.
theorem publishEvents_separator (hservice : env.serviceExists = true)
    (hseparator : '$' ∈ info.uevent.toList) :
    publishEvents env notify info = handleUevent env notify.known info := by
  rw [publishEvents_eq, hservice, Bool.or_true, if_pos rfl, publishKnown,
    if_neg (not_ordinary_of_separator hseparator)]

theorem handleUevent_performs (hhook : ∀ uevent, env.ueventCheck uevent = true) {name act : String}
    (hsplit : rsplit '$' info.uevent = some (name, act)) :
    (UeventAction.ofAct act).Performs name act (handleUevent env notify info).effects := by
  have hnamed : ({ info with uevent := name } : BatteryInfo).uevent = name := rfl
  unfold handleUevent UeventAction.ofAct
  rw [hsplit]
  dsimp only
  by_cases hshutdown : act = SHUTDOWN
  · rw [if_pos hshutdown, if_pos hshutdown]
    rfl
  rw [if_neg hshutdown, if_neg hshutdown]
  by_cases hreboot : act = REBOOT
  · rw [if_pos hreboot, if_pos hreboot]
    rfl
  rw [if_neg hreboot, if_neg hreboot]
  by_cases hcommon : act = SEND_COMMONEVENT
  · rw [if_pos hcommon, if_pos hcommon]
    have hsends := publishChangedEvent_sendsChanged env { info with uevent := name } notify [] (by simp)
    rw [List.append_nil] at hsends
    exact hsends
  rw [if_neg hcommon, if_neg hcommon]
  by_cases hcustom : BATTERY_CUSTOM_EVENT_PREFIX.toList.isPrefixOf act.toList = true
  · rw [if_pos hcustom, if_pos hcustom]
    let event := customEvent { info with uevent := name } act
    refine ⟨event, env.publish event, rfl, customEvent_uevent _ _, ?_⟩
    dsimp only
    rw [publishCustomEvent_unhooked env _ act (hhook _)]
    rfl
  rw [if_neg hcustom, if_neg hcustom]
  by_cases hpopup : act = SEND_POPUP
  · rw [if_pos hpopup, if_pos hpopup]
    exact publishChangedEvent_sendsChanged env { info with uevent := name } notify
      [.HandleNotification name] (by simp [Effect.isHiSysEvent])
  rw [if_neg hpopup, if_neg hpopup]
  rfl

theorem publishEvents_performs (hservice : env.serviceExists = true)
    (hhook : ∀ uevent, env.ueventCheck uevent = true) {name act : String} (hact : '$' ∉ act.toList) :
    (UeventAction.ofAct act).Performs name act
      (publishEvents env notify { info with uevent := name ++ "$" ++ act }).effects := by
  rw [publishEvents_separator env notify { info with uevent := name ++ "$" ++ act } hservice (by simp)]
  exact handleUevent_performs env notify.known { info with uevent := name ++ "$" ++ act } hhook
    (rsplit_encode name act hact)

-- Whatever is in front of the last separator, the splice that boot actions make
-- only ever sends the one event. No hook is asked.
theorem publishEvents_splice (hservice : env.serviceExists = true) (name : String) :
    SendsChanged name []
      (publishEvents env notify { info with uevent := name ++ "$sendcommonevent" }).effects := by
  have hsplit : rsplit '$' (name ++ "$sendcommonevent") = some (name, SEND_COMMONEVENT) :=
    rsplit_append '$' name "$sendcommonevent" SEND_COMMONEVENT rfl (by decide)
  rw [publishEvents_separator env notify { info with uevent := name ++ "$sendcommonevent" } hservice
    (by simp)]
  have hsends := publishChangedEvent_sendsChanged env { info with uevent := name } notify.known []
    (by simp)
  rw [List.append_nil] at hsends
  unfold handleUevent
  rw [hsplit]
  exact hsends

theorem publishEvents_no_separator (hservice : env.serviceExists = true)
    (hspecial : ¬OrdinaryUevent info) (hseparator : '$' ∉ info.uevent.toList) :
    (publishEvents env notify info).effects = [] := by
  have hsplit : rsplit '$' info.uevent = none := by
    simp [rsplit, (splitLast_eq_none_iff '$' info.uevent.toList).mpr hseparator]
  rw [publishEvents_eq, hservice, Bool.or_true, if_pos rfl, publishKnown, if_neg hspecial,
    handleUevent, hsplit]

end Uevents

-- The act alone selects what is done, and the name is only ever an argument.
theorem publishEvents_decodes (env : PublishEnv) (notify : BatteryNotify)
    (hservice : env.serviceExists = true) (hhook : ∀ uevent, env.ueventCheck uevent = true) :
    (∀ (info : BatteryInfo) (name act : String), '$' ∉ act.toList →
      (UeventAction.ofAct act).Performs name act
        (publishEvents env notify { info with uevent := name ++ "$" ++ act }).effects) ∧
    (∀ (info : BatteryInfo) (entry : CommonEventConf) (value : String),
      SendsChanged (entry.uevent ++ value) []
        (publishEvents env notify
          { info with uevent := entry.uevent ++ value ++ "$sendcommonevent" }).effects) ∧
    (∀ (commonEventConf : List CommonEventConf) (lookup : String → Except BatteryError String)
        (info : BatteryInfo) (entry : CommonEventConf) (value : String),
      firstMatch lookup commonEventConf = some (entry, value) →
      entry.eventName = COMMON_EVENT_BATTERY_CHANGED →
      SendsChanged (entry.uevent ++ value) []
        (publishEvents env notify
          (addBootCommonEvents env commonEventConf lookup info).1).effects) ∧
    ∀ info : BatteryInfo, ¬OrdinaryUevent info → '$' ∉ info.uevent.toList →
      (publishEvents env notify info).effects = [] := by
  refine ⟨?_, ?_, ?_, ?_⟩
  · intro info name act hact
    exact publishEvents_performs env notify info hservice hhook hact
  · intro info entry value
    exact publishEvents_splice env notify info hservice (entry.uevent ++ value)
  · intro commonEventConf lookup info entry value hfirst hchanged
    have hselects := addBootCommonEvents_firstMatch env commonEventConf lookup info hfirst
    unfold SelectsFirstMatch at hselects
    rw [hfirst] at hselects
    simp only [hchanged, if_true] at hselects
    rw [hselects]
    exact publishEvents_splice env notify info hservice (entry.uevent ++ value)
  · intro info hspecial hseparator
    exact publishEvents_no_separator env notify info hservice hspecial hseparator

-- A name that contains a separator and the text of another act.
theorem publishEvents_decodes_embedded :
    let env : PublishEnv := ⟨true, fun _ => true, .None, fun _ => true⟩
    (publishEvents env { lowCapacity := 20 } { uevent := "x$shutdown$reboot" }).effects =
      [.RebootDevice "x$shutdown"] := by
  intro env
  have hdecodes := publishEvents_decodes env { lowCapacity := 20 } rfl (fun _ => rfl)
  exact hdecodes.1 {} "x$shutdown" "reboot" (by decide)

end BatteryManager
