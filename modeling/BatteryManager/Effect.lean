import BatteryManager.Info

namespace BatteryManager

-- A value of a `Want` parameter.
inductive WantParam
  | Int (value : Int)
  | Bool (value : Bool)
  | String (value : String)
  deriving DecidableEq

-- The data, the publish info and the `Want` of one common event.
structure CommonEvent where
  action : String
  params : List (String × WantParam) := []
  code : Int := 0
  subscriberPermissions : List String := []
  deriving DecidableEq

def CommonEvent.param (event : CommonEvent) (key : String) : Option WantParam :=
  event.params.lookup key

def CommonEvent.intParam (event : CommonEvent) (key : String) : Option Int :=
  match event.param key with
  | some (.Int value) => some value
  | _ => none

def CommonEvent.boolParam (event : CommonEvent) (key : String) : Option Bool :=
  match event.param key with
  | some (.Bool value) => some value
  | _ => none

def CommonEvent.stringParam (event : CommonEvent) (key : String) : Option String :=
  match event.param key with
  | some (.String value) => some value
  | _ => none

def COMMON_EVENT_BATTERY_CHANGED : String := "usual.event.BATTERY_CHANGED"
def COMMON_EVENT_BATTERY_CHANGED_INNER : String := "usual.event.BATTERY_CHANGED_INNER"
def COMMON_EVENT_BATTERY_LOW : String := "usual.event.BATTERY_LOW"
def COMMON_EVENT_BATTERY_OKAY : String := "usual.event.BATTERY_OKAY"
def COMMON_EVENT_POWER_CONNECTED : String := "usual.event.POWER_CONNECTED"
def COMMON_EVENT_POWER_DISCONNECTED : String := "usual.event.POWER_DISCONNECTED"
def COMMON_EVENT_CHARGING : String := "usual.event.CHARGING"
def COMMON_EVENT_DISCHARGING : String := "usual.event.DISCHARGING"
def COMMON_EVENT_CHARGE_TYPE_CHANGED : String := "usual.event.CHARGE_TYPE_CHANGED"

-- What the service does to the rest of the system. A publication carries the
-- answer of `PublishCommonEvent`, and a driver call the answer of the driver.
inductive Effect
  | PublishCommonEvent (event : CommonEvent) (delivered : Bool)
  | HookMgrExecute (ueventName : String)
  | HiSysEventWrite (capacity pluggedType voltage temperature healthState nowCurrent : Int)
      (chargeType : Int)
  | StartVibrator (scene : String)
  | HandleNotification (ueventName : String)
  | ShutDownDevice (reason : String)
  | RebootDevice (reason : String)
  | WakeupDevice
  | Hibernate (reason : String)
  | SetBatteryConfig (sceneName : String) (value : String)
  | TurnOffLight (succeeded : Bool)
  | TurnOnLight (red green blue : Nat) (succeeded : Bool)
  deriving DecidableEq

-- The publications with one of the given actions, oldest first, each with the
-- answer of `PublishCommonEvent`.
def publications (wanted : CommonEvent → Bool) (effects : List Effect) : List (CommonEvent × Bool) :=
  effects.filterMap fun
    | .PublishCommonEvent event delivered => if wanted event then some (event, delivered) else none
    | _ => none

@[simp] theorem publications_nil (wanted : CommonEvent → Bool) : publications wanted [] = [] := rfl

@[simp] theorem publications_append (wanted : CommonEvent → Bool) (effects later : List Effect) :
    publications wanted (effects ++ later) =
      publications wanted effects ++ publications wanted later :=
  List.filterMap_append

@[simp] theorem publications_publish (wanted : CommonEvent → Bool) (event : CommonEvent)
    (delivered : Bool) (effects : List Effect) :
    publications wanted (.PublishCommonEvent event delivered :: effects) =
      (if wanted event then [(event, delivered)] else []) ++ publications wanted effects := by
  by_cases hw : wanted event = true <;> simp [publications, hw]

@[simp] theorem mem_publications (wanted : CommonEvent → Bool) (effects : List Effect)
    (event : CommonEvent) (delivered : Bool) :
    (event, delivered) ∈ publications wanted effects ↔
      wanted event ∧ .PublishCommonEvent event delivered ∈ effects := by
  simp only [publications, List.mem_filterMap]
  constructor
  · rintro ⟨effect, he, hw⟩
    split at hw
    · split at hw
      · rename_i hwanted
        cases hw
        exact ⟨hwanted, he⟩
      · cases hw
    · cases hw
  · rintro ⟨hw, he⟩
    exact ⟨_, he, by simp [hw]⟩

theorem publications_eq_nil (wanted : CommonEvent → Bool) {effects : List Effect}
    (hnone : ∀ event delivered, .PublishCommonEvent event delivered ∉ effects) :
    publications wanted effects = [] := by
  apply List.eq_nil_iff_forall_not_mem.mpr
  rintro ⟨event, delivered⟩ hm
  exact hnone event delivered ((mem_publications wanted effects event delivered).mp hm).2

end BatteryManager
