import BatteryManager.ConfigParser
import BatteryManager.Library.EventBus

namespace BatteryManager

open Library

def PUBLISH_POPUP_ACTION : UInt32 := 0
def CANCLE_POPUP_ACTION : UInt32 := 1
def REVERSE_SUPER_CHARGE_OPEN : String := "notification.battery.reverse_super_charge_open"
def REVERSE_SUPER_CHARGE_CLOSE : String := "notification.battery.reverse_super_charge_close"
def REVERSE_SUPER_CHARGE_CHANGE_DIR : String :=
  "notification.battery.reverse_super_charge_change_direction"

-- What the platform gives to one call. `getStringByKey` is the string table as it
-- is then, and `subscribes` the result of `SubscribeCommonEvent`.
structure NotificationEnv where
  getStringByKey : String → String
  hash : String → Int
  iconDecodes : String → Bool
  subscribes : Bool

-- The buttons that handle their own event.
inductive ReverseSuperChargeButton
  | Open
  | Close
  | ChangeDir
  deriving DecidableEq

-- A call of `BatterySrvClient::SetBatteryConfig`.
structure SetBatteryConfigCall where
  sceneName : String
  value : String
  deriving DecidableEq

-- `OpenMode`, `CloseMode` and `ChangeDir`.
def ReverseSuperChargeButton.handle : ReverseSuperChargeButton → SetBatteryConfigCall
  | .Open => ⟨"reverse_super_charge", "2"⟩
  | .Close => ⟨"reverse_super_charge", "1"⟩
  | .ChangeDir => ⟨"reverse_super_charge", "0"⟩

def buttonFor (buttonAction : String) : Option ReverseSuperChargeButton :=
  if buttonAction = REVERSE_SUPER_CHARGE_OPEN then some .Open
  else if buttonAction = REVERSE_SUPER_CHARGE_CLOSE then some .Close
  else if buttonAction = REVERSE_SUPER_CHARGE_CHANGE_DIR then some .ChangeDir
  else none

abbrev CommonEvents := EventBus ReverseSuperChargeButton

abbrev ButtonSubscriber := Subscriber ReverseSuperChargeButton

structure NotificationRequest where
  notificationId : Int := 0
  title : String := ""
  text : String := ""
  inProgress : Bool := false
  unremovable : Bool := false
  controlFlags : UInt32 := 0
  littleIcon : Option String := none
  actionButtons : List (String × String) := []

-- The centre with its request, or a decorator around another notification, with
-- the subscriptions of its buttons that succeeded.
inductive BatteryNotification
  | NotificationCenter (request : NotificationRequest)
  | ButtonDecorator (batteryNotification : BatteryNotification) (buttonVec : List ButtonSubscriber)

inductive NotificationEffect
  | PublishNotification (request : NotificationRequest)
  | CancelNotification (notificationId : Int)

def createBaseStyle (env : NotificationEnv) (nCfg : NotificationConf) : NotificationRequest where
  notificationId := env.hash nCfg.name
  title := nCfg.title
  text := nCfg.text
  inProgress := nCfg.inProgress
  unremovable := nCfg.unRemovable
  littleIcon := if env.iconDecodes nCfg.icon then some nCfg.icon else none
  controlFlags := 0 ||| nCfg.bannerFlags

def NotificationRequest.setActionButton (buttonName buttonAction : String)
    (request : NotificationRequest) : NotificationRequest :=
  if buttonName = "" then request
  else { request with actionButtons := request.actionButtons ++ [(buttonName, buttonAction)] }

namespace BatteryNotification

-- Each decorator forwards the button to the notification inside, and subscribes
-- to its event itself.
def setActionButton (env : NotificationEnv) (buttonName buttonAction : String) :
    BatteryNotification → CommonEvents → BatteryNotification × CommonEvents
  | .NotificationCenter request, events =>
      (.NotificationCenter (request.setActionButton buttonName buttonAction), events)
  | .ButtonDecorator inner buttonVec, events =>
      let set := inner.setActionButton env buttonName buttonAction events
      match buttonFor buttonAction with
      | none => (.ButtonDecorator set.1 buttonVec, set.2)
      | some button =>
          if env.subscribes then
            (.ButtonDecorator set.1 (buttonVec ++ [set.2.next buttonAction button]),
              set.2.subscribe buttonAction button)
          else (.ButtonDecorator set.1 buttonVec, set.2)

-- The request that is published and cancelled, from inside of the decorators.
def request : BatteryNotification → NotificationRequest
  | .NotificationCenter request => request
  | .ButtonDecorator inner _ => inner.request

-- What the destructors give up.
def subscriptions : BatteryNotification → List ButtonSubscriber
  | .NotificationCenter _ => []
  | .ButtonDecorator inner buttonVec => inner.subscriptions ++ buttonVec

end BatteryNotification

def createButtonStyle (env : NotificationEnv) (batteryNotification : BatteryNotification)
    (nButton : String × String) (events : CommonEvents) : BatteryNotification × CommonEvents :=
  (BatteryNotification.ButtonDecorator batteryNotification []).setActionButton env nButton.1 nButton.2
    events

-- The part of `PublishNotification` that builds the notification.
def buildNotification (env : NotificationEnv) (nCfg : NotificationConf) (events : CommonEvents) :
    BatteryNotification × CommonEvents :=
  let base := (BatteryNotification.NotificationCenter (createBaseStyle env nCfg), events)
  let first :=
    if nCfg.firstButton.1 ≠ "" then createButtonStyle env base.1 nCfg.firstButton base.2 else base
  if nCfg.secondButton.1 ≠ "" then createButtonStyle env first.1 nCfg.secondButton first.2 else first

-- The manager with the subscriptions of the common event service.
structure NotificationManager where
  notificationMap : Table BatteryNotification := Table.empty
  events : CommonEvents := {}

namespace NotificationManager

-- A notification that `emplace` does not take is destroyed at the end of the call.
def publishNotification (env : NotificationEnv) (nCfg : NotificationConf)
    (manager : NotificationManager) : NotificationManager × List NotificationEffect :=
  let built := buildNotification env nCfg manager.events
  ({ notificationMap := manager.notificationMap.emplace nCfg.name built.1
     events :=
      if (manager.notificationMap nCfg.name).isSome then built.2.unsubscribe built.1.subscriptions
      else built.2 },
    [.PublishNotification built.1.request])

def cancleNotification (popupName : String) (manager : NotificationManager) :
    NotificationManager × List NotificationEffect :=
  match manager.notificationMap popupName with
  | none => (manager, [])
  | some batteryNotification =>
      ({ notificationMap := manager.notificationMap.erase popupName
         events := manager.events.unsubscribe batteryNotification.subscriptions },
        [.CancelNotification batteryNotification.request.notificationId])

end NotificationManager

def fillNotificationCfg (env : NotificationEnv) (cfg : NotificationConf) : NotificationConf :=
  { cfg with
    title := env.getStringByKey cfg.title
    text := env.getStringByKey cfg.text
    firstButton := (env.getStringByKey cfg.firstButton.1, cfg.firstButton.2)
    secondButton := (env.getStringByKey cfg.secondButton.1, cfg.secondButton.2) }

def NotificationManager.handleNotification (env : NotificationEnv) (popupName : String)
    (popupAction : UInt32) (nConfMap : Table NotificationConf) (manager : NotificationManager) :
    NotificationManager × List NotificationEffect :=
  if popupAction = PUBLISH_POPUP_ACTION then
    match nConfMap popupName with
    | none => (manager, [])
    | some cfg => manager.publishNotification env (fillNotificationCfg env cfg)
  else if popupAction = CANCLE_POPUP_ACTION then manager.cancleNotification popupName
  else (manager, [])

-- A pressed button publishes its action once.
def NotificationManager.press (buttonAction : String) (manager : NotificationManager) :
    List SetBatteryConfigCall :=
  (manager.events.deliver buttonAction).map ReverseSuperChargeButton.handle

end BatteryManager
