import BatteryManager.Config
import BatteryManager.Library.CJson

namespace BatteryManager

open Library

def MIN_DEPTH : Nat := 1
def MAX_DEPTH : Nat := 5

structure PopupConf where
  name : String
  action : Int
  deriving DecidableEq

structure NotificationConf where
  name : String
  icon : String
  title : String
  text : String
  bannerFlags : UInt32 := 0
  inProgress : Bool := false
  unRemovable : Bool := false
  firstButton : String × String
  secondButton : String × String
  deriving DecidableEq

-- `SplitStr` of `TrimStr`, with the separator of the keys.
abbrev SplitStr := String → List String

-- The members of the parser. `config` is the document that it holds.
structure ParsedConfig where
  config : Option CJson := none
  lightConf : List LightConf := []
  commonEventConf : List CommonEventConf := []
  wirelessChargerEnable : Bool := false
  popupConfig : Table (List PopupConf) := Table.empty
  notificationConfMap : Table NotificationConf := Table.empty

def isEmptyJsonParse : CJson → Bool
  | .Null => true
  | .Object members => members.isEmpty
  | .Array items => items.isEmpty
  | _ => false

def findConf (config : Option CJson) (key : String) : Option CJson :=
  match config with
  | some (.Object members) =>
      if (CJson.Object members).hasObjectItem key then
        (CJson.Object members).getObjectItemCaseSensitive key
      else none
  | _ => none

def splitKey (split : SplitStr) (key : String) : Option (List String) :=
  let keys := split key
  if keys.length < MIN_DEPTH ∨ keys.length > MAX_DEPTH then none else some keys

-- The loop of `GetValue`. It stops at a key that is not there, with the value
-- that it has reached.
def descend : List String → Option CJson → Option CJson
  | [], value => value
  | key :: rest, value =>
      match value with
      | some (.Object members) =>
          if (CJson.Object members).hasObjectItem key then
            descend rest ((CJson.Object members).getObjectItemCaseSensitive key)
          else value
      | _ => value

def getValue (split : SplitStr) (config : Option CJson) (key : String) : Option CJson :=
  match splitKey split key with
  | some (first :: rest) =>
      match findConf config first with
      | none => none
      | some value => if value.isNull then some value else descend rest (some value)
  | _ => none

def parseLightConf (split : SplitStr) (config : Option CJson) (level : String) : Option LightConf := do
  let soc ← CJson.array? (getValue split config ("light." ++ level ++ ".soc"))
  let rgb ← CJson.array? (getValue split config ("light." ++ level ++ ".rgb"))
  match soc, rgb with
  | [beginSocItem, endSocItem], [redItem, greenItem, blueItem] =>
      let beginSoc ← CJson.number? (some beginSocItem)
      let endSoc ← CJson.number? (some endSocItem)
      let red ← CJson.number? (some redItem)
      let green ← CJson.number? (some greenItem)
      let blue ← CJson.number? (some blueItem)
      some {
        beginSoc := beginSoc
        endSoc := endSoc
        rgb := (UInt32.ofInt red <<< 16) ||| (UInt32.ofInt green <<< 8) ||| UInt32.ofInt blue }
  | _, _ => none

-- The value of "equal", or else of "not_equal", and which of the two it is.
def expectedValue (sceneConfig : Option CJson) : Option (Bool × String) :=
  match CJson.string? (CJson.item sceneConfig "equal") with
  | some value => some (true, value)
  | none =>
      match CJson.string? (CJson.item sceneConfig "not_equal") with
      | some value => some (false, value)
      | none => none

def commonEventEntry (commonEventConf : CJson) : Option CommonEventConf := do
  let sceneConfig := commonEventConf.getObjectItemCaseSensitive "scene_config"
  let eventName ← CJson.string? (commonEventConf.getObjectItemCaseSensitive "event_name")
  let sceneConfigName ← CJson.string? (CJson.item sceneConfig "name")
  let uevent ← CJson.string? (commonEventConf.getObjectItemCaseSensitive "uevent")
  let expected ← expectedValue sceneConfig
  some {
    eventName := eventName
    uevent := uevent
    sceneConfigName := sceneConfigName
    sceneConfigEqual := expected.1
    sceneConfigValue := expected.2 }

-- The list that `ParseCommonEventConf` looks for. Without it, the old table is
-- left as it is.
def commonEventItems (split : SplitStr) (config : Option CJson) : Option (List CJson) := do
  let members ← CJson.object? (getValue split config "boot_actions")
  CJson.array? ((CJson.Object members).getObjectItemCaseSensitive "sendcommonevent")

-- The action goes through an unsigned value into a signed one.
def popupEntry (popupObj : CJson) : Option PopupConf := do
  let popupName ← CJson.string? (popupObj.getObjectItemCaseSensitive "name")
  let popupAction ← CJson.number? (popupObj.getObjectItemCaseSensitive "action")
  some { name := popupName, action := popupAction.bmod 4294967296 }

def savePopupConf : List (String × CJson) → Table (List PopupConf) → Table (List PopupConf)
  | [], popupConfig => popupConfig
  | (uevent, valueObj) :: rest, popupConfig =>
      match valueObj with
      | .Array items => savePopupConf rest (popupConfig.emplace uevent (items.filterMap popupEntry))
      | _ => savePopupConf rest popupConfig

-- What becomes of one entry: it is skipped, it ends the loop, or it is saved.
inductive NotificationEntry
  | Continue
  | Return
  | Save (conf : NotificationConf)

-- The two buttons, which end the loop when they lack a name or an action.
def notificationButtons (buttons : List CJson) : Except NotificationEntry
    ((String × String) × (String × String)) :=
  match buttons with
  | [.Object first, .Object second] =>
      match CJson.string? ((CJson.Object first).getObjectItemCaseSensitive "name"),
          CJson.string? ((CJson.Object first).getObjectItemCaseSensitive "action"),
          CJson.string? ((CJson.Object second).getObjectItemCaseSensitive "name"),
          CJson.string? ((CJson.Object second).getObjectItemCaseSensitive "action") with
      | some firstName, some firstAction, some secondName, some secondAction =>
          .ok ((firstName, firstAction), (secondName, secondAction))
      | _, _, _, _ => .error .Return
  | _ => .error .Continue

def notificationEntry (conf : CJson) : NotificationEntry :=
  match CJson.string? (conf.getObjectItemCaseSensitive "name"),
      CJson.string? (conf.getObjectItemCaseSensitive "icon"),
      CJson.string? (conf.getObjectItemCaseSensitive "title"),
      CJson.string? (conf.getObjectItemCaseSensitive "text"),
      CJson.array? (conf.getObjectItemCaseSensitive "button") with
  | some name, some icon, some title, some text, some buttons =>
      match notificationButtons buttons with
      | .error entry => entry
      | .ok (firstButton, secondButton) => .Save {
          name := name
          icon := icon
          title := title
          text := text
          bannerFlags :=
            ((CJson.number? (conf.getObjectItemCaseSensitive "bannerFlags")).map UInt32.ofInt).getD 0
          inProgress := (CJson.bool? (conf.getObjectItemCaseSensitive "inProgress")).getD false
          unRemovable := (CJson.bool? (conf.getObjectItemCaseSensitive "unRemovable")).getD false
          firstButton := firstButton
          secondButton := secondButton }
  | _, _, _, _, _ => .Continue

def saveNotificationConfToMap : List CJson → Table NotificationConf → Table NotificationConf
  | [], map => map
  | conf :: rest, map =>
      match notificationEntry conf with
      | .Continue => saveNotificationConfToMap rest map
      | .Return => map
      | .Save entry => saveNotificationConfToMap rest (map.emplace entry.name entry)

-- What `ParseConfig` finds: no file that opens, a text that cJSON rejects, or a
-- document.
inductive ConfigFile
  | Missing
  | Malformed
  | Document (json : CJson)

namespace ParsedConfig

variable (split : SplitStr)

def isExist (parsed : ParsedConfig) (key : String) : Bool :=
  match getValue split parsed.config key with
  | some value => !value.isNull
  | none => false

def getInt (parsed : ParsedConfig) (key : String) (defVal : Int) : Int :=
  (CJson.number? (getValue split parsed.config key)).getD defVal

def parseWirelessChargerConf (parsed : ParsedConfig) : ParsedConfig :=
  match CJson.number? (getValue split parsed.config "wirelesscharger") with
  | some valueint => { parsed with wirelessChargerEnable := valueint ≠ 0 }
  | none => parsed

def parseBootActionsConf (parsed : ParsedConfig) : ParsedConfig :=
  match commonEventItems split parsed.config with
  | some commonEventConfs =>
      { parsed with commonEventConf := commonEventConfs.filterMap commonEventEntry }
  | none => parsed

def parsePopupConf (parsed : ParsedConfig) : ParsedConfig :=
  match CJson.object? (getValue split parsed.config "popup") with
  | some members => { parsed with popupConfig := savePopupConf members Table.empty }
  | none => parsed

def parseNotificationConf (parsed : ParsedConfig) : ParsedConfig :=
  match CJson.array? (getValue split parsed.config "notification") with
  | some nConf => { parsed with
      notificationConfMap := saveNotificationConfToMap nConf parsed.notificationConfMap }
  | none => parsed

def parseConfInner (parsed : ParsedConfig) : ParsedConfig :=
  let lit := { parsed with
    lightConf := ["low", "normal", "high"].filterMap (parseLightConf split parsed.config) }
  (((lit.parseWirelessChargerConf split).parseBootActionsConf split).parsePopupConf
    split).parseNotificationConf split

-- The old document is gone once a file has been opened.
def parseConfig (file : ConfigFile) (parsed : ParsedConfig) : Bool × ParsedConfig :=
  match file with
  | .Missing => (false, parsed)
  | .Malformed => (false, { parsed with config := none })
  | .Document json =>
      if isEmptyJsonParse json then (false, { parsed with config := none })
      else (true, { parsed with config := some json }.parseConfInner split)

end ParsedConfig

end BatteryManager
