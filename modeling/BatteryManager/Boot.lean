import BatteryManager.Config
import BatteryManager.Notify

namespace BatteryManager

inductive BatteryError
  | Failure
  | SystemApiDenied
  deriving DecidableEq

-- `answer` is the value that the HDI gives for a scene, when it returns `ERR_OK`.
def getBatteryConfigInner (isSystem interface : Bool) (answer : String → Option String)
    (sceneName : String) : Except BatteryError String :=
  if isSystem then
    if interface then
      match answer sceneName with
      | some result => .ok result
      | none => .error .Failure
    else .error .Failure
  else .error .SystemApiDenied

-- The two out-parameters of `FillCommonEvent` and what it returns.
structure FillResult where
  found : Bool
  ueventName : String
  commonEventName : String

def CommonEventConf.accepts (conf : CommonEventConf) (result : String) : Bool :=
  (conf.sceneConfigEqual && result = conf.sceneConfigValue) ||
    (!conf.sceneConfigEqual && result ≠ conf.sceneConfigValue)

-- The out-parameters are written for every entry that the loop visits.
def fillFrom (lookup : String → Except BatteryError String) :
    List CommonEventConf → String → String → FillResult
  | [], ueventName, commonEventName => ⟨false, ueventName, commonEventName⟩
  | conf :: rest, _, _ =>
      match lookup conf.sceneConfigName with
      | .error _ => fillFrom lookup rest conf.uevent conf.eventName
      | .ok result =>
          if conf.accepts result then ⟨true, conf.uevent ++ result, conf.eventName⟩
          else fillFrom lookup rest (conf.uevent ++ result) conf.eventName

def fillCommonEvent (commonEventConf : List CommonEventConf)
    (lookup : String → Except BatteryError String) (ueventName commonEventName : String) : FillResult :=
  if commonEventConf.isEmpty then ⟨false, ueventName, commonEventName⟩
  else fillFrom lookup commonEventConf ueventName commonEventName

-- The second test does not look at what `FillCommonEvent` returned.
def addBootCommonEvents (env : PublishEnv) (commonEventConf : List CommonEventConf)
    (lookup : String → Except BatteryError String) (info : BatteryInfo) : BatteryInfo × List Effect :=
  let filled := fillCommonEvent commonEventConf lookup "" COMMON_EVENT_BATTERY_CHANGED
  let spliced :=
    if filled.found then { info with uevent := filled.ueventName ++ "$sendcommonevent" } else info
  if filled.commonEventName ≠ COMMON_EVENT_BATTERY_CHANGED then
    let named := { spliced with uevent := filled.ueventName }
    ({ named with uevent := "" }, (publishCustomEvent env named filled.commonEventName).2)
  else (spliced, [])

end BatteryManager
