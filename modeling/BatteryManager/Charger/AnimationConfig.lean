import BatteryManager.ConfigParser
import BatteryManager.Library.Run

namespace BatteryManager.Charger

open Library

def CHARGER_ANIMATION_NAME : String := "animation"
def LACKPOWER_CHARGING_NAME : String := "lackpowerChargingPrompt"
def LACKPOWER_NOT_CHARGING_NAME : String := "lackpowerNotChargingPrompt"
def ANIMATION_COM : String := "components"
def ANIMATION_COM_LABEL : String := "UILabel"
def ANIMATION_COM_IMAGEVIEW : String := "UIImageView"
def CHAR_WIDTH : Nat := 5
def MICROSECONDS_PER_MILLISECOND : UInt32 := 1000

structure CommonInfo where
  x : Int := 0
  y : Int := 0
  w : Int := 0
  h : Int := 0
  id : String := ""
  type : String := ""
  deriving DecidableEq

structure LabelComponentInfo where
  fontSize : UInt8 := 0
  text : String := ""
  align : String := ""
  fontColor : String := ""
  bgColor : String := ""
  common : CommonInfo := {}
  deriving DecidableEq

structure ImageComponentInfo where
  resPath : String := ""
  filePrefix : String := ""
  imgCnt : UInt32 := 0
  updInterval : UInt32 := 0
  common : CommonInfo := {}
  deriving DecidableEq

structure AnimationConfig where
  animationInfo : ImageComponentInfo × LabelComponentInfo := ({}, {})
  chargingInfo : LabelComponentInfo := {}
  notChargingInfo : LabelComponentInfo := {}
  deriving DecidableEq

-- A member that is missing or of another type leaves the value as it is.

def readText (component : CJson) (name current : String) : String :=
  (CJson.string? (component.getObjectItemCaseSensitive name)).getD current

def readNumber {α : Type} (component : CJson) (name : String) (convert : Int → α) (current : α) : α :=
  ((CJson.number? (component.getObjectItemCaseSensitive name)).map convert).getD current

def parseAnimationLabel (component : CJson) (info : LabelComponentInfo) : LabelComponentInfo where
  common :=
    { type := ANIMATION_COM_LABEL
      id := readText component "id" info.common.id
      x := readNumber component "x" id info.common.x
      y := readNumber component "y" id info.common.y
      w := readNumber component "w" id info.common.w
      h := readNumber component "h" id info.common.h }
  text := readText component "text" info.text
  fontSize := readNumber component "fontSize" UInt8.ofInt info.fontSize
  fontColor := readText component "fontColor" info.fontColor
  bgColor := readText component "bgColor" info.bgColor
  align := readText component "align" info.align

def parseAnimationImage (component : CJson) (info : ImageComponentInfo) : ImageComponentInfo where
  common :=
    { type := ANIMATION_COM_IMAGEVIEW
      id := readText component "id" info.common.id
      x := readNumber component "x" id info.common.x
      y := readNumber component "y" id info.common.y
      w := readNumber component "w" id info.common.w
      h := readNumber component "h" id info.common.h }
  resPath := readText component "resPath" info.resPath
  imgCnt := readNumber component "imgCnt" UInt32.ofInt info.imgCnt
  updInterval := readNumber component "updInterval" UInt32.ofInt info.updInterval
  filePrefix := readText component "filePrefix" info.filePrefix

-- `cJSON_ArrayForEach` goes through the values of an object, too.
def children : CJson → List CJson
  | .Array items => items
  | .Object members => members.map Prod.snd
  | _ => []

-- Nothing is parsed of a part that is not an object, or whose components are
-- neither an array nor an object.
def animationComponents (jsonObj : Option CJson) : List CJson :=
  match CJson.object? jsonObj with
  | none => []
  | some members =>
      match (CJson.Object members).getObjectItemCaseSensitive ANIMATION_COM with
      | none => []
      | some components => children components

def componentType (component : CJson) : Option String :=
  CJson.string? (component.getObjectItemCaseSensitive "type")

-- The body of the loop of `ParseAnimationConfig`.
def parseAnimationComponent (info : ImageComponentInfo × LabelComponentInfo) (component : CJson) :
    ImageComponentInfo × LabelComponentInfo :=
  match componentType component with
  | none => info
  | some type =>
      if type = ANIMATION_COM_IMAGEVIEW then (parseAnimationImage component info.1, info.2)
      else if type = ANIMATION_COM_LABEL then (info.1, parseAnimationLabel component info.2)
      else info

def parsePromptComponent (info : LabelComponentInfo) (component : CJson) : LabelComponentInfo :=
  match componentType component with
  | none => info
  | some type => if type = ANIMATION_COM_LABEL then parseAnimationLabel component info else info

namespace AnimationConfig

def parseAnimationConfig (jsonObj : Option CJson) (config : AnimationConfig) : AnimationConfig :=
  { config with
    animationInfo := (animationComponents jsonObj).foldl parseAnimationComponent config.animationInfo }

def parseLackPowerChargingConfig (jsonObj : Option CJson) (config : AnimationConfig) :
    AnimationConfig :=
  { config with
    chargingInfo := (animationComponents jsonObj).foldl parsePromptComponent config.chargingInfo }

def parseLackPowerNotChargingConfig (jsonObj : Option CJson) (config : AnimationConfig) :
    AnimationConfig :=
  { config with
    notChargingInfo := (animationComponents jsonObj).foldl parsePromptComponent config.notChargingInfo }

-- Nothing of the document is required.
def parseConfig (file : ConfigFile) (config : AnimationConfig) : Bool × AnimationConfig :=
  match file with
  | .Missing => (false, config)
  | .Malformed => (false, config)
  | .Document json =>
      if isEmptyJsonParse json then (false, config)
      else
        let animation := json.getObjectItemCaseSensitive CHARGER_ANIMATION_NAME
        let chargingPrompt := json.getObjectItemCaseSensitive LACKPOWER_CHARGING_NAME
        let notChargingPrompt := json.getObjectItemCaseSensitive LACKPOWER_NOT_CHARGING_NAME
        (true, ((config.parseAnimationConfig animation).parseLackPowerChargingConfig
          chargingPrompt).parseLackPowerNotChargingConfig notChargingPrompt)

end AnimationConfig

-- What the animator does with its view, and how long it then sleeps.
inductive AnimatorEffect
  | SetSrc (path : String)
  | SetResizeModeFill
  | UsSleep (usec : UInt32)
  deriving DecidableEq

structure ChargerAnimatorCallback where
  currPath : String := ""
  currId : UInt32 := 0
  info : ImageComponentInfo
  deriving DecidableEq

-- `std::setw` and `std::setfill` on the number.
def paddedNumber (number : UInt32) : String :=
  let digits := toString number.toNat
  String.ofList (List.replicate (CHAR_WIDTH - digits.length) '0') ++ digits

def ImageComponentInfo.imagePath (info : ImageComponentInfo) (number : UInt32) : String :=
  info.resPath ++ info.filePrefix ++ paddedNumber number ++ ".png"

-- A division by zero has no result.
def ChargerAnimatorCallback.showNextImage (callback : ChargerAnimatorCallback) :
    Option (ChargerAnimatorCallback × List AnimatorEffect) :=
  let path := callback.info.imagePath callback.currId
  if callback.info.imgCnt = 0 then none
  else
    some ({ callback with currPath := path, currId := (callback.currId + 1) % callback.info.imgCnt },
      [.SetSrc path, .SetResizeModeFill,
        .UsSleep (callback.info.updInterval * MICROSECONDS_PER_MILLISECOND)])

end BatteryManager.Charger
