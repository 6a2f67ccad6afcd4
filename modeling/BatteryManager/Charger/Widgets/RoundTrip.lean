import BatteryManager.Charger.Widgets
import BatteryManager.Info

namespace BatteryManager.Charger

open Library

-- A text that gives the bytes of a color in turn, each as two digits in either
-- case. A text that ends early leaves the last bytes zero, which makes a color
-- without the fourth byte transparent.
structure ColorText where
  text : String
  color : ColorType
  spells : ∃ mark digits bytes, utf8 text = mark :: digits ∧ mark ≠ 0 ∧ HexBytes digits bytes ∧
    color = ⟨bytes.getD 0 0, bytes.getD 1 0, bytes.getD 2 0, bytes.getD 3 0⟩

namespace ColorText

-- Any color can be written.
def ofColor (color : ColorType) : ColorText where
  text := String.ofList ('#' :: [color.red, color.green, color.blue, color.alpha].flatMap hexPair)
  color := color
  spells := by
    refine ⟨35, _, [color.red, color.green, color.blue, color.alpha], ?_, by decide, hexBytes_hexPair _, rfl⟩
    rw [utf8, String.toList_ofList, List.flatMap_cons]
    rfl

theorem textColor_text (color : ColorText) : textColor color.text = color.color := by
  obtain ⟨mark, digits, bytes, htext, hmark, hdigits, hcolor⟩ := color.spells
  have hwhole : cString (mark :: digits) = mark :: digits := by
    refine List.takeWhile_eq_self_iff.mpr fun c hc => ?_
    rcases List.mem_cons.mp hc with rfl | hc
    · simpa using hmark
    · simpa using hdigits.ne_zero c hc
  rw [textColor, htext, hwhole, strToColor_hexBytes hdigits mark, hcolor]

end ColorText

-- What a label and an image are meant to be.

structure LabelDesign where
  id : String
  x : Int
  y : Int
  w : Int
  h : Int
  text : String
  align : String
  fontSize : UInt8
  fontColor : ColorText
  bgColor : ColorText

structure ImageDesign where
  id : String
  x : Int
  y : Int
  w : Int
  h : Int
  resPath : String
  filePrefix : String
  imgCnt : UInt32
  updInterval : UInt32

-- A document for them. What stands before the components that count and behind
-- the three parts is anything.
structure AnimationDesign where
  image : ImageDesign
  percentLabel : LabelDesign
  lackPower : LabelDesign
  lackPowerNotCharge : LabelDesign
  beforeImage : List CJson := []
  beforeLackPower : List CJson := []
  beforeLackPowerNotCharge : List CJson := []
  others : List (String × CJson) := []

def LabelDesign.encode (label : LabelDesign) : CJson :=
  .Object [
    ("type", .Text ANIMATION_COM_LABEL),
    ("id", .Text label.id),
    ("text", .Text label.text),
    ("x", .Number label.x),
    ("y", .Number label.y),
    ("w", .Number label.w),
    ("h", .Number label.h),
    ("fontSize", .Number label.fontSize.toNat),
    ("fontColor", .Text label.fontColor.text),
    ("bgColor", .Text label.bgColor.text),
    ("align", .Text label.align)]

def LabelDesign.widget (label : LabelDesign) : LabelWidget where
  viewId := label.id
  x := label.x
  y := label.y
  w := label.w
  h := label.h
  text := label.text
  fontSize := label.fontSize
  textColor := label.fontColor.color
  backgroundColor := label.bgColor.color

def ImageDesign.encode (image : ImageDesign) : CJson :=
  .Object [
    ("type", .Text ANIMATION_COM_IMAGEVIEW),
    ("id", .Text image.id),
    ("x", .Number image.x),
    ("y", .Number image.y),
    ("w", .Number image.w),
    ("h", .Number image.h),
    ("resPath", .Text image.resPath),
    ("imgCnt", .Number (toInt32 image.imgCnt.toNat)),
    ("updInterval", .Number (toInt32 image.updInterval.toNat)),
    ("filePrefix", .Text image.filePrefix)]

def ImageDesign.widget (image : ImageDesign) : ImageWidget where
  viewId := image.id
  x := image.x
  y := image.y
  w := image.w
  h := image.h

-- What the animator is told.
def ImageDesign.info (image : ImageDesign) : ImageComponentInfo where
  resPath := image.resPath
  filePrefix := image.filePrefix
  imgCnt := image.imgCnt
  updInterval := image.updInterval
  common := ⟨image.x, image.y, image.w, image.h, image.id, ANIMATION_COM_IMAGEVIEW⟩

namespace AnimationDesign

variable (design : AnimationDesign)

def encode : CJson :=
  let part (components : List CJson) : CJson := .Object [(ANIMATION_COM, .Array components)]
  .Object ([
    (CHARGER_ANIMATION_NAME,
      part (design.beforeImage ++ [design.image.encode, design.percentLabel.encode])),
    (LACKPOWER_CHARGING_NAME, part (design.beforeLackPower ++ [design.lackPower.encode])),
    (LACKPOWER_NOT_CHARGING_NAME,
      part (design.beforeLackPowerNotCharge ++ [design.lackPowerNotCharge.encode]))] ++ design.others)

def widgets : Widgets where
  lackPower := design.lackPower.widget
  lackPowerNotCharge := design.lackPowerNotCharge.widget
  percentLabel := design.percentLabel.widget
  animatorImage := design.image.widget
  animatorCallback := { info := design.image.info }

end AnimationDesign

-- A component that gives everything replaces what the others have given.

theorem parseAnimationLabel_encode (label : LabelDesign) (info : LabelComponentInfo) :
    initLabel (parseAnimationLabel label.encode info) = label.widget := by
  have hsize : UInt8.ofInt label.fontSize.toNat = label.fontSize := by
    have hlt := label.fontSize.toNat_lt
    have hmod : (label.fontSize.toNat : Int) % 2 ^ 8 = label.fontSize.toNat := by omega
    rw [UInt8.ofInt, hmod, Int.toNat_natCast, UInt8.ofNat_toNat]
  have hfont := label.fontColor.textColor_text
  have hbackground := label.bgColor.textColor_text
  have hparsed : initLabel (parseAnimationLabel label.encode info) =
      { label.widget with
        fontSize := UInt8.ofInt label.fontSize.toNat
        textColor := textColor label.fontColor.text
        backgroundColor := textColor label.bgColor.text } := rfl
  rw [hparsed, hsize, hfont, hbackground]
  rfl

theorem parseAnimationImage_encode (image : ImageDesign) (info : ImageComponentInfo) :
    parseAnimationImage image.encode info = image.info := by
  have hparsed : parseAnimationImage image.encode info =
      { image.info with
        imgCnt := UInt32.ofInt (toInt32 image.imgCnt.toNat)
        updInterval := UInt32.ofInt (toInt32 image.updInterval.toNat) } := rfl
  rw [hparsed, ofInt_toInt32, ofInt_toInt32]
  rfl

theorem foldl_animation (image : ImageDesign) (label : LabelDesign) (before : List CJson)
    (info : ImageComponentInfo × LabelComponentInfo) :
    let parsed := (before ++ [image.encode, label.encode]).foldl parseAnimationComponent info
    parsed.1 = image.info ∧ initLabel parsed.2 = label.widget := by
  intro parsed
  have hparsed : parsed = parseAnimationComponent (parseAnimationComponent
      (before.foldl parseAnimationComponent info) image.encode) label.encode := List.foldl_append
  rw [hparsed]
  generalize before.foldl parseAnimationComponent info = earlier
  exact ⟨parseAnimationImage_encode image earlier.1, parseAnimationLabel_encode label earlier.2⟩

theorem foldl_prompt (label : LabelDesign) (before : List CJson) (info : LabelComponentInfo) :
    initLabel ((before ++ [label.encode]).foldl parsePromptComponent info) = label.widget := by
  rw [List.foldl_append]
  exact parseAnimationLabel_encode label (before.foldl parsePromptComponent info)

-- The charger builds what the document was written for, and a document can be
-- written in any colors.
theorem initAllComponents_encode (design : AnimationDesign) :
    initAllComponents (.Document design.encode) = some design.widgets ∧
      ∀ color, ∃ written : ColorText, written.color = color := by
  refine ⟨?_, fun color => ⟨.ofColor color, rfl⟩⟩
  obtain ⟨himage, hpercent⟩ :=
    foldl_animation design.image design.percentLabel design.beforeImage ({}, {})
  have hlack := foldl_prompt design.lackPower design.beforeLackPower {}
  have hnot := foldl_prompt design.lackPowerNotCharge design.beforeLackPowerNotCharge {}
  have hbuilt : initAllComponents (.Document design.encode) =
      some {
        lackPower := initLabel ((design.beforeLackPower ++ [design.lackPower.encode]).foldl
          parsePromptComponent {})
        lackPowerNotCharge := initLabel ((design.beforeLackPowerNotCharge ++
          [design.lackPowerNotCharge.encode]).foldl parsePromptComponent {})
        percentLabel := initLabel ((design.beforeImage ++
          [design.image.encode, design.percentLabel.encode]).foldl parseAnimationComponent ({}, {})).2
        animatorImage := initImageView ((design.beforeImage ++
          [design.image.encode, design.percentLabel.encode]).foldl parseAnimationComponent ({}, {})).1
        animatorCallback := { info := ((design.beforeImage ++
          [design.image.encode, design.percentLabel.encode]).foldl parseAnimationComponent ({}, {})).1 } } :=
    rfl
  rw [hbuilt, hlack, hnot, hpercent, himage]
  rfl

-- A color as it is written in the shipped document.
example : textColor "#ffffffe6" = ⟨255, 255, 255, 230⟩ := by decide

end BatteryManager.Charger
