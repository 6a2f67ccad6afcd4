import BatteryManager.Charger.AnimationConfig
import BatteryManager.Library.Hex

namespace BatteryManager.Charger

open Library

def TEXT_FONT : String := "ChargerAnimation_Sans_SC_Regular_Small.ttf"

-- What `GetColorFromRGBA` is given.
structure ColorType where
  red : UInt8 := 0
  green : UInt8 := 0
  blue : UInt8 := 0
  alpha : UInt8 := 0
  deriving DecidableEq

-- The base is 16 whatever the text begins with, and the result is cut to a byte.
def string2Int (str : List UInt8) : UInt8 := if str = [] then 0 else (strtoull str).toUInt8

-- The value of a field, and where the next one starts.
def getNextField (hexColor : List UInt8) (startPos : Nat) : UInt8 × Nat :=
  (if startPos > hexColor.length then 0 else string2Int ((hexColor.drop startPos).take 2), startPos + 2)

def strToColor (hexColor : List UInt8) : ColorType :=
  let r := getNextField hexColor 1
  let g := getNextField hexColor r.2
  let b := getNextField hexColor g.2
  let a := getNextField hexColor b.2
  ⟨r.1, g.1, b.1, a.1⟩

-- The color of a text that is passed with `c_str`.
def textColor (text : String) : ColorType := strToColor (cString (utf8 text))

structure LabelWidget where
  viewId : String
  x : Int
  y : Int
  w : Int
  h : Int
  text : String
  font : String := TEXT_FONT
  fontSize : UInt8
  textColor : ColorType
  backgroundColor : ColorType
  visible : Bool := false
  deriving DecidableEq

structure ImageWidget where
  viewId : String
  x : Int
  y : Int
  w : Int
  h : Int
  visible : Bool := false
  deriving DecidableEq

-- Nothing sets the member `visible` of a component, which starts as false.
def initLabel (info : LabelComponentInfo) : LabelWidget where
  viewId := info.common.id
  x := info.common.x
  y := info.common.y
  w := info.common.w
  h := info.common.h
  text := info.text
  fontSize := info.fontSize
  textColor := textColor info.fontColor
  backgroundColor := textColor info.bgColor

def initImageView (info : ImageComponentInfo) : ImageWidget where
  viewId := info.common.id
  x := info.common.x
  y := info.common.y
  w := info.common.w
  h := info.common.h

-- The pointers of `ChargerAnimation`, which are set together.
structure Widgets where
  lackPower : LabelWidget
  lackPowerNotCharge : LabelWidget
  percentLabel : LabelWidget
  animatorImage : ImageWidget
  animatorCallback : ChargerAnimatorCallback
  deriving DecidableEq

-- Without a configuration all of them stay null.
def initAllComponents (file : ConfigFile) : Option Widgets :=
  let parsed := ({} : AnimationConfig).parseConfig file
  if ¬parsed.1 then none
  else
    let config := parsed.2
    some {
      lackPower := initLabel config.chargingInfo
      lackPowerNotCharge := initLabel config.notChargingInfo
      percentLabel := initLabel config.animationInfo.2
      animatorImage := initImageView config.animationInfo.1
      animatorCallback := { info := config.animationInfo.1 } }

section Colors

variable {digits bytes : List UInt8}

-- A field that the text does not reach is zero in any case.
theorem getNextField_eq (hexColor : List UInt8) (startPos : Nat) :
    (getNextField hexColor startPos).1 = string2Int ((hexColor.drop startPos).take 2) := by
  unfold getNextField
  dsimp only
  split
  · rename_i hbeyond
    rw [List.drop_eq_nil_of_le (Nat.le_of_lt hbeyond)]
    rfl
  · rfl

theorem string2Int_pair {high low : UInt8} {upper lower : Nat} (hhigh : hexValue? high = some upper)
    (hlow : hexValue? low = some lower) : string2Int [high, low] = UInt8.ofNat (16 * upper + lower) := by
  unfold string2Int
  rw [if_neg (by simp), strtoull_pair hhigh hlow]
  apply UInt8.toNat_inj.mp
  simp only [UInt64.toNat_toUInt8, UInt64.toNat_ofNat', UInt8.toNat_ofNat']
  omega

-- The fields are the bytes in turn, and zero where the digits are at an end.
theorem string2Int_hexBytes (hdigits : HexBytes digits bytes) (field : Nat) :
    string2Int ((digits.drop (2 * field)).take 2) = bytes.getD field 0 := by
  induction hdigits generalizing field with
  | nil => simp [string2Int]
  | cons hhigh hlow _ ih =>
      cases field with
      | zero => simpa using string2Int_pair hhigh hlow
      | succ field =>
          have hdrop : 2 * (field + 1) = 2 * field + 1 + 1 := by omega
          rw [hdrop, List.drop_succ_cons, List.drop_succ_cons, List.getD_cons_succ]
          exact ih field

theorem strToColor_hexBytes (hdigits : HexBytes digits bytes) (mark : UInt8) :
    strToColor (mark :: digits) =
      ⟨bytes.getD 0 0, bytes.getD 1 0, bytes.getD 2 0, bytes.getD 3 0⟩ := by
  have hfield : ∀ field, (getNextField (mark :: digits) (2 * field + 1)).1 = bytes.getD field 0 := by
    intro field
    rw [getNextField_eq, List.drop_succ_cons]
    exact string2Int_hexBytes hdigits field
  unfold strToColor
  rw [ColorType.mk.injEq]
  exact ⟨hfield 0, hfield 1, hfield 2, hfield 3⟩

end Colors

end BatteryManager.Charger
