import BatteryManager.Library.CJson
import BatteryManager.Library.CString
import BatteryManager.Library.Substitution
import Mathlib.Data.List.DropRight

namespace BatteryManager

open Library

def WATT : UInt8 := 87
def PERCENT : UInt8 := 37
def VALID_STRING_LEN : Nat := 2

-- What the string table of the locale and the service give.
structure NotificationLocale where
  stringMap : Table (List UInt8)
  getBatteryConfig : String → List UInt8

-- `substr(0, size - removed)`. A difference below zero is not a length.
def substrBefore (removed : Nat) (text : List UInt8) : Option (List UInt8) :=
  if removed ≤ text.length then some (text.take (text.length - removed)) else none

def getPowerDisplayString (text power batteryLevel : List UInt8) : List UInt8 :=
  if power = [] ∨ batteryLevel = [] then text
  else
    replaceFirst (ascii "%2$s") (batteryLevel ++ [PERCENT])
      (replaceFirst (ascii "%1$s") (power ++ [WATT]) text)

namespace NotificationLocale

variable (locale : NotificationLocale)

def fillTextWithPower (text : List UInt8) : Option (List UInt8) :=
  let powerStr := locale.getBatteryConfig "max_power"
  let batteryLevelStr := locale.getBatteryConfig "sink_bat_level"
  if powerStr.length ≤ VALID_STRING_LEN + 1 ∨ batteryLevelStr.length ≤ VALID_STRING_LEN then
    some ((locale.stringMap "reverse_super_charge_start_text").getD text)
  else
    (substrBefore (VALID_STRING_LEN + 1) powerStr).bind fun power =>
      (substrBefore VALID_STRING_LEN batteryLevelStr).map fun batteryLevel =>
        getPowerDisplayString text power batteryLevel

end NotificationLocale

theorem substrBefore_eq {removed : Nat} {text : List UInt8} (hlong : removed < text.length) :
    substrBefore removed text = some (text.rdrop removed) ∧ text.rdrop removed ≠ [] := by
  refine ⟨if_pos hlong.le, ?_⟩
  rw [List.rdrop, Ne, List.take_eq_nil_iff]
  rintro (hzero | rfl)
  · omega
  · cases hlong

example : getPowerDisplayString (ascii "%1$s / %2$s") (ascii "10") (ascii "0") = ascii "10W / 0%" := by
  decide

-- Without an 's' (115) in the power, neither the text put in nor its ends can be
-- a part of the second placeholder.
theorem replace_at_once {power : List UInt8} (hpower : 115 ∉ power) (batteryLevel text : List UInt8) :
    replaceFirst (ascii "%2$s") (batteryLevel ++ [PERCENT])
        (replaceFirst (ascii "%1$s") (power ++ [WATT]) text) =
      replaceBoth (ascii "%1$s") (ascii "%2$s") (power ++ [WATT]) (batteryLevel ++ [PERCENT]) text := by
  have hoverlap : Avoids ((37 : UInt8) :: [50, 36, 115]) (37 :: [49, 36, 115]) :=
    avoids_of_head rfl (by decide) (by decide) (by decide)
  have hstop : 115 ∉ power ++ [WATT] := by
    rw [List.mem_append, not_or]
    exact ⟨hpower, by decide⟩
  have hinserted : Avoids ([37, 50, 36] ++ [115]) (power ++ [WATT]) := avoids_of_last hstop (by decide)
  exact replaceFirst_replaceFirst (by decide) (by decide) hoverlap hinserted text

namespace NotificationLocale

variable (locale : NotificationLocale)

-- No length is out of range.
theorem fillTextWithPower_eq (text : List UInt8) :
    locale.fillTextWithPower text = some
      (if (locale.getBatteryConfig "max_power").length ≤ 3 ∨
          (locale.getBatteryConfig "sink_bat_level").length ≤ 2 then
        (locale.stringMap "reverse_super_charge_start_text").getD text
      else
        getPowerDisplayString text ((locale.getBatteryConfig "max_power").rdrop 3)
          ((locale.getBatteryConfig "sink_bat_level").rdrop 2)) := by
  unfold fillTextWithPower VALID_STRING_LEN
  dsimp only
  split_ifs with hshort
  · rfl
  · obtain ⟨hpower, hlevel⟩ := not_or.mp hshort
    rw [(substrBefore_eq (Nat.not_le.mp hpower)).1, (substrBefore_eq (Nat.not_le.mp hlevel)).1]
    rfl

-- The text is filled in as if both placeholders were replaced at the same time.
theorem fillTextWithPower_replacesBoth (text : List UInt8)
    (hpower : 115 ∉ locale.getBatteryConfig "max_power") :
    locale.fillTextWithPower text = some
      (if (locale.getBatteryConfig "max_power").length ≤ 3 ∨
          (locale.getBatteryConfig "sink_bat_level").length ≤ 2 then
        (locale.stringMap "reverse_super_charge_start_text").getD text
      else
        replaceBoth (ascii "%1$s") (ascii "%2$s")
          ((locale.getBatteryConfig "max_power").rdrop 3 ++ [WATT])
          ((locale.getBatteryConfig "sink_bat_level").rdrop 2 ++ [PERCENT]) text) := by
  rw [fillTextWithPower_eq]
  split_ifs with hshort
  · rfl
  · obtain ⟨hlong, hlevel⟩ := not_or.mp hshort
    have hpowerNonempty := (substrBefore_eq (Nat.not_le.mp hlong)).2
    have hlevelNonempty := (substrBefore_eq (Nat.not_le.mp hlevel)).2
    have hkept : 115 ∉ (locale.getBatteryConfig "max_power").rdrop 3 := fun hmem =>
      hpower (List.mem_of_mem_take hmem)
    rw [getPowerDisplayString, if_neg (not_or.mpr ⟨hpowerNonempty, hlevelNonempty⟩),
      replace_at_once hkept]

end NotificationLocale

def detailedLocale : NotificationLocale where
  stringMap := Table.empty
  getBatteryConfig := fun config => if config = "max_power" then ascii "90000" else ascii "5000"

theorem fillTextWithPower_replacesBoth_test :
    detailedLocale.fillTextWithPower (ascii "Output: %1$s, Device: %2$s") =
      some (ascii "Output: 90W, Device: 50%") := by
  have hfilled := detailedLocale.fillTextWithPower_replacesBoth (ascii "Output: %1$s, Device: %2$s")
    (by decide)
  rw [hfilled]
  decide

end BatteryManager
