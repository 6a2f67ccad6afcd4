import BatteryManager.Library.CString

namespace BatteryManager.Library

-- The bytes of a text, as C holds them.
def utf8 (text : String) : List UInt8 := text.toList.flatMap String.utf8EncodeChar

def hexValue? (c : UInt8) : Option Nat :=
  if 48 ≤ c ∧ c ≤ 57 then some (c.toNat - 48)
  else if 65 ≤ c ∧ c ≤ 70 then some (c.toNat - 55)
  else if 97 ≤ c ∧ c ≤ 102 then some (c.toNat - 87)
  else none

-- The digits at the front of a text.
def hexDigits : List UInt8 → List Nat
  | [] => []
  | c :: rest =>
      match hexValue? c with
      | some digit => digit :: hexDigits rest
      | none => []

def hexNumber (text : List UInt8) : Nat :=
  (hexDigits text).foldl (fun value digit => 16 * value + digit) 0

-- The mark in front of a number counts only if a digit follows it.
def skipHexMark : List UInt8 → List UInt8
  | zero :: mark :: digit :: rest =>
      if zero = 48 ∧ (mark = 120 ∨ mark = 88) ∧ (hexValue? digit).isSome then digit :: rest
      else zero :: mark :: digit :: rest
  | text => text

def ULLONG_MAX : Nat := 18446744073709551615

-- `strtoull` in base 16. A number out of range becomes the largest one, and any
-- other one is negated after a minus sign.
def strtoull (buf : List UInt8) : UInt64 :=
  match (cString buf).dropWhile isSpace with
  | [] => 0
  | c :: rest =>
      let magnitude := hexNumber (skipHexMark (if c = 45 ∨ c = 43 then rest else c :: rest))
      if ULLONG_MAX < magnitude then UInt64.ofNat ULLONG_MAX
      else if c = 45 then -UInt64.ofNat magnitude
      else UInt64.ofNat magnitude

-- The digits are none of the other characters that count.
theorem hexValue?_range {c : UInt8} {digit : Nat} (hdigit : hexValue? c = some digit) :
    48 ≤ c.toNat ∧ digit < 16 := by
  unfold hexValue? at hdigit
  simp only [UInt8.le_iff_toNat_le, UInt8.reduceToNat] at hdigit
  split at hdigit
  · cases hdigit
    omega
  · split at hdigit
    · cases hdigit
      omega
    · split at hdigit
      · cases hdigit
        omega
      · cases hdigit

theorem ne_of_hexValue? {c other : UInt8} {digit : Nat} (hdigit : hexValue? c = some digit)
    (hother : other.toNat < 48) : c ≠ other := by
  rintro rfl
  have hrange := (hexValue?_range hdigit).1
  omega

theorem isSpace_of_hexValue? {c : UInt8} {digit : Nat} (hdigit : hexValue? c = some digit) :
    isSpace c = false := by
  have hrange := (hexValue?_range hdigit).1
  have hspace : c ≠ 32 := ne_of_hexValue? hdigit (by decide)
  have hcontrol : ¬c ≤ 13 := by
    simp only [UInt8.le_iff_toNat_le, UInt8.reduceToNat]
    omega
  simp [isSpace, hspace, hcontrol]

-- `HexBytes digits bytes`: each byte is written as two digits.
inductive HexBytes : List UInt8 → List UInt8 → Prop
  | nil : HexBytes [] []
  | cons {high low : UInt8} {upper lower : Nat} {digits bytes : List UInt8} :
      hexValue? high = some upper → hexValue? low = some lower → HexBytes digits bytes →
      HexBytes (high :: low :: digits) (UInt8.ofNat (16 * upper + lower) :: bytes)

-- The digits end no string.
theorem HexBytes.ne_zero {digits bytes : List UInt8} (hdigits : HexBytes digits bytes) :
    ∀ c ∈ digits, c ≠ 0 := by
  have hzero : (0 : UInt8).toNat < 48 := by decide
  induction hdigits with
  | nil => simp
  | cons hhigh hlow _ ih =>
      intro c hc
      rcases List.mem_cons.mp hc with rfl | hc
      · exact ne_of_hexValue? hhigh hzero
      · rcases List.mem_cons.mp hc with rfl | hc
        · exact ne_of_hexValue? hlow hzero
        · exact ih c hc

theorem strtoull_pair {high low : UInt8} {upper lower : Nat} (hhigh : hexValue? high = some upper)
    (hlow : hexValue? low = some lower) : strtoull [high, low] = UInt64.ofNat (16 * upper + lower) := by
  have hzero : ∀ {c : UInt8} {digit : Nat}, hexValue? c = some digit → c ≠ 0 :=
    fun hdigit => ne_of_hexValue? hdigit (by decide)
  have htext : cString [high, low] = [high, low] := by
    simp [cString, hzero hhigh, hzero hlow]
  have hfront : [high, low].dropWhile isSpace = [high, low] := by
    simp [isSpace_of_hexValue? hhigh]
  have hminus : high ≠ 45 := ne_of_hexValue? hhigh (by decide)
  have hplus : high ≠ 43 := ne_of_hexValue? hhigh (by decide)
  have hnumber : hexNumber (skipHexMark [high, low]) = 16 * upper + lower := by
    simp [skipHexMark, hexNumber, hexDigits, hhigh, hlow]
  have hupper := (hexValue?_range hhigh).2
  have hlower := (hexValue?_range hlow).2
  have hfits : ¬ULLONG_MAX < 16 * upper + lower := by
    unfold ULLONG_MAX
    omega
  have hunsigned : ¬(high = 45 ∨ high = 43) := not_or.mpr ⟨hminus, hplus⟩
  unfold strtoull
  rw [htext, hfront]
  simp only [if_neg hunsigned, if_neg hminus, hnumber, if_neg hfits]

-- The digits that `printf` uses.
def hexChar (digit : Nat) : Char := Char.ofNat (if digit < 10 then 48 + digit else 87 + digit)

def hexPair (byte : UInt8) : List Char := [hexChar (byte.toNat / 16), hexChar (byte.toNat % 16)]

theorem hexChar_value : ∀ digit < 16,
    ∃ c, String.utf8EncodeChar (hexChar digit) = [c] ∧ hexValue? c = some digit := by
  have hdigits : ∀ digit < 16, String.utf8EncodeChar (hexChar digit) =
      [UInt8.ofNat (hexChar digit).toNat] ∧ hexValue? (UInt8.ofNat (hexChar digit).toNat) = some digit := by
    decide
  exact fun digit hdigit => ⟨_, hdigits digit hdigit⟩

theorem hexBytes_hexPair (bytes : List UInt8) :
    HexBytes ((bytes.flatMap hexPair).flatMap String.utf8EncodeChar) bytes := by
  induction bytes with
  | nil => exact .nil
  | cons byte rest ih =>
      have hbyte := byte.toNat_lt
      obtain ⟨high, hhigh, hupper⟩ := hexChar_value (byte.toNat / 16) (by omega)
      obtain ⟨low, hlow, hlower⟩ := hexChar_value (byte.toNat % 16) (by omega)
      have hwhole : UInt8.ofNat (16 * (byte.toNat / 16) + byte.toNat % 16) = byte := by
        rw [Nat.div_add_mod, UInt8.ofNat_toNat]
      have hpairs : ((byte :: rest).flatMap hexPair).flatMap String.utf8EncodeChar =
          high :: low :: (rest.flatMap hexPair).flatMap String.utf8EncodeChar := by
        simp only [List.flatMap_cons, hexPair, List.cons_append, List.nil_append, hhigh, hlow]
      have hcons := HexBytes.cons hupper hlower ih
      rw [hwhole] at hcons
      rw [hpairs]
      exact hcons

end BatteryManager.Library
