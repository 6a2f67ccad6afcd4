import Mathlib.Data.Nat.Bitwise

namespace BatteryManager.Library

-- Three bytes in one word.
def packBytes (high middle low : UInt32) : UInt32 := (high <<< 16) ||| (middle <<< 8) ||| low

def highByte (word : UInt32) : Nat := ((word >>> 16) &&& 0xFF).toNat
def middleByte (word : UInt32) : Nat := ((word >>> 8) &&& 0xFF).toNat
def lowByte (word : UInt32) : Nat := (word &&& 0xFF).toNat

theorem highByte_eq (word : UInt32) : highByte word = word.toNat / 65536 % 256 := by
  have hmask := Nat.and_two_pow_sub_one_eq_mod (word.toNat / 65536) 8
  simpa [highByte, UInt32.toNat_and, Nat.shiftRight_eq_div_pow] using hmask

theorem middleByte_eq (word : UInt32) : middleByte word = word.toNat / 256 % 256 := by
  have hmask := Nat.and_two_pow_sub_one_eq_mod (word.toNat / 256) 8
  simpa [middleByte, UInt32.toNat_and, Nat.shiftRight_eq_div_pow] using hmask

theorem lowByte_eq (word : UInt32) : lowByte word = word.toNat % 256 := by
  have hmask := Nat.and_two_pow_sub_one_eq_mod word.toNat 8
  simpa [lowByte, UInt32.toNat_and] using hmask

theorem highByte_lt (word : UInt32) : highByte word < 256 := by
  have heq := highByte_eq word
  omega

theorem middleByte_lt (word : UInt32) : middleByte word < 256 := by
  have heq := middleByte_eq word
  omega

theorem lowByte_lt (word : UInt32) : lowByte word < 256 := by
  have heq := lowByte_eq word
  omega

-- A word of no more than three bytes is the sum of them.
theorem bytes_toNat {word : UInt32} (hword : word.toNat < 16777216) :
    highByte word * 65536 + middleByte word * 256 + lowByte word = word.toNat := by
  rw [highByte_eq, middleByte_eq, lowByte_eq]
  omega

-- The bytes do not overlap, so putting them together is adding them.
theorem packBytes_toNat {high middle low : UInt32} (hhigh : high.toNat < 256)
    (hmiddle : middle.toNat < 256) (hlow : low.toNat < 256) :
    (packBytes high middle low).toNat = high.toNat * 65536 + middle.toNat * 256 + low.toNat := by
  have hhighest : (high <<< 16).toNat = high.toNat * 65536 := by
    simp only [UInt32.toNat_shiftLeft, UInt32.reduceToNat, Nat.reduceMod, Nat.shiftLeft_eq]
    omega
  have hnext : (middle <<< 8).toNat = middle.toNat * 256 := by
    simp only [UInt32.toNat_shiftLeft, UInt32.reduceToNat, Nat.reduceMod, Nat.shiftLeft_eq]
    omega
  have hupper : high.toNat * 65536 ||| middle.toNat * 256 = high.toNat * 65536 + middle.toNat * 256 := by
    have hsum := Nat.shiftLeft_add_eq_or_of_lt (b := middle.toNat * 256) (i := 16) (by omega) high.toNat
    rw [Nat.shiftLeft_eq] at hsum
    exact hsum.symm
  have hall : high.toNat * 65536 + middle.toNat * 256 ||| low.toNat =
      high.toNat * 65536 + middle.toNat * 256 + low.toNat := by
    have hsum := Nat.shiftLeft_add_eq_or_of_lt (b := low.toNat) (i := 8) (by omega)
      (high.toNat * 256 + middle.toNat)
    have hshift : (high.toNat * 256 + middle.toNat) <<< 8 = high.toNat * 65536 + middle.toNat * 256 := by
      rw [Nat.shiftLeft_eq]
      omega
    rw [hshift] at hsum
    exact hsum.symm
  unfold packBytes
  rw [UInt32.toNat_or, UInt32.toNat_or, hhighest, hnext, hupper, hall]

theorem unpackBytes {high middle low : UInt32} (hhigh : high.toNat < 256)
    (hmiddle : middle.toNat < 256) (hlow : low.toNat < 256) :
    highByte (packBytes high middle low) = high.toNat ∧
    middleByte (packBytes high middle low) = middle.toNat ∧
    lowByte (packBytes high middle low) = low.toNat := by
  have hpack := packBytes_toNat hhigh hmiddle hlow
  rw [highByte_eq, middleByte_eq, lowByte_eq, hpack]
  refine ⟨?_, ?_, ?_⟩ <;> omega

theorem toNat_ofInt_byte {value : Int} (hlow : 0 ≤ value) (hhigh : value ≤ 255) :
    ((UInt32.ofInt value).toNat : Int) = value := by
  have hsmall : value % 4294967296 = value := Int.emod_eq_of_lt hlow (by omega)
  simp [UInt32.ofInt, hsmall]
  omega

end BatteryManager.Library
