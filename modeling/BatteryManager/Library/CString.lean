import Mathlib.Data.List.TakeWhile

namespace BatteryManager.Library

-- A buffer of bytes as C reads it, up to the first NUL.
def cString (buf : List UInt8) : List UInt8 := buf.takeWhile (· ≠ 0)

-- The length of the part of a string before the first byte of `reject`.
def strcspn (reject buf : List UInt8) : Nat := ((cString buf).takeWhile (· ∉ reject)).length

-- The bytes of an ASCII text.
def ascii (text : String) : List UInt8 := text.toList.map fun c => UInt8.ofNat c.toNat

def LONG_MAX : Int := 9223372036854775807
def LONG_MIN : Int := -9223372036854775808

def isSpace (c : UInt8) : Bool := c = 32 || 9 ≤ c && c ≤ 13

def isDigit (c : UInt8) : Bool := 48 ≤ c && c ≤ 57

def digitsValue (text : List UInt8) : Nat :=
  (text.takeWhile isDigit).foldl (fun value c => 10 * value + (c.toNat - 48)) 0

-- `strtol` in base 10, for a long of 64 bits. Without any digit it is zero, and
-- a number out of range becomes the nearest one in range.
def strtol (buf : List UInt8) : Int :=
  match (cString buf).dropWhile isSpace with
  | [] => 0
  | c :: rest =>
      if c = 45 then max LONG_MIN (-(digitsValue rest))
      else if c = 43 then min LONG_MAX (digitsValue rest)
      else min LONG_MAX (digitsValue (c :: rest))

@[simp] theorem cString_cString (buf : List UInt8) : cString (cString buf) = cString buf :=
  List.takeWhile_idem

theorem strtol_cString (buf : List UInt8) : strtol (cString buf) = strtol buf := by
  unfold strtol
  rw [cString_cString]

-- Nothing stands before a terminator at the front.
theorem cString_replicate_zero (n : Nat) : cString (List.replicate n 0) = [] := by
  cases n <;> simp [cString, List.replicate_succ]

-- The terminator is written right behind the bytes.
theorem cString_terminated (bytes rest : List UInt8) (next : UInt8) :
    cString ((bytes ++ next :: rest).set bytes.length 0) = cString bytes := by
  induction bytes with
  | nil => simp [cString]
  | cons byte bytes ih =>
      unfold cString at ih ⊢
      by_cases hbyte : byte = 0
      · simp [hbyte]
      · simp only [List.cons_append, List.length_cons, List.set_cons_succ, List.takeWhile_cons]
        rw [ih]

-- A string is cut at the first byte that is looked for.
theorem cString_cut (c : UInt8) (buf : List UInt8) :
    cString (buf.set (strcspn [c] buf) 0) = (cString buf).takeWhile (· ≠ c) := by
  induction buf with
  | nil => rfl
  | cons byte buf ih =>
      unfold strcspn cString at ih ⊢
      by_cases hbyte : byte = 0
      · simp [hbyte]
      · have hkept : (byte :: buf).takeWhile (· ≠ 0) = byte :: buf.takeWhile (· ≠ 0) := by simp [hbyte]
        rw [hkept]
        by_cases hc : byte = c
        · simp [hc]
        · have hnext : (byte :: buf.takeWhile (· ≠ 0)).takeWhile (· ∉ [c]) =
              byte :: (buf.takeWhile (· ≠ 0)).takeWhile (· ∉ [c]) := by simp [hc]
          rw [hnext, List.length_cons, List.set_cons_succ, List.takeWhile_cons, ih]
          simp [hbyte, hc]

end BatteryManager.Library
