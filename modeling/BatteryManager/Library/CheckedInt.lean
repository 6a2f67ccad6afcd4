import Mathlib.Order.Basic

namespace BatteryManager.Library

-- Signed arithmetic of C++. A result outside of its type is no result.
def int32 (value : Int) : Option Int :=
  if -2147483648 ≤ value ∧ value ≤ 2147483647 then some value else none

def int64 (value : Int) : Option Int :=
  if -9223372036854775808 ≤ value ∧ value ≤ 9223372036854775807 then some value else none

-- Division rounds towards zero.
def divide64 (dividend divisor : Int) : Option Int :=
  if divisor = 0 then none else int64 (dividend.tdiv divisor)

section Ranges

variable {value dividend divisor : Int}

theorem int32_of_range (hlow : -2147483648 ≤ value) (hhigh : value ≤ 2147483647) :
    int32 value = some value :=
  if_pos ⟨hlow, hhigh⟩

theorem int32_of_gt (hbig : 2147483647 < value) : int32 value = none :=
  if_neg fun hin => Int.not_le.mpr hbig hin.2

theorem int64_of_range (hlow : -9223372036854775808 ≤ value) (hhigh : value ≤ 9223372036854775807) :
    int64 value = some value :=
  if_pos ⟨hlow, hhigh⟩

-- A quotient is no further from zero than the dividend.
theorem tdiv_bounds {bound : Int} (divisor : Int) (hlow : -bound ≤ dividend) (hhigh : dividend ≤ bound) :
    -bound ≤ dividend.tdiv divisor ∧ dividend.tdiv divisor ≤ bound := by
  have habs : (dividend.tdiv divisor).natAbs ≤ dividend.natAbs :=
    le_of_eq_of_le (Int.natAbs_tdiv dividend divisor) (Nat.div_le_self _ _)
  omega

theorem divide64_of_range (hdivisor : divisor ≠ 0) (hlow : -9223372036854775807 ≤ dividend)
    (hhigh : dividend ≤ 9223372036854775807) :
    divide64 dividend divisor = some (dividend.tdiv divisor) := by
  have hbounds := tdiv_bounds divisor hlow hhigh
  rw [divide64, if_neg hdivisor]
  exact int64_of_range (by omega) hbounds.2

theorem mul_bounds {left right : Int} {first second : Nat} (hleft : left.natAbs ≤ first)
    (hright : right.natAbs ≤ second) :
    -((first * second : Nat) : Int) ≤ left * right ∧ left * right ≤ (first * second : Nat) := by
  have habs := Nat.mul_le_mul hleft hright
  rw [← Int.natAbs_mul] at habs
  omega

end Ranges

end BatteryManager.Library
