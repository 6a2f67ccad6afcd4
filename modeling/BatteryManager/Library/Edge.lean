import Mathlib.Data.List.Destutter

namespace BatteryManager.Library

section Destutter

variable {α : Type*} [DecidableEq α]

-- `destutter (· ≠ ·)` keeps the changes of a sequence of levels. These lemmas
-- follow it as the sequence grows at its end.

theorem destutter'_concat_ne (first : α) (levels : List α) (level : α) :
    (levels ++ [level]).destutter' (· ≠ ·) first =
      levels.destutter' (· ≠ ·) first ++
        if (first :: levels).getLast? = some level then [] else [level] := by
  induction levels generalizing first with
  | nil =>
      by_cases he : first = level <;> simp [he]
  | cons head tail ih =>
      by_cases he : first = head
      · subst head
        simp [ih first]
      · rw [List.cons_append, List.destutter'_cons_pos _ he, List.destutter'_cons_pos _ he, ih head]
        simp [List.getLast?_cons_cons]

theorem destutter_concat_ne (levels : List α) (level : α) :
    (levels ++ [level]).destutter (· ≠ ·) =
      levels.destutter (· ≠ ·) ++ if levels.getLast? = some level then [] else [level] := by
  cases levels with
  | nil => simp
  | cons first rest => exact destutter'_concat_ne first rest level

theorem getLast?_destutter_ne (levels : List α) :
    (levels.destutter (· ≠ ·)).getLast? = levels.getLast? := by
  induction levels using List.reverseRecOn with
  | nil => rfl
  | append_singleton levels level ih =>
      rw [destutter_concat_ne]
      split
      · rename_i hlast
        rw [List.append_nil, ih, hlast]
        simp
      · simp

end Destutter

section FilterPast

variable {ι : Type*}

-- The entries that satisfy a test that may look at everything before them.
def filterPast (test : List ι → ι → Bool) (past : List ι) : List ι → List ι
  | [] => []
  | entry :: rest =>
      if test past entry then entry :: filterPast test (past ++ [entry]) rest
      else filterPast test (past ++ [entry]) rest

theorem filterPast_concat (test : List ι → ι → Bool) (past history : List ι) (entry : ι) :
    filterPast test past (history ++ [entry]) =
      filterPast test past history ++ if test (past ++ history) entry then [entry] else [] := by
  induction history generalizing past with
  | nil => by_cases ht : test past entry = true <;> simp [filterPast, ht]
  | cons head tail ih =>
      have htail := ih (past ++ [head])
      by_cases ht : test past head = true <;>
        simp only [List.cons_append, filterPast, ht, if_true, htail, List.append_assoc,
          List.nil_append, Bool.false_eq_true, if_false]

end FilterPast

end BatteryManager.Library
