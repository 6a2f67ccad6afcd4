import Mathlib.Data.List.Basic

namespace BatteryManager.Library

variable {α : Type*} [DecidableEq α]

-- Split a list at the last occurrence of a separator.
def splitLast (sep : α) : List α → Option (List α × List α)
  | [] => none
  | head :: tail =>
      match splitLast sep tail with
      | some (before, after) => some (head :: before, after)
      | none => if head = sep then some ([], tail) else none

theorem splitLast_eq_none_iff (sep : α) (list : List α) :
    splitLast sep list = none ↔ sep ∉ list := by
  induction list with
  | nil => simp [splitLast]
  | cons head tail ih =>
      simp only [splitLast, List.mem_cons, not_or]
      cases hs : splitLast sep tail with
      | none =>
          have hn : sep ∉ tail := ih.mp hs
          by_cases he : head = sep
          · simp [he]
          · simp [he, hn, Ne.symm he]
      | some pair =>
          have hm : sep ∈ tail := by
            by_contra hn
            rw [ih.mpr hn] at hs
            cases hs
          simp [hm]

theorem splitLast_append (sep : α) (before after : List α) (hafter : sep ∉ after) :
    splitLast sep (before ++ sep :: after) = some (before, after) := by
  induction before with
  | nil => simp [splitLast, (splitLast_eq_none_iff sep after).mpr hafter]
  | cons head tail ih => simp [splitLast, ih]

theorem splitLast_eq_some {sep : α} {list before after : List α}
    (hsplit : splitLast sep list = some (before, after)) : list = before ++ sep :: after := by
  induction list generalizing before with
  | nil => cases hsplit
  | cons head tail ih =>
      unfold splitLast at hsplit
      split at hsplit
      · rename_i earlier later htail
        cases hsplit
        rw [ih htail, List.cons_append]
      · split at hsplit
        · rename_i hhead
          cases hsplit
          rw [hhead, List.nil_append]
        · cases hsplit

-- A list ends before its first separator or goes on behind it.
theorem separated_induction {motive : List α → Prop} (sep : α)
    (hlast : ∀ field, sep ∉ field → motive field)
    (hfield : ∀ field rest, sep ∉ field → motive rest → motive (field ++ sep :: rest)) (list : List α) :
    motive list := by
  induction hlength : list.length using Nat.strongRecOn generalizing list with
  | ind length ih =>
      by_cases hsep : sep ∈ list
      · obtain ⟨field, rest, rfl, hfirst⟩ := List.eq_append_cons_of_mem hsep
        have hshorter : rest.length < length := by
          rw [← hlength, List.length_append, List.length_cons]
          omega
        exact hfield field rest hfirst (ih rest.length hshorter rest rfl)
      · exact hlast list hsep

-- The text version of `splitLast`, where the separator is one character.
def rsplit (sep : Char) (text : String) : Option (String × String) :=
  (splitLast sep text.toList).map fun parts => (String.ofList parts.1, String.ofList parts.2)

theorem rsplit_append (sep : Char) (name rest act : String)
    (hrest : rest.toList = sep :: act.toList) (hact : sep ∉ act.toList) :
    rsplit sep (name ++ rest) = some (name, act) := by
  simp [rsplit, hrest, splitLast_append sep name.toList act.toList hact]

theorem rsplit_name_ne {sep : Char} {text name act : String}
    (hsplit : rsplit sep text = some (name, act)) : name ≠ text := by
  obtain ⟨⟨before, after⟩, hlist, hparts⟩ := Option.map_eq_some_iff.mp hsplit
  have htext := splitLast_eq_some hlist
  cases hparts
  intro hsame
  have hlength := congrArg (fun value => value.toList.length) hsame
  simp only [String.toList_ofList, htext, List.length_append, List.length_cons] at hlength
  omega

end BatteryManager.Library
