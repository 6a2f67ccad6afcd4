import Mathlib.Data.List.Basic
import Mathlib.Order.Lattice

namespace BatteryManager.Library

variable {α β : Type*} [LinearOrder α]

-- A table of upper bounds, tried in order. A row is taken when its bound is
-- defined and `x` lies above the bound of the row before it, whether or not
-- that one is defined.
def band (undefined x : α) (default : β) : α → List (α × β) → β
  | _, [] => default
  | previous, (bound, label) :: rest =>
      if bound ≠ undefined ∧ previous < x ∧ x ≤ bound then label
      else band undefined x default bound rest

-- The rows that have `x` within a defined bound.
def Covers (undefined x : α) (row : α × β) : Prop := row.1 ≠ undefined ∧ x ≤ row.1

instance (undefined x : α) (row : α × β) : Decidable (Covers undefined x row) :=
  inferInstanceAs (Decidable (_ ∧ _))

-- The defined bounds go up, whatever is undefined in between.
def Ascending (undefined : α) (rows : List (α × β)) : Prop :=
  rows.Pairwise fun lower upper => lower.1 ≠ undefined → upper.1 ≠ undefined → lower.1 < upper.1

def LeastCover (undefined x : α) (rows : List (α × β)) (row : α × β) : Prop :=
  row ∈ rows ∧ Covers undefined x row ∧ ∀ other ∈ rows, Covers undefined x other → row.1 ≤ other.1

theorem Covers.of_le {undefined x y : α} {row : α × β} (hcovers : Covers undefined y row)
    (hle : x ≤ y) : Covers undefined x row :=
  ⟨hcovers.1, le_trans hle hcovers.2⟩

-- Every row that is passed over has a bound below `x`, so the test against the
-- row before it never decides anything.
theorem band_eq_find (undefined x : α) (default : β) (hx : undefined < x) {previous : α}
    (hprevious : previous < x) (rows : List (α × β)) :
    band undefined x default previous rows =
      ((rows.find? fun row => Covers undefined x row).map Prod.snd).getD default := by
  induction rows generalizing previous with
  | nil => rfl
  | cons row rest ih =>
      obtain ⟨bound, label⟩ := row
      by_cases hcovers : Covers undefined x (bound, label)
      · have htaken : bound ≠ undefined ∧ previous < x ∧ x ≤ bound :=
          ⟨hcovers.1, hprevious, hcovers.2⟩
        simp [band, htaken, hcovers]
      · have hskipped : ¬(bound ≠ undefined ∧ previous < x ∧ x ≤ bound) :=
          fun htaken => hcovers ⟨htaken.1, htaken.2.2⟩
        have hbound : bound < x := by
          by_cases hdefined : bound = undefined
          · rw [hdefined]
            exact hx
          · exact lt_of_not_ge fun hle => hcovers ⟨hdefined, hle⟩
        rw [band, if_neg hskipped, ih hbound, List.find?_cons_of_neg (by simpa using hcovers)]

theorem find_covers_none (undefined x : α) (rows : List (α × β)) :
    (rows.find? fun row => Covers undefined x row) = none ↔
      ∀ row ∈ rows, ¬Covers undefined x row := by
  simp

theorem find_covers_least {undefined x : α} {rows : List (α × β)} (hascending : Ascending undefined rows)
    {row : α × β} (hfind : (rows.find? fun row => Covers undefined x row) = some row) :
    LeastCover undefined x rows row := by
  obtain ⟨hcovers, before, after, rfl, hbefore⟩ := List.find?_eq_some_iff_append.mp hfind
  have hrow : Covers undefined x row := by simpa using hcovers
  refine ⟨by simp, hrow, ?_⟩
  intro other hother hcover
  rcases List.mem_append.mp hother with hin | hin
  · have hnot := hbefore other hin
    simp [hcover] at hnot
  · rcases List.mem_cons.mp hin with rfl | hlater
    · exact le_refl _
    · have hpair := (List.pairwise_cons.mp (List.pairwise_append.mp hascending).2.1).1 other hlater
      exact le_of_lt (hpair hrow.1 hcover.1)

-- No two rows of an ascending table have the same defined bound.
theorem Ascending.eq_of_bound {undefined : α} {rows : List (α × β)} (hascending : Ascending undefined rows)
    {row other : α × β} (hrow : row ∈ rows) (hother : other ∈ rows) (hdefined : row.1 ≠ undefined)
    (hbound : row.1 = other.1) : row = other := by
  induction rows with
  | nil => cases hrow
  | cons first rest ih =>
      obtain ⟨hfirst, hrest⟩ := List.pairwise_cons.mp hascending
      have hsame : other.1 ≠ undefined := hbound ▸ hdefined
      rcases List.mem_cons.mp hrow with rfl | hin
      · rcases List.mem_cons.mp hother with rfl | hlater
        · rfl
        · exact absurd hbound (ne_of_lt (hfirst other hlater hdefined hsame))
      · rcases List.mem_cons.mp hother with rfl | hlater
        · exact absurd hbound (ne_of_gt (hfirst row hin hsame hdefined))
        · exact ih hrest hin hlater

theorem find_covers_iff {undefined x : α} {rows : List (α × β)} (hascending : Ascending undefined rows)
    (row : α × β) :
    (rows.find? fun row => Covers undefined x row) = some row ↔ LeastCover undefined x rows row := by
  constructor
  · exact find_covers_least hascending
  · rintro ⟨hmem, hcovers, hleast⟩
    cases hfind : rows.find? fun row => Covers undefined x row with
    | none => exact absurd hcovers ((find_covers_none undefined x rows).mp hfind row hmem)
    | some found =>
        obtain ⟨hfound, hcover, hlow⟩ := find_covers_least hascending hfind
        have hbound : found.1 = row.1 :=
          le_antisymm (hlow row hmem hcovers) (hleast found hfound hcover)
        rw [hascending.eq_of_bound hfound hmem hcover.1 hbound]

-- The larger value is within a later row, or within none.
theorem find_covers_mono {undefined x y : α} (hle : x ≤ y) (rank : β → Nat) (default : β)
    {rows : List (α × β)} (hrank : rows.Pairwise fun lower upper => rank upper.2 ≤ rank lower.2)
    (hdefault : ∀ row ∈ rows, rank default ≤ rank row.2) :
    rank (((rows.find? fun row => Covers undefined y row).map Prod.snd).getD default) ≤
      rank (((rows.find? fun row => Covers undefined x row).map Prod.snd).getD default) := by
  induction rows with
  | nil => exact Nat.le_refl _
  | cons row rest ih =>
      obtain ⟨hrow, hrest⟩ := List.pairwise_cons.mp hrank
      by_cases hx : Covers undefined x row
      · have hfound : ((row :: rest).find? fun row => Covers undefined x row) = some row :=
          List.find?_cons_of_pos (by simpa using hx)
        rw [hfound]
        cases hlater : (row :: rest).find? fun row => Covers undefined y row with
        | none => exact hdefault row (by simp)
        | some found =>
            rcases List.mem_cons.mp (List.mem_of_find?_eq_some hlater) with rfl | hin
            · exact Nat.le_refl _
            · exact hrow found hin
      · have hy : ¬Covers undefined y row := fun hcovers => hx (hcovers.of_le hle)
        have hskipx : ((row :: rest).find? fun row => Covers undefined x row) =
            rest.find? fun row => Covers undefined x row :=
          List.find?_cons_of_neg (by simpa using hx)
        have hskipy : ((row :: rest).find? fun row => Covers undefined y row) =
            rest.find? fun row => Covers undefined y row :=
          List.find?_cons_of_neg (by simpa using hy)
        rw [hskipx, hskipy]
        exact ih hrest fun other hother => hdefault other (by simp [hother])

end BatteryManager.Library
