import Mathlib.Data.List.Basic

namespace BatteryManager.Library

variable {α : Type*}

-- The pattern stands in the text from a position on.
def OccursAt (pattern text : List α) (pos : Nat) : Prop := pattern <+: text.drop pos

theorem OccursAt.getElem? {pattern text : List α} {pos n : Nat} {c : α}
    (hoccurs : OccursAt pattern text pos) (hc : pattern[n]? = some c) : text[pos + n]? = some c := by
  obtain ⟨rest, hrest⟩ := hoccurs
  obtain ⟨hn, -⟩ := List.getElem?_eq_some_iff.mp hc
  rw [← List.getElem?_drop, ← hrest, List.getElem?_append_left hn]
  exact hc

section Find

variable [DecidableEq α] {pattern text : List α}

-- Where the pattern occurs first.
def findFirst (pattern : List α) : List α → Option Nat
  | [] => if pattern = [] then some 0 else none
  | c :: text => if pattern <+: c :: text then some 0 else (findFirst pattern text).map (· + 1)

theorem findFirst_eq_none : findFirst pattern text = none ↔ ∀ pos, ¬OccursAt pattern text pos := by
  induction text with
  | nil => simp [findFirst, OccursAt]
  | cons c text ih =>
      unfold findFirst
      split_ifs with hstart
      · refine iff_of_false nofun fun hnone => hnone 0 hstart
      · rw [Option.map_eq_none_iff, ih]
        constructor
        · intro hnone pos
          cases pos with
          | zero => exact hstart
          | succ pos => exact hnone pos
        · exact fun hnone pos => hnone (pos + 1)

theorem findFirst_eq_some {pos : Nat} : findFirst pattern text = some pos ↔
    OccursAt pattern text pos ∧ ∀ earlier < pos, ¬OccursAt pattern text earlier := by
  induction text generalizing pos with
  | nil =>
      unfold findFirst OccursAt
      by_cases hpattern : pattern = []
      · cases pos with
        | zero => simp [hpattern]
        | succ pos =>
            refine iff_of_false (by simp [hpattern]) fun hsome => hsome.2 0 (Nat.succ_pos pos) ?_
            rw [hpattern]
            exact List.nil_prefix
      · simp [hpattern]
  | cons c text ih =>
      unfold findFirst
      split_ifs with hstart
      · constructor
        · intro hpos
          cases hpos
          exact ⟨hstart, nofun⟩
        · rintro ⟨-, hfirst⟩
          cases pos with
          | zero => rfl
          | succ pos => exact absurd hstart (hfirst 0 (Nat.succ_pos pos))
      · cases pos with
        | zero => exact iff_of_false (by simp) fun hzero => hstart hzero.1
        | succ pos =>
            rw [Option.map_eq_some_iff]
            constructor
            · rintro ⟨found, hfound, hsucc⟩
              cases Nat.succ.inj hsucc
              obtain ⟨hoccurs, hfirst⟩ := ih.mp hfound
              refine ⟨hoccurs, fun earlier hearlier => ?_⟩
              cases earlier with
              | zero => exact hstart
              | succ earlier => exact hfirst earlier (Nat.succ_lt_succ_iff.mp hearlier)
            · rintro ⟨hoccurs, hfirst⟩
              refine ⟨pos, ih.mpr ⟨hoccurs, fun earlier hearlier => ?_⟩, rfl⟩
              exact hfirst (earlier + 1) (Nat.succ_lt_succ hearlier)

theorem findFirst_split {pos : Nat} (hfind : findFirst pattern text = some pos) :
    ∃ before after, text = before ++ pattern ++ after ∧ before.length = pos := by
  obtain ⟨⟨after, hafter⟩, hfirst⟩ := findFirst_eq_some.mp hfind
  refine ⟨text.take pos, after, ?_, ?_⟩
  · rw [List.append_assoc, hafter, List.take_append_drop]
  · rw [List.length_take]
    by_contra hshort
    have hlength : text.length < pos := by omega
    have hnil : pattern ++ after = [] := by rw [hafter, List.drop_eq_nil_of_le (by omega)]
    refine hfirst text.length hlength ?_
    rw [(List.append_eq_nil_iff.mp hnil).1]
    exact List.nil_prefix

end Find

-- Wherever `middle` stands in a text, no occurrence of the pattern touches it.
def Avoids (pattern middle : List α) : Prop :=
  ∀ before after pos, OccursAt pattern (before ++ middle ++ after) pos →
    pos + pattern.length ≤ before.length ∨ before.length + middle.length ≤ pos

theorem occursAt_around {pattern middle : List α} (havoids : Avoids pattern middle)
    (before after : List α) (pos : Nat) (hpattern : pattern ≠ []) :
    OccursAt pattern (before ++ middle ++ after) pos ↔
      OccursAt pattern before pos ∨
        ∃ later, pos = later + (before.length + middle.length) ∧ OccursAt pattern after later := by
  constructor
  · intro hoccurs
    rcases havoids before after pos hoccurs with hbefore | hafter
    · left
      unfold OccursAt at hoccurs ⊢
      rw [List.append_assoc, List.drop_append_of_le_length (by omega)] at hoccurs
      refine List.prefix_of_prefix_length_le hoccurs (List.prefix_append _ _) ?_
      rw [List.length_drop]
      omega
    · right
      refine ⟨pos - (before.length + middle.length), by omega, ?_⟩
      unfold OccursAt at hoccurs ⊢
      rw [List.drop_append, List.drop_eq_nil_of_le (by rw [List.length_append]; exact hafter),
        List.length_append, List.nil_append] at hoccurs
      exact hoccurs
  · rintro (hbefore | ⟨later, rfl, hafter⟩)
    · have hpos : pos ≤ before.length := by
        by_contra hlong
        unfold OccursAt at hbefore
        rw [List.drop_eq_nil_of_le (by omega)] at hbefore
        exact hpattern (List.prefix_nil.mp hbefore)
      unfold OccursAt at hbefore ⊢
      rw [List.append_assoc, List.drop_append_of_le_length hpos]
      exact hbefore.trans (List.prefix_append _ _)
    · unfold OccursAt at hafter ⊢
      rw [List.drop_append, List.drop_eq_nil_of_le (by rw [List.length_append]; omega),
        List.length_append, List.nil_append, Nat.add_sub_cancel]
      exact hafter

theorem findFirst_around [DecidableEq α] {pattern middle : List α} (havoids : Avoids pattern middle)
    (hpattern : pattern ≠ []) (before after : List α) :
    findFirst pattern (before ++ middle ++ after) =
      (findFirst pattern before).or
        ((findFirst pattern after).map (· + (before.length + middle.length))) := by
  have haround := fun pos => occursAt_around havoids before after pos hpattern
  cases hbefore : findFirst pattern before with
  | some pos =>
      obtain ⟨hoccurs, hfirst⟩ := findFirst_eq_some.mp hbefore
      have hin : pos ≤ before.length := by
        obtain ⟨head, tail, hsplit, hlength⟩ := findFirst_split hbefore
        rw [hsplit, List.length_append, List.length_append]
        omega
      refine findFirst_eq_some.mpr ⟨(haround pos).mpr (.inl hoccurs), fun earlier hearlier => ?_⟩
      rw [haround]
      rintro (hbad | ⟨later, rfl, -⟩)
      · exact hfirst earlier hearlier hbad
      · omega
  | none =>
      have hnone := findFirst_eq_none.mp hbefore
      cases hafter : findFirst pattern after with
      | some pos =>
          obtain ⟨hoccurs, hfirst⟩ := findFirst_eq_some.mp hafter
          refine findFirst_eq_some.mpr ⟨(haround _).mpr (.inr ⟨pos, rfl, hoccurs⟩), ?_⟩
          intro earlier hearlier
          dsimp only at hearlier
          rw [haround]
          rintro (hbad | ⟨later, rfl, hbad⟩)
          · exact hnone earlier hbad
          · exact hfirst later (by omega) hbad
      | none =>
          refine findFirst_eq_none.mpr fun pos => ?_
          rw [haround]
          rintro (hbad | ⟨later, -, hbad⟩)
          · exact hnone pos hbad
          · exact findFirst_eq_none.mp hafter later hbad

-- The last character of the pattern is not in the middle, and the last one of
-- the middle is not in the pattern.
theorem avoids_of_last {body text : List α} {stop close : α} (hstop : stop ∉ text ++ [close])
    (hclose : close ∉ body ++ [stop]) : Avoids (body ++ [stop]) (text ++ [close]) := by
  intro before after pos hoccurs
  by_contra htouches
  simp only [List.length_append, List.length_singleton] at htouches
  have hlast : (before ++ (text ++ [close]) ++ after)[pos + body.length]? = some stop :=
    hoccurs.getElem? List.getElem?_concat_length
  rw [List.append_assoc, List.getElem?_append_right (by omega)] at hlast
  by_cases hinside : pos + body.length - before.length < (text ++ [close]).length
  · rw [List.getElem?_append_left hinside] at hlast
    exact hstop (List.mem_of_getElem? hlast)
  · simp only [List.length_append, List.length_singleton] at hinside
    -- The pattern reaches past the middle, so it covers the last character of it.
    obtain ⟨n, hn⟩ : ∃ n, pos + n = before.length + text.length :=
      ⟨before.length + text.length - pos, by omega⟩
    have hbound : n < (body ++ [stop]).length := by
      rw [List.length_append]
      omega
    have hcovers := hoccurs.getElem? (List.getElem?_eq_getElem hbound)
    rw [hn, List.append_assoc, List.getElem?_append_right (by omega), Nat.add_sub_cancel_left,
      List.append_assoc, List.getElem?_append_right (Nat.le_refl _), Nat.sub_self] at hcovers
    have hsame : close = (body ++ [stop])[n] := Option.some.inj hcovers
    exact hclose (hsame ▸ List.getElem_mem hbound)

-- Two patterns of one length that have their first characters only at the start.
theorem avoids_of_head {head other : α} {tail rest : List α} (hlength : tail.length = rest.length)
    (hhead : head ∉ rest) (hother : other ∉ tail) (hne : head :: tail ≠ other :: rest) :
    Avoids (head :: tail) (other :: rest) := by
  intro before after pos hoccurs
  by_contra htouches
  simp only [List.length_cons] at htouches
  have hmiddle : OccursAt (other :: rest) (before ++ (other :: rest) ++ after) before.length := by
    unfold OccursAt
    rw [List.append_assoc, List.drop_left]
    exact List.prefix_append _ _
  rcases Nat.lt_trichotomy pos before.length with hlt | heq | hgt
  · obtain ⟨n, hn⟩ : ∃ n, pos + (n + 1) = before.length := ⟨before.length - pos - 1, by omega⟩
    have hbound : n < tail.length := by omega
    have hcovers := hoccurs.getElem? (n := n + 1) (List.getElem?_eq_getElem hbound)
    have hstarts : (before ++ other :: rest ++ after)[before.length + 0]? = some other :=
      hmiddle.getElem? rfl
    rw [hn] at hcovers
    have hsame : tail[n] = other := Option.some.inj (hcovers.symm.trans hstarts)
    exact hother (hsame ▸ List.getElem_mem hbound)
  · subst heq
    have hleading := List.prefix_of_prefix_length_le hoccurs hmiddle (by simp [hlength])
    exact hne (hleading.eq_of_length (by simp [hlength]))
  · obtain ⟨n, hn⟩ : ∃ n, before.length + (n + 1) = pos := ⟨pos - before.length - 1, by omega⟩
    have hbound : n < rest.length := by omega
    have hcovers := hmiddle.getElem? (n := n + 1) (List.getElem?_eq_getElem hbound)
    have hstarts : (before ++ other :: rest ++ after)[pos + 0]? = some head := hoccurs.getElem? rfl
    rw [hn] at hcovers
    have hsame : rest[n] = head := Option.some.inj (hcovers.symm.trans hstarts)
    exact hhead (hsame ▸ List.getElem_mem hbound)

-- `replace` of `length` characters from a position on.
def replaceAt (text : List α) (pos length : Nat) (inserted : List α) : List α :=
  text.take pos ++ inserted ++ text.drop (pos + length)

theorem replaceAt_middle (before pattern after inserted : List α) :
    replaceAt (before ++ pattern ++ after) before.length pattern.length inserted =
      before ++ inserted ++ after := by
  unfold replaceAt
  rw [← List.length_append, List.drop_left, List.append_assoc before pattern after, List.take_left]

-- The text with every edit made at once. An edit takes the place of `width`
-- characters of the original, of which `skip` are still to be passed over.
def substitute (edits : Nat → Option (List α)) (width : Nat) : Nat → Nat → List α → List α
  | _, _, [] => []
  | pos, skip + 1, _ :: text => substitute edits width (pos + 1) skip text
  | pos, 0, c :: text =>
      match edits pos with
      | none => c :: substitute edits width (pos + 1) 0 text
      | some inserted => inserted ++ substitute edits width (pos + 1) (width - 1) text

section Substitute

variable {edits : Nat → Option (List α)} {width pos : Nat}

theorem substitute_keep {kept : List α} (rest : List α)
    (hkept : ∀ n < kept.length, edits (pos + n) = none) :
    substitute edits width pos 0 (kept ++ rest) =
      kept ++ substitute edits width (pos + kept.length) 0 rest := by
  induction kept generalizing pos with
  | nil => rfl
  | cons c kept ih =>
      have hhere : edits pos = none := hkept 0 (Nat.succ_pos _)
      have hlater : ∀ n < kept.length, edits (pos + 1 + n) = none := by
        intro n hn
        rw [Nat.add_assoc, Nat.add_comm 1 n]
        exact hkept (n + 1) (Nat.succ_lt_succ hn)
      rw [List.cons_append, substitute, hhere, ih hlater, List.length_cons, Nat.add_assoc,
        Nat.add_comm 1 kept.length]
      rfl

theorem substitute_skip (skipped rest : List α) :
    substitute edits width pos skipped.length (skipped ++ rest) =
      substitute edits width (pos + skipped.length) 0 rest := by
  induction skipped generalizing pos with
  | nil => rfl
  | cons c skipped ih =>
      rw [List.length_cons, List.cons_append, substitute, ih, Nat.add_assoc,
        Nat.add_comm 1 skipped.length]

theorem substitute_none {text : List α} (hnone : ∀ later, pos ≤ later → edits later = none) :
    substitute edits width pos 0 text = text := by
  have hkept : ∀ n < text.length, edits (pos + n) = none := fun n _ =>
    hnone (pos + n) (Nat.le_add_right pos n)
  have hkeep : substitute edits width pos 0 (text ++ []) = _ := substitute_keep [] hkept
  rwa [List.append_nil, substitute, List.append_nil] at hkeep

-- The text up to the first edit, and the edit.
theorem substitute_first {before placeholder inserted : List α} (after : List α)
    (hwidth : placeholder.length = width) (hplaceholder : placeholder ≠ [])
    (hbefore : ∀ n < before.length, edits (pos + n) = none)
    (hedit : edits (pos + before.length) = some inserted) :
    substitute edits width pos 0 (before ++ placeholder ++ after) =
      before ++ inserted ++ substitute edits width (pos + before.length + width) 0 after := by
  rw [List.append_assoc, substitute_keep _ hbefore, List.append_assoc]
  obtain ⟨c, tail, rfl⟩ := List.exists_cons_of_ne_nil hplaceholder
  subst hwidth
  rw [List.cons_append, substitute, hedit]
  dsimp only
  rw [List.length_cons, Nat.add_sub_cancel, substitute_skip, Nat.add_assoc (pos + before.length),
    Nat.add_comm 1 tail.length]

end Substitute

-- The edits at the first occurrences of two patterns.
def editsAt (found foundOther : Option Nat) (inserted other : List α) (pos : Nat) : Option (List α) :=
  if found = some pos then some inserted else if foundOther = some pos then some other else none

section Edits

variable {found foundOther : Option Nat} {pos : Nat} (inserted other : List α)

theorem editsAt_none (hfound : found ≠ some pos) (hother : foundOther ≠ some pos) :
    editsAt found foundOther inserted other pos = none := by
  rw [editsAt, if_neg hfound, if_neg hother]

theorem editsAt_first (hfound : found = some pos) :
    editsAt found foundOther inserted other pos = some inserted := by
  rw [editsAt, if_pos hfound]

theorem editsAt_second (hfound : found ≠ some pos) (hother : foundOther = some pos) :
    editsAt found foundOther inserted other pos = some other := by
  rw [editsAt, if_neg hfound, if_pos hother]

theorem some_ne_some {n m : Nat} (hne : n ≠ m) : some n ≠ some m :=
  fun hsame => hne (Option.some.inj hsame)

end Edits

section Replace

variable [DecidableEq α] {first second inserted other : List α}

def replaceFirst (pattern inserted text : List α) : List α :=
  match findFirst pattern text with
  | none => text
  | some pos => replaceAt text pos pattern.length inserted

theorem replaceFirst_none {pattern text : List α} (hfind : findFirst pattern text = none)
    (inserted : List α) : replaceFirst pattern inserted text = text := by
  rw [replaceFirst, hfind]

theorem replaceFirst_middle {pattern before after : List α}
    (hfind : findFirst pattern (before ++ pattern ++ after) = some before.length) (inserted : List α) :
    replaceFirst pattern inserted (before ++ pattern ++ after) = before ++ inserted ++ after := by
  rw [replaceFirst, hfind]
  exact replaceAt_middle before pattern after inserted

def replaceBoth (first second inserted other text : List α) : List α :=
  substitute (editsAt (findFirst first text) (findFirst second text) inserted other) first.length 0 0 text

section Cases

variable {before middle after text : List α}

-- Only the second pattern is there.
theorem replaceBoth_second (hlength : second.length = first.length) (hsecond : second ≠ [])
    (hnone : findFirst first text = none) :
    replaceBoth first second inserted other text = replaceFirst second other text := by
  unfold replaceBoth
  rw [hnone]
  cases hfind : findFirst second text with
  | none =>
      rw [replaceFirst_none hfind, substitute_none]
      exact fun pos _ => editsAt_none _ _ nofun nofun
  | some pos =>
      obtain ⟨before, after, rfl, rfl⟩ := findFirst_split hfind
      have hpositive := List.length_pos_iff.mpr hsecond
      have hedit : editsAt none (some before.length) inserted other (0 + before.length) = some other :=
        editsAt_second inserted other nofun (congrArg some (Nat.zero_add before.length).symm)
      rw [replaceFirst_middle hfind, substitute_first after hlength hsecond ?_ hedit, substitute_none]
      · exact fun pos hpos => editsAt_none _ _ nofun (some_ne_some (by omega))
      · exact fun n hn => editsAt_none _ _ nofun (some_ne_some (by omega))

-- Only the first pattern is there.
theorem replaceBoth_first (hfirst : first ≠ [])
    (hfind : findFirst first (before ++ first ++ after) = some before.length)
    (hnone : findFirst second (before ++ first ++ after) = none) :
    replaceBoth first second inserted other (before ++ first ++ after) = before ++ inserted ++ after := by
  have hpositive := List.length_pos_iff.mpr hfirst
  have hedit : editsAt (some before.length) none inserted other (0 + before.length) = some inserted :=
    editsAt_first inserted other (congrArg some (Nat.zero_add before.length).symm)
  unfold replaceBoth
  rw [hfind, hnone, substitute_first after rfl hfirst ?_ hedit, substitute_none]
  · exact fun pos hpos => editsAt_none _ _ (some_ne_some (by omega)) nofun
  · exact fun n hn => editsAt_none _ _ (some_ne_some (by omega)) nofun

theorem replaceBoth_first_second (hlength : second.length = first.length) (hfirst : first ≠ [])
    (hfind : findFirst first (before ++ first ++ (middle ++ second ++ after)) = some before.length)
    (hfindOther : findFirst second (before ++ first ++ (middle ++ second ++ after)) =
      some (middle.length + (before.length + first.length))) :
    replaceBoth first second inserted other (before ++ first ++ (middle ++ second ++ after)) =
      before ++ inserted ++ (middle ++ other ++ after) := by
  have hpositive := List.length_pos_iff.mpr hfirst
  have hsecond : second ≠ [] := List.length_pos_iff.mp (hlength ▸ hpositive)
  unfold replaceBoth
  rw [hfind, hfindOther, substitute_first _ rfl hfirst ?_ (editsAt_first inserted other ?_),
    substitute_first after hlength hsecond ?_ (editsAt_second inserted other ?_ ?_), substitute_none]
  · exact fun pos hpos => editsAt_none _ _ (some_ne_some (by omega)) (some_ne_some (by omega))
  · exact fun n hn => editsAt_none _ _ (some_ne_some (by omega)) (some_ne_some (by omega))
  · exact some_ne_some (by omega)
  · exact congrArg some (by omega)
  · exact fun n hn => editsAt_none _ _ (some_ne_some (by omega)) (some_ne_some (by omega))
  · exact congrArg some (Nat.zero_add _).symm

theorem replaceBoth_second_first (hlength : second.length = first.length) (hfirst : first ≠ [])
    (hfind : findFirst first (before ++ second ++ (middle ++ first ++ after)) =
      some (before.length + second.length + middle.length))
    (hfindOther : findFirst second (before ++ second ++ (middle ++ first ++ after)) =
      some before.length) :
    replaceBoth first second inserted other (before ++ second ++ (middle ++ first ++ after)) =
      before ++ other ++ (middle ++ inserted ++ after) := by
  have hpositive := List.length_pos_iff.mpr hfirst
  have hsecond : second ≠ [] := List.length_pos_iff.mp (hlength ▸ hpositive)
  unfold replaceBoth
  rw [hfind, hfindOther, substitute_first _ hlength hsecond ?_ (editsAt_second inserted other ?_ ?_),
    substitute_first after rfl hfirst ?_ (editsAt_first inserted other ?_), substitute_none]
  · exact fun pos hpos => editsAt_none _ _ (some_ne_some (by omega)) (some_ne_some (by omega))
  · exact fun n hn => editsAt_none _ _ (some_ne_some (by omega)) (some_ne_some (by omega))
  · exact congrArg some (by omega)
  · exact fun n hn => editsAt_none _ _ (some_ne_some (by omega)) (some_ne_some (by omega))
  · exact some_ne_some (by omega)
  · exact congrArg some (Nat.zero_add _).symm

end Cases

-- One replacement after the other is both at once, where no occurrence of the
-- second pattern touches the first pattern or what takes its place.
theorem replaceFirst_replaceFirst (hlength : second.length = first.length) (hsecond : second ≠ [])
    (hoverlap : Avoids second first) (hinserted : Avoids second inserted) (text : List α) :
    replaceFirst second other (replaceFirst first inserted text) =
      replaceBoth first second inserted other text := by
  have hpositive := List.length_pos_iff.mpr hsecond
  have hfirst : first ≠ [] := List.length_pos_iff.mp (hlength ▸ hpositive)
  cases hfind : findFirst first text with
  | none => rw [replaceFirst_none hfind, replaceBoth_second hlength hsecond hfind]
  | some pos =>
      obtain ⟨before, after, rfl, rfl⟩ := findFirst_split hfind
      have hpresent := findFirst_around hoverlap hsecond before after
      have hreplaced := findFirst_around hinserted hsecond before after
      rw [replaceFirst_middle hfind]
      cases hbefore : findFirst second before with
      | some pos =>
          obtain ⟨head, tail, rfl, rfl⟩ := findFirst_split hbefore
          rw [hbefore, Option.some_or] at hpresent hreplaced
          have hshape : ∀ middle : List α, head ++ second ++ tail ++ middle ++ after =
              head ++ second ++ (tail ++ middle ++ after) := by
            intro middle
            simp only [List.append_assoc]
          rw [hshape] at hfind hpresent hreplaced ⊢
          rw [hshape, replaceFirst_middle hreplaced, replaceBoth_second_first hlength hfirst ?_ hpresent]
          rw [hfind, List.length_append, List.length_append]
      | none =>
          rw [hbefore, Option.none_or] at hpresent hreplaced
          cases hafter : findFirst second after with
          | some pos =>
              obtain ⟨middle, tail, rfl, rfl⟩ := findFirst_split hafter
              rw [hafter, Option.map_some] at hpresent hreplaced
              rw [replaceBoth_first_second hlength hfirst hfind hpresent]
              have hshape : ∀ placed : List α, before ++ inserted ++ (middle ++ placed ++ tail) =
                  before ++ inserted ++ middle ++ placed ++ tail := by
                intro placed
                simp only [List.append_assoc]
              rw [hshape] at hreplaced ⊢
              rw [hshape]
              refine replaceFirst_middle ?_ other
              rw [hreplaced, List.length_append, List.length_append, Nat.add_comm]
          | none =>
              rw [hafter, Option.map_none] at hpresent hreplaced
              rw [replaceFirst_none hreplaced, replaceBoth_first hfirst hfind hpresent]

end Replace

end BatteryManager.Library
