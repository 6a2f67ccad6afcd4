import Mathlib.Data.List.Count

namespace BatteryManager.Library

-- What a program does with the resources that it is given.
inductive Use (ρ : Type*)
  | Acquire (resource : ρ)
  | Release (resource : ρ)
  | Write (resource : ρ)
  deriving DecidableEq

variable {ρ : Type*} [DecidableEq ρ]

-- A resource is held while it has been acquired more often than released.
def Outstanding (trace : List (Use ρ)) (resource : ρ) : Prop :=
  trace.count (.Release resource) < trace.count (.Acquire resource)

-- Every resource is given back as often as it is acquired, only what is held is
-- given back, and what has been given back is not written to.
structure ReleasedOnce (trace : List (Use ρ)) : Prop where
  balanced : ∀ resource, trace.count (.Release resource) = trace.count (.Acquire resource)
  acquired : ∀ before resource after,
    trace = before ++ .Release resource :: after → Outstanding before resource
  written : ∀ before resource after, trace = before ++ .Write resource :: after →
    .Release resource ∈ before → Outstanding before resource

-- The resources that are held after a trace. A trace that gives back or writes
-- to something that is not held has no result.
def replay : List ρ → List (Use ρ) → Option (List ρ)
  | held, [] => some held
  | held, .Acquire resource :: rest => replay (resource :: held) rest
  | held, .Release resource :: rest =>
      if resource ∈ held then replay (held.erase resource) rest else none
  | held, .Write resource :: rest => if resource ∈ held then replay held rest else none

theorem replay_append (held : List ρ) (first second : List (Use ρ)) :
    replay held (first ++ second) = (replay held first).bind fun between => replay between second := by
  induction first generalizing held with
  | nil => rfl
  | cons use rest ih =>
      cases use with
      | Acquire resource => exact ih (resource :: held)
      | Release resource =>
          by_cases hmem : resource ∈ held
          · simp [replay, hmem, ih]
          · simp [replay, hmem]
      | Write resource =>
          by_cases hmem : resource ∈ held
          · simp [replay, hmem, ih]
          · simp [replay, hmem]

-- The account of one resource: what was held and what is acquired is still held
-- or has been given back.
theorem replay_count {held last : List ρ} {trace : List (Use ρ)} (hreplay : replay held trace = some last)
    (resource : ρ) :
    held.count resource + trace.count (.Acquire resource) =
      last.count resource + trace.count (.Release resource) := by
  induction trace generalizing held with
  | nil =>
      cases hreplay
      rfl
  | cons use rest ih =>
      cases use with
      | Acquire other =>
          have hrest := ih hreplay
          simp only [List.count_cons, beq_iff_eq, Use.Acquire.injEq, reduceCtorEq, if_false] at hrest ⊢
          omega
      | Release other =>
          unfold replay at hreplay
          split at hreplay
          · rename_i hmem
            have hrest := ih hreplay
            have hheld : 0 < held.count other := List.count_pos_iff.mpr hmem
            simp only [List.count_cons, List.count_erase, beq_iff_eq, Use.Release.injEq, reduceCtorEq,
              if_false] at hrest ⊢
            by_cases hsame : other = resource
            · subst hsame
              simp only [if_true] at hrest ⊢
              omega
            · simp only [hsame, if_false] at hrest ⊢
              omega
          · cases hreplay
      | Write other =>
          unfold replay at hreplay
          split at hreplay
          · have hrest := ih hreplay
            simp only [List.count_cons, beq_iff_eq, reduceCtorEq, if_false] at hrest ⊢
            omega
          · cases hreplay

-- In a trace with a result, what is given back or written to is held.
theorem outstanding_of_replay {before after : List (Use ρ)} {last : List ρ} {use : Use ρ} {resource : ρ}
    (huse : use = .Release resource ∨ use = .Write resource)
    (hreplay : replay [] (before ++ use :: after) = some last) : Outstanding before resource := by
  rw [replay_append] at hreplay
  obtain ⟨held, hbefore, hafter⟩ := Option.bind_eq_some_iff.mp hreplay
  have hmem : resource ∈ held := by
    by_contra hnone
    rcases huse with rfl | rfl
    · rw [replay, if_neg hnone] at hafter
      cases hafter
    · rw [replay, if_neg hnone] at hafter
      cases hafter
  have hcount := replay_count hbefore resource
  have hheld : 0 < held.count resource := List.count_pos_iff.mpr hmem
  rw [List.count_nil] at hcount
  unfold Outstanding
  omega

def Use.resource : Use ρ → ρ
  | .Acquire resource => resource
  | .Release resource => resource
  | .Write resource => resource

-- A trace may be checked in parts, such as one for each owner, whatever the
-- order in which the parts are mixed.
theorem outstanding_of_parts {κ : Type*} [DecidableEq κ] (owner : ρ → κ) {before after : List (Use ρ)}
    {use : Use ρ} {resource : ρ} (huse : use = .Release resource ∨ use = .Write resource)
    (hpart : ∃ held, replay [] ((before ++ use :: after).filter
      fun other => owner other.resource = owner resource) = some held) : Outstanding before resource := by
  obtain ⟨held, hreplay⟩ := hpart
  have hmine : owner use.resource = owner resource := by
    rcases huse with rfl | rfl
    · rfl
    · rfl
  rw [List.filter_append, List.filter_cons_of_pos (by simpa using hmine)] at hreplay
  have hpart := outstanding_of_replay huse hreplay
  unfold Outstanding at hpart ⊢
  rw [List.count_filter (by simp [Use.resource]), List.count_filter (by simp [Use.resource])] at hpart
  exact hpart

theorem outstanding_iff_held {κ : Type*} [DecidableEq κ] (owner : ρ → κ) {trace : List (Use ρ)}
    {resource : ρ} {held : List ρ}
    (hpart : replay [] (trace.filter fun other => owner other.resource = owner resource) = some held) :
    Outstanding trace resource ↔ resource ∈ held := by
  have hcount := replay_count hpart resource
  rw [List.count_nil, List.count_filter (by simp [Use.resource]),
    List.count_filter (by simp [Use.resource])] at hcount
  rw [← List.count_pos_iff]
  unfold Outstanding
  omega

-- A trace that starts and ends with nothing held.
theorem releasedOnce_of_replay {trace : List (Use ρ)} (hreplay : replay [] trace = some []) :
    ReleasedOnce trace where
  balanced resource := by
    have hcount := replay_count hreplay resource
    rw [List.count_nil] at hcount
    omega
  acquired before resource after hsplit := by
    rw [hsplit] at hreplay
    exact outstanding_of_replay (.inl rfl) hreplay
  written before resource after hsplit _ := by
    rw [hsplit] at hreplay
    exact outstanding_of_replay (.inr rfl) hreplay

-- What is held at some point has to be given back, each as often as it is held,
-- by a remainder that acquires nothing.
theorem ReleasedOnce.count_release {first second : List (Use ρ)} {held : List ρ}
    (honce : ReleasedOnce (first ++ second)) (hreplay : replay [] first = some held) {resource : ρ}
    (hnew : .Acquire resource ∉ second) : second.count (.Release resource) = held.count resource := by
  have hbalanced := honce.balanced resource
  have hcount := replay_count hreplay resource
  have hnone : second.count (.Acquire resource) = 0 := List.count_eq_zero.mpr hnew
  rw [List.count_append, List.count_append] at hbalanced
  rw [List.count_nil] at hcount
  omega

-- What is held may be given back in any order.
theorem replay_release {held resources : List ρ} (hperm : held.Perm resources) :
    replay held (resources.map .Release) = some [] := by
  induction resources generalizing held with
  | nil =>
      rw [hperm.eq_nil]
      rfl
  | cons resource rest ih =>
      have hmem : resource ∈ held := hperm.mem_iff.mpr List.mem_cons_self
      have hrest : (held.erase resource).Perm rest := by
        have herased := hperm.erase resource
        rw [List.erase_cons_head] at herased
        exact herased
      rw [List.map_cons, replay, if_pos hmem, ih hrest]

theorem replay_acquire (held resources : List ρ) :
    replay held (resources.map .Acquire) = some (resources.reverse ++ held) := by
  induction resources generalizing held with
  | nil => rfl
  | cons resource rest ih =>
      rw [List.map_cons, replay, ih, List.reverse_cons, List.append_assoc]
      rfl

-- What is given back may be a part of what is held.
theorem replay_release_part {held resources rest : List ρ} (hperm : held.Perm (resources ++ rest)) :
    ∃ last, replay held (resources.map .Release) = some last ∧ last.Perm rest := by
  induction resources generalizing held with
  | nil => exact ⟨held, rfl, hperm⟩
  | cons resource others ih =>
      have hmem : resource ∈ held := hperm.mem_iff.mpr List.mem_cons_self
      have hothers : (held.erase resource).Perm (others ++ rest) := by
        have herased := hperm.erase resource
        rw [List.cons_append, List.erase_cons_head] at herased
        exact herased
      rw [List.map_cons, replay, if_pos hmem]
      exact ih hothers

theorem replay_write {held : List ρ} {trace : List (Use ρ)}
    (hwrites : ∀ use ∈ trace, ∃ resource ∈ held, use = .Write resource) : replay held trace = some held := by
  induction trace with
  | nil => rfl
  | cons use rest ih =>
      obtain ⟨resource, hmem, rfl⟩ := hwrites use List.mem_cons_self
      rw [replay, if_pos hmem, ih fun later hlater => hwrites later (List.mem_cons_of_mem _ hlater)]

-- Giving back something at the very start is giving back what is not held.
theorem not_releasedOnce_release (resource : ρ) (rest : List (Use ρ)) :
    ¬ReleasedOnce (.Release resource :: rest) := by
  intro honce
  have houtstanding := honce.acquired [] resource rest rfl
  exact absurd houtstanding (Nat.lt_irrefl 0)

end BatteryManager.Library
