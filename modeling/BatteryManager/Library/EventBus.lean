import Mathlib.Data.List.Basic
import Mathlib.Logic.Function.Basic

namespace BatteryManager.Library

variable {α : Type*}

-- A subscription to one topic. Its number tells it from every other.
structure Subscriber (α : Type*) where
  id : Nat
  topic : String
  handler : α

-- The live subscriptions, in the order in which they were made.
structure EventBus (α : Type*) where
  nextId : Nat := 0
  live : List (Subscriber α) := []

namespace EventBus

variable (bus : EventBus α)

def next (topic : String) (handler : α) : Subscriber α := ⟨bus.nextId, topic, handler⟩

def subscribe (topic : String) (handler : α) : EventBus α :=
  { nextId := bus.nextId + 1, live := bus.live ++ [bus.next topic handler] }

def unsubscribe (gone : List (Subscriber α)) : EventBus α :=
  { bus with live := bus.live.filter fun subscriber => subscriber.id ∉ gone.map Subscriber.id }

-- An event reaches every live subscription to its topic once.
def deliver (topic : String) : List α :=
  (bus.live.filter fun subscriber => subscriber.topic = topic).map Subscriber.handler

-- No number is given out twice.
structure Fresh : Prop where
  below : ∀ subscriber ∈ bus.live, subscriber.id < bus.nextId
  nodup : (bus.live.map Subscriber.id).Nodup

-- `later` is the bus after the subscriptions `added` were made one after the other.
structure Grows (bus : EventBus α) (added : List (Subscriber α)) (later : EventBus α) : Prop where
  live : later.live = bus.live ++ added
  nextId : bus.nextId ≤ later.nextId
  range : ∀ subscriber ∈ added, bus.nextId ≤ subscriber.id ∧ subscriber.id < later.nextId
  nodup : (added.map Subscriber.id).Nodup

variable {bus} {later last : EventBus α} {added more : List (Subscriber α)}

theorem Grows.refl (bus : EventBus α) : bus.Grows [] bus :=
  ⟨(List.append_nil bus.live).symm, Nat.le_refl _, nofun, List.nodup_nil⟩

theorem grows_subscribe (bus : EventBus α) (topic : String) (handler : α) :
    bus.Grows [bus.next topic handler] (bus.subscribe topic handler) where
  live := rfl
  nextId := Nat.le_succ _
  range := by simp [next, subscribe]
  nodup := by simp

theorem Grows.trans (hfirst : bus.Grows added later) (hsecond : later.Grows more last) :
    bus.Grows (added ++ more) last where
  live := by rw [hsecond.live, hfirst.live, List.append_assoc]
  nextId := Nat.le_trans hfirst.nextId hsecond.nextId
  range := by
    intro subscriber hsubscriber
    rcases List.mem_append.mp hsubscriber with hadded | hmore
    · have hrange := hfirst.range subscriber hadded
      have hnext := hsecond.nextId
      omega
    · have hrange := hsecond.range subscriber hmore
      have hnext := hfirst.nextId
      omega
  nodup := by
    rw [List.map_append, List.nodup_append]
    refine ⟨hfirst.nodup, hsecond.nodup, ?_⟩
    rintro id hid other hother rfl
    obtain ⟨subscriber, hsubscriber, rfl⟩ := List.mem_map.mp hid
    obtain ⟨newer, hnewer, hsame⟩ := List.mem_map.mp hother
    have hrange := hfirst.range subscriber hsubscriber
    have hlater := hsecond.range newer hnewer
    omega

theorem Fresh.grows (hfresh : bus.Fresh) (hgrows : bus.Grows added later) : later.Fresh where
  below := by
    intro subscriber hsubscriber
    rw [hgrows.live] at hsubscriber
    rcases List.mem_append.mp hsubscriber with hold | hnew
    · exact Nat.lt_of_lt_of_le (hfresh.below subscriber hold) hgrows.nextId
    · exact (hgrows.range subscriber hnew).2
  nodup := by
    rw [hgrows.live, List.map_append, List.nodup_append]
    refine ⟨hfresh.nodup, hgrows.nodup, ?_⟩
    rintro id hid other hother rfl
    obtain ⟨older, holder, rfl⟩ := List.mem_map.mp hid
    obtain ⟨newer, hnewer, hsame⟩ := List.mem_map.mp hother
    have hbelow := hfresh.below older holder
    have hrange := hgrows.range newer hnewer
    omega

theorem Fresh.unsubscribe (hfresh : bus.Fresh) (gone : List (Subscriber α)) :
    (bus.unsubscribe gone).Fresh where
  below := fun subscriber hsubscriber => hfresh.below subscriber (List.mem_filter.mp hsubscriber).1
  nodup := (List.filter_sublist.map Subscriber.id).nodup hfresh.nodup

theorem mem_unsubscribe {gone : List (Subscriber α)} {subscriber : Subscriber α} :
    subscriber ∈ (bus.unsubscribe gone).live ↔
      subscriber ∈ bus.live ∧ ∀ other ∈ gone, other.id ≠ subscriber.id := by
  simp [EventBus.unsubscribe]

-- Subscriptions that are given up again leave no trace.
theorem Fresh.unsubscribe_grows (hfresh : bus.Fresh) (hgrows : bus.Grows added later)
    {gone : List (Subscriber α)} (hgone : gone.Perm added) :
    (later.unsubscribe gone).live = bus.live := by
  unfold EventBus.unsubscribe
  dsimp only
  have hold : bus.live.filter (fun subscriber => subscriber.id ∉ gone.map Subscriber.id) = bus.live := by
    refine List.filter_eq_self.mpr fun older holder => decide_eq_true fun hmem => ?_
    obtain ⟨newer, hnewer, hsame⟩ := List.mem_map.mp hmem
    have hbelow := hfresh.below older holder
    have hrange := hgrows.range newer (hgone.subset hnewer)
    omega
  have hnew : added.filter (fun subscriber => subscriber.id ∉ gone.map Subscriber.id) = [] := by
    refine List.filter_eq_nil_iff.mpr fun newer hnewer hnot => ?_
    exact of_decide_eq_true hnot (List.mem_map.mpr ⟨newer, hgone.symm.subset hnewer, rfl⟩)
  rw [hgrows.live, List.filter_append, hold, hnew, List.append_nil]

section Owners

variable {κ : Type*} {owner : κ → List (Subscriber α)} {mine gone : List (Subscriber α)}

-- The live subscriptions are shared out among owners, without overlap.
structure Owned (bus : EventBus α) (owner : κ → List (Subscriber α)) : Prop where
  fresh : bus.Fresh
  held : ∀ name, ∀ subscriber ∈ owner name, subscriber ∈ bus.live
  owned : ∀ subscriber ∈ bus.live, ∃ name, subscriber ∈ owner name
  apart : ∀ name, ∀ subscriber ∈ owner name, ∀ other, ∀ another ∈ owner other,
    subscriber.id = another.id → name = other

theorem owned_empty : ({} : EventBus α).Owned fun _ : κ => [] where
  fresh := ⟨nofun, List.nodup_nil⟩
  held := nofun
  owned := nofun
  apart := nofun

-- New subscriptions that nobody takes are given up again.
theorem Owned.discard (howned : bus.Owned owner) (hgrows : bus.Grows added later)
    (hgone : gone.Perm added) : (later.unsubscribe gone).Owned owner := by
  have hlive := howned.fresh.unsubscribe_grows hgrows hgone
  refine ⟨(howned.fresh.grows hgrows).unsubscribe gone, ?_, ?_, howned.apart⟩
  · intro name subscriber hsubscriber
    rw [hlive]
    exact howned.held name subscriber hsubscriber
  · intro subscriber hsubscriber
    rw [hlive] at hsubscriber
    exact howned.owned subscriber hsubscriber

variable [DecidableEq κ]

-- New subscriptions go to an owner that has none.
theorem Owned.grows (howned : bus.Owned owner) (hgrows : bus.Grows added later) (hmine : mine.Perm added)
    {name : κ} (hnone : owner name = []) : later.Owned (Function.update owner name mine) := by
  have hnew : ∀ subscriber ∈ mine, bus.nextId ≤ subscriber.id := fun subscriber hsubscriber =>
    (hgrows.range subscriber (hmine.subset hsubscriber)).1
  have hold : ∀ other, ∀ subscriber ∈ owner other, subscriber.id < bus.nextId :=
    fun other subscriber hsubscriber =>
      howned.fresh.below subscriber (howned.held other subscriber hsubscriber)
  refine ⟨howned.fresh.grows hgrows, ?_, ?_, ?_⟩
  · intro other subscriber hsubscriber
    rw [hgrows.live, List.mem_append]
    by_cases hother : other = name
    · subst hother
      rw [Function.update_self] at hsubscriber
      exact .inr (hmine.subset hsubscriber)
    · rw [Function.update_of_ne hother] at hsubscriber
      exact .inl (howned.held other subscriber hsubscriber)
  · intro subscriber hsubscriber
    rw [hgrows.live, List.mem_append] at hsubscriber
    rcases hsubscriber with hlive | hadded
    · obtain ⟨other, hother⟩ := howned.owned subscriber hlive
      have hne : other ≠ name := by
        rintro rfl
        rw [hnone] at hother
        cases hother
      exact ⟨other, by rwa [Function.update_of_ne hne]⟩
    · exact ⟨name, by rw [Function.update_self]; exact hmine.symm.subset hadded⟩
  · intro first subscriber hsubscriber second another hanother hid
    by_cases hfirst : first = name <;> by_cases hsecond : second = name
    · rw [hfirst, hsecond]
    · subst hfirst
      rw [Function.update_self] at hsubscriber
      rw [Function.update_of_ne hsecond] at hanother
      have habove := hnew subscriber hsubscriber
      have hbelow := hold second another hanother
      omega
    · subst hsecond
      rw [Function.update_of_ne hfirst] at hsubscriber
      rw [Function.update_self] at hanother
      have hbelow := hold first subscriber hsubscriber
      have habove := hnew another hanother
      omega
    · rw [Function.update_of_ne hfirst] at hsubscriber
      rw [Function.update_of_ne hsecond] at hanother
      exact howned.apart first subscriber hsubscriber second another hanother hid

-- One owner gives up what it has, and nobody else notices.
theorem Owned.release (howned : bus.Owned owner) (name : κ) :
    (bus.unsubscribe (owner name)).Owned (Function.update owner name []) := by
  have hupdate : ∀ other subscriber, subscriber ∈ Function.update owner name [] other ↔
      other ≠ name ∧ subscriber ∈ owner other := by
    intro other subscriber
    by_cases hother : other = name
    · subst hother
      simp
    · simp [hother]
  refine ⟨howned.fresh.unsubscribe _, ?_, ?_, ?_⟩
  · intro other subscriber hsubscriber
    obtain ⟨hne, hother⟩ := (hupdate other subscriber).mp hsubscriber
    refine mem_unsubscribe.mpr ⟨howned.held other subscriber hother, fun another hanother hid => hne ?_⟩
    exact (howned.apart name another hanother other subscriber hother hid).symm
  · intro subscriber hsubscriber
    obtain ⟨hlive, hkept⟩ := mem_unsubscribe.mp hsubscriber
    obtain ⟨other, hother⟩ := howned.owned subscriber hlive
    refine ⟨other, (hupdate other subscriber).mpr ⟨?_, hother⟩⟩
    rintro rfl
    exact hkept subscriber hother rfl
  · intro first subscriber hsubscriber second another hanother hid
    exact howned.apart first subscriber ((hupdate first subscriber).mp hsubscriber).2 second another
      ((hupdate second another).mp hanother).2 hid

end Owners

end EventBus

end BatteryManager.Library
