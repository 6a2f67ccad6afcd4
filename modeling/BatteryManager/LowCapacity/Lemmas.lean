import BatteryManager.LowCapacity
import Mathlib.Data.Finset.Card

namespace BatteryManager

open Library

variable {queue : TaskQueue}

namespace LowCapacityShutdown

def pending (shutdown : LowCapacityShutdown queue) : Finset queue.Handle :=
  queue.pending shutdown.tasks

@[simp] theorem submit_pending (shutdown : LowCapacityShutdown queue) :
    shutdown.submit.pending = insert (queue.submit shutdown.tasks).2 shutdown.pending :=
  queue.pending_submit shutdown.tasks

-- The handle is the only task that can be pending.
def HandleOwns (shutdown : LowCapacityShutdown queue) : Prop :=
  ∀ handle ∈ shutdown.pending, shutdown.handle = some handle

theorem HandleOwns.card_le_one {shutdown : LowCapacityShutdown queue} (howns : shutdown.HandleOwns) :
    shutdown.pending.card ≤ 1 := by
  apply Finset.card_le_one.mpr
  intro first hfirst second hsecond
  exact Option.some.inj ((howns first hfirst).symm.trans (howns second hsecond))

theorem HandleOwns.pending_none {shutdown : LowCapacityShutdown queue} (howns : shutdown.HandleOwns)
    (hnone : shutdown.handle = none) : shutdown.pending = ∅ := by
  apply Finset.eq_empty_of_forall_notMem
  intro handle hm
  have hsome := howns handle hm
  rw [hnone] at hsome
  cases hsome

theorem HandleOwns.erase {shutdown : LowCapacityShutdown queue} (howns : shutdown.HandleOwns)
    {handle : queue.Handle} (hhandle : shutdown.handle = some handle) :
    shutdown.pending.erase handle = ∅ := by
  apply Finset.eq_empty_of_forall_notMem
  intro other hm
  obtain ⟨hne, hm⟩ := Finset.mem_erase.mp hm
  have hsome := howns other hm
  rw [hhandle] at hsome
  exact hne (Option.some.inj hsome).symm

end LowCapacityShutdown

section HandleCapacity

variable {threshold capacity : Int} {chargeState : BatteryChargeState} {present : Bool}
  {shutdown : LowCapacityShutdown queue}

-- A charging report drops the handle and takes its task out of the queue.
theorem handleCapacity_charging (hcharging : isCharging chargeState = true)
    (howns : shutdown.HandleOwns) :
    (handleCapacity threshold capacity chargeState present shutdown).handle = none ∧
    (handleCapacity threshold capacity chargeState present shutdown).pending = ∅ := by
  have hkeep : ¬(capacity ≤ threshold ∧ shutdown.handle = none ∧ present = true ∧
      isCharging chargeState = false) := by
    simp [hcharging]
  unfold handleCapacity
  dsimp only
  rw [if_neg hkeep]
  cases hhandle : shutdown.handle with
  | none => exact ⟨hhandle, howns.pending_none hhandle⟩
  | some handle =>
      simp only [hcharging, if_true]
      refine ⟨rfl, ?_⟩
      rw [LowCapacityShutdown.pending, LowCapacityShutdown.cancel, queue.pending_cancel]
      exact howns.erase hhandle

theorem handleCapacity_submit (hcharging : isCharging chargeState = false)
    (hlow : capacity ≤ threshold) (hpresent : present = true) (hnone : shutdown.handle = none) :
    handleCapacity threshold capacity chargeState present shutdown = shutdown.submit := by
  unfold handleCapacity
  simp [hcharging, hlow, hpresent, hnone, LowCapacityShutdown.submit]

theorem handleCapacity_keep (hcharging : isCharging chargeState = false)
    (hkeep : ¬(capacity ≤ threshold ∧ present = true ∧ shutdown.handle = none)) :
    handleCapacity threshold capacity chargeState present shutdown = shutdown := by
  have hneg : ¬(capacity ≤ threshold ∧ shutdown.handle = none ∧ present = true ∧
      isCharging chargeState = false) := fun h => hkeep ⟨h.1, h.2.2.1, h.2.1⟩
  unfold handleCapacity
  dsimp only
  rw [if_neg hneg, hcharging]
  cases shutdown.handle <;> rfl

end HandleCapacity

end BatteryManager
