import Mathlib.Data.Finset.Basic

namespace BatteryManager.Library

-- A queue of delayed tasks. Submitting returns a handle that no pending task
-- has. Cancelling takes a task that has not run yet out of the queue, and does
-- nothing for any other handle. Running takes the task out as well.
structure TaskQueue where
  Handle : Type
  State : Type
  [decEq : DecidableEq Handle]
  empty : State
  pending : State → Finset Handle
  submit : State → State × Handle
  cancel : State → Handle → State
  run : State → Handle → State
  pending_empty : pending empty = ∅
  submit_fresh : ∀ queue, (submit queue).2 ∉ pending queue
  pending_submit : ∀ queue, pending (submit queue).1 = insert (submit queue).2 (pending queue)
  pending_cancel : ∀ queue handle, pending (cancel queue handle) = (pending queue).erase handle
  pending_run : ∀ queue handle, pending (run queue handle) = (pending queue).erase handle

attribute [instance] TaskQueue.decEq
attribute [simp] TaskQueue.pending_empty TaskQueue.pending_submit TaskQueue.pending_cancel
  TaskQueue.pending_run

-- Tickets are numbers, and the next ticket is above every pending one.
def ticketQueue : TaskQueue where
  Handle := Nat
  State := { queue : Nat × Finset Nat // ∀ handle ∈ queue.2, handle < queue.1 }
  empty := ⟨(0, ∅), by simp⟩
  pending queue := queue.val.2
  submit queue :=
    (⟨(queue.val.1 + 1, insert queue.val.1 queue.val.2), by
      intro handle hm
      rcases Finset.mem_insert.mp hm with rfl | hm
      · exact Nat.lt_succ_self _
      · exact Nat.lt_succ_of_lt (queue.property handle hm)⟩, queue.val.1)
  cancel queue handle :=
    ⟨(queue.val.1, queue.val.2.erase handle), fun other hm =>
      queue.property other (Finset.mem_of_mem_erase hm)⟩
  run queue handle :=
    ⟨(queue.val.1, queue.val.2.erase handle), fun other hm =>
      queue.property other (Finset.mem_of_mem_erase hm)⟩
  pending_empty := rfl
  submit_fresh queue hm := Nat.lt_irrefl _ (queue.property _ hm)
  pending_submit _ := rfl
  pending_cancel _ _ := rfl
  pending_run _ _ := rfl

-- A one-shot timer slot. Setting it arms it; cancelling it and firing it both
-- leave it unarmed.
structure OneShotTimer where
  State : Type
  create : State
  armed : State → Bool
  set : State → State
  cancel : State → State
  fire : State → State
  armed_create : armed create = false
  armed_set : ∀ timer, armed (set timer) = true
  armed_cancel : ∀ timer, armed (cancel timer) = false
  armed_fire : ∀ timer, armed (fire timer) = false

attribute [simp] OneShotTimer.armed_create OneShotTimer.armed_set OneShotTimer.armed_cancel
  OneShotTimer.armed_fire

def flagTimer : OneShotTimer where
  State := Bool
  create := false
  armed timer := timer
  set _ := true
  cancel _ := false
  fire _ := false
  armed_create := rfl
  armed_set _ := rfl
  armed_cancel _ := rfl
  armed_fire _ := rfl

end BatteryManager.Library
