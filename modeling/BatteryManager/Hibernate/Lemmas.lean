import BatteryManager.Hibernate

namespace BatteryManager

open Library

variable {timer : OneShotTimer}

namespace DelayHibernate

section Operations

variable (hibernate : DelayHibernate timer)

@[simp] theorem setTimer_valid :
    hibernate.setTimer.isDelayHibernateTimerValid = hibernate.ffrtTimer.isSome := by
  unfold setTimer isDelayHibernateTimerValid
  cases hibernate.ffrtTimer <;> simp

@[simp] theorem cancelTimer_valid : hibernate.cancelTimer.isDelayHibernateTimerValid = false := by
  unfold cancelTimer isDelayHibernateTimerValid
  cases hibernate.ffrtTimer <;> simp

@[simp] theorem unlockShutdownGuard_valid :
    hibernate.unlockShutdownGuard.isDelayHibernateTimerValid = hibernate.isDelayHibernateTimerValid :=
  rfl

@[simp] theorem setTimer_isSome : hibernate.setTimer.ffrtTimer.isSome = hibernate.ffrtTimer.isSome := by
  simp [setTimer]

@[simp] theorem cancelTimer_isSome :
    hibernate.cancelTimer.ffrtTimer.isSome = hibernate.ffrtTimer.isSome := by
  simp [cancelTimer]

@[simp] theorem lockShutdownGuard_ffrtTimer :
    hibernate.lockShutdownGuard.ffrtTimer = hibernate.ffrtTimer := rfl

@[simp] theorem unlockShutdownGuard_ffrtTimer :
    hibernate.unlockShutdownGuard.ffrtTimer = hibernate.ffrtTimer := rfl

@[simp] theorem createShutdownGuard_ffrtTimer (created : Bool) :
    (hibernate.createShutdownGuard created).ffrtTimer = hibernate.ffrtTimer := by
  unfold createShutdownGuard
  split <;> rfl

@[simp] theorem unlockShutdownGuard_isLocked : hibernate.unlockShutdownGuard.isLocked = false := by
  unfold unlockShutdownGuard isLocked
  cases hibernate.shutdownGuard <;> simp

@[simp] theorem setTimer_isLocked : hibernate.setTimer.isLocked = hibernate.isLocked := rfl

-- Once the guard has been created, locking it takes effect.
theorem createShutdownGuard_isLocked :
    ((hibernate.createShutdownGuard true).lockShutdownGuard).isLocked = true := by
  unfold createShutdownGuard lockShutdownGuard isLocked
  cases hguard : hibernate.shutdownGuard <;> simp [hguard]

theorem valid_of_none (hnone : hibernate.ffrtTimer = none) :
    hibernate.isDelayHibernateTimerValid = false := by
  simp [isDelayHibernateTimerValid, hnone]

end Operations

section HandleCapacityExt

variable (created : Bool) (threshold lastCapacity capacity : Int) (chargeState : BatteryChargeState)
  (present : Bool) (hibernate : DelayHibernate timer)

@[simp] theorem handleCapacityExt_isSome :
    (hibernate.handleCapacityExt created threshold lastCapacity capacity chargeState
      present).ffrtTimer.isSome = hibernate.ffrtTimer.isSome := by
  unfold handleCapacityExt
  dsimp only
  split_ifs <;> simp

-- The timer survives the second test exactly when the capacity has not gone up
-- and the battery is not charging.
theorem handleCapacityExt_valid (hsome : hibernate.ffrtTimer.isSome = true) :
    (hibernate.handleCapacityExt created threshold lastCapacity capacity chargeState
      present).isDelayHibernateTimerValid =
      ((hibernate.isDelayHibernateTimerValid || (capacity ≤ threshold &&
        (capacity < lastCapacity || (present && !isCharging chargeState)))) &&
      !(capacity > lastCapacity || (present && isCharging chargeState))) := by
  unfold handleCapacityExt checkIfCreateHibernateTask checkIfClearHibernateTask
  cases hvalid : hibernate.isDelayHibernateTimerValid with
  | true =>
      simp only [Bool.not_true, Bool.and_false, Bool.false_and, Bool.false_eq_true, if_false, hvalid,
        Bool.true_and, Bool.true_or]
      split
      · rename_i hclear
        simp [hclear]
      · rename_i hclear
        simp [hclear, hvalid]
  | false =>
      simp only [Bool.not_false, Bool.and_true, Bool.false_or]
      split
      · rename_i hcreate
        simp only [setTimer_valid, lockShutdownGuard_ffrtTimer, createShutdownGuard_ffrtTimer, hsome,
          Bool.true_and, hcreate]
        split
        · rename_i hclear
          simp [hclear]
        · rename_i hclear
          simp [hclear, hsome]
      · rename_i hcreate
        simp [hvalid, hcreate]

end HandleCapacityExt

-- The guard is held while the timer is armed, and at no other time.
def Paired (hibernate : DelayHibernate timer) : Prop :=
  hibernate.isLocked = hibernate.isDelayHibernateTimerValid

theorem paired_cancel (hibernate : DelayHibernate timer) :
    hibernate.cancelTimer.unlockShutdownGuard.Paired := by
  simp [Paired]

theorem handleCapacityExt_paired (threshold lastCapacity capacity : Int)
    (chargeState : BatteryChargeState) (present : Bool) (hibernate : DelayHibernate timer)
    (hsome : hibernate.ffrtTimer.isSome = true) (hpaired : hibernate.Paired) :
    (hibernate.handleCapacityExt true threshold lastCapacity capacity chargeState present).Paired := by
  unfold handleCapacityExt
  dsimp only
  split
  · split
    · exact paired_cancel _
    · simp [Paired, createShutdownGuard_isLocked, hsome]
  · split
    · exact paired_cancel _
    · exact hpaired

theorem expire_paired {extreme : Bool} {hibernate : DelayHibernate timer}
    {ran : DelayHibernate timer × List Effect} (hexpire : hibernate.expire extreme = some ran) :
    ran.1.Paired ∧ ran.1.ffrtTimer.isSome = hibernate.ffrtTimer.isSome := by
  unfold expire at hexpire
  split at hexpire
  · cases hexpire
    refine ⟨?_, by simp⟩
    rw [Paired, unlockShutdownGuard_isLocked, unlockShutdownGuard_valid, isDelayHibernateTimerValid]
    cases hibernate.ffrtTimer <;> simp
  · cases hexpire

@[simp] theorem onReceiveEvent_isSome (action : String) (hibernate : DelayHibernate timer) :
    (hibernate.onReceiveEvent action).ffrtTimer.isSome = hibernate.ffrtTimer.isSome := by
  unfold onReceiveEvent
  split <;> simp

theorem onReceiveEvent_paired (action : String) (hibernate : DelayHibernate timer)
    (hpaired : hibernate.Paired) : (hibernate.onReceiveEvent action).Paired := by
  unfold onReceiveEvent
  split
  · exact paired_cancel hibernate
  · exact hpaired

end DelayHibernate

end BatteryManager
