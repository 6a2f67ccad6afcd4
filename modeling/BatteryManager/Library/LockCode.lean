import Mathlib.Data.List.Basic

namespace BatteryManager.Library

-- The two ways of holding a reader-writer lock.
inductive LockMode
  | Shared
  | Exclusive
  deriving DecidableEq

-- Code, reduced to what it does with one lock. `κ` names the tests it makes.
-- `Scope` is a block under a guard, and `Repeat` runs its body any number of
-- times.
inductive LockCode (κ : Type*)
  | Skip
  | Seq (first second : LockCode κ)
  | Scope (mode : LockMode) (body : LockCode κ)
  | Test (condition : κ) (yes no : LockCode κ)
  | Repeat (body : LockCode κ)

inductive LockAction (κ : Type*)
  | Acquire (mode : LockMode)
  | Release (mode : LockMode)
  | Answer (condition : κ) (value : Bool)
  deriving DecidableEq

variable {κ : Type*}

namespace LockCode

-- A test can go either way each time, since other threads run in between.
inductive Executes : LockCode κ → List (LockAction κ) → Prop
  | skip : Executes .Skip []
  | seq {first second : LockCode κ} {before after : List (LockAction κ)} :
      Executes first before → Executes second after → Executes (.Seq first second) (before ++ after)
  | scope {body : LockCode κ} {trace : List (LockAction κ)} (mode : LockMode) :
      Executes body trace → Executes (.Scope mode body) (.Acquire mode :: trace ++ [.Release mode])
  | yes {yes : LockCode κ} {trace : List (LockAction κ)} (condition : κ) (no : LockCode κ) :
      Executes yes trace → Executes (.Test condition yes no) (.Answer condition true :: trace)
  | no {no : LockCode κ} {trace : List (LockAction κ)} (condition : κ) (yes : LockCode κ) :
      Executes no trace → Executes (.Test condition yes no) (.Answer condition false :: trace)
  | done (body : LockCode κ) : Executes (.Repeat body) []
  | again {body : LockCode κ} {once later : List (LockAction κ)} :
      Executes body once → Executes (.Repeat body) later → Executes (.Repeat body) (once ++ later)

end LockCode

-- The modes that the thread holds after a trace. There are none when it acquires
-- the lock while it holds it, or releases what it does not hold.
def holds : List LockMode → List (LockAction κ) → Option (List LockMode)
  | held, [] => some held
  | held, .Acquire mode :: rest => if held = [] then holds [mode] rest else none
  | held, .Release mode :: rest => if mode ∈ held then holds (held.erase mode) rest else none
  | held, .Answer _ _ :: rest => holds held rest

-- The lock is never acquired twice, and is released in the end.
def Disciplined (trace : List (LockAction κ)) : Prop := holds [] trace = some []

theorem holds_append (held : List LockMode) (before after : List (LockAction κ)) :
    holds held (before ++ after) = (holds held before).bind fun later => holds later after := by
  induction before generalizing held with
  | nil => rfl
  | cons action rest ih =>
      cases action with
      | Acquire mode =>
          simp only [List.cons_append, holds]
          split
          · exact ih [mode]
          · rfl
      | Release mode =>
          simp only [List.cons_append, holds]
          split
          · exact ih (held.erase mode)
          · rfl
      | Answer condition value => exact ih held

-- A block under a guard, in a thread that does not hold the lock.
theorem holds_scope (mode : LockMode) (trace : List (LockAction κ)) (hbody : holds [mode] trace = some [mode]) :
    holds [] (.Acquire mode :: trace ++ [.Release mode]) = some [] := by
  rw [List.cons_append, holds, if_pos rfl, holds_append, hbody]
  simp [holds]

-- The same block where its body goes wrong.
theorem holds_scope_none (mode : LockMode) (trace : List (LockAction κ))
    (hbody : holds [mode] trace = none) :
    holds [] (.Acquire mode :: trace ++ [.Release mode]) = none := by
  rw [List.cons_append, holds, if_pos rfl, holds_append, hbody]
  rfl

namespace LockCode

-- No branch touches the lock.
def lockFree : LockCode κ → Bool
  | .Skip => true
  | .Seq first second => first.lockFree && second.lockFree
  | .Scope _ _ => false
  | .Test _ yes no => yes.lockFree && no.lockFree
  | .Repeat body => body.lockFree

-- No branch touches the lock inside of a guarded block.
def flat : LockCode κ → Bool
  | .Skip => true
  | .Seq first second => first.flat && second.flat
  | .Scope _ body => body.lockFree
  | .Test _ yes no => yes.flat && no.flat
  | .Repeat body => body.flat

-- Every branch acquires the lock.
def locks : LockCode κ → Bool
  | .Skip => false
  | .Seq first second => first.locks || second.locks
  | .Scope _ _ => true
  | .Test _ yes no => yes.locks && no.locks
  | .Repeat _ => false

variable {code : LockCode κ} {trace : List (LockAction κ)}

theorem Executes.holds_lockFree (hexec : Executes code trace) (hfree : code.lockFree = true)
    (held : List LockMode) : holds held trace = some held := by
  induction hexec with
  | skip => rfl
  | seq _ _ ihfirst ihsecond =>
      simp only [lockFree, Bool.and_eq_true] at hfree
      rw [holds_append, ihfirst hfree.1]
      exact ihsecond hfree.2
  | scope mode _ _ => cases hfree
  | yes condition no _ ih =>
      simp only [lockFree, Bool.and_eq_true] at hfree
      exact ih hfree.1
  | no condition yes _ ih =>
      simp only [lockFree, Bool.and_eq_true] at hfree
      exact ih hfree.2
  | done body => rfl
  | again _ _ ihonce ihlater =>
      rw [holds_append, ihonce hfree]
      exact ihlater hfree

-- Flat code is disciplined, whatever its tests answer.
theorem Executes.disciplined (hexec : Executes code trace) (hflat : code.flat = true) :
    Disciplined trace := by
  unfold Disciplined
  induction hexec with
  | skip => rfl
  | seq _ _ ihfirst ihsecond =>
      simp only [flat, Bool.and_eq_true] at hflat
      rw [holds_append, ihfirst hflat.1]
      exact ihsecond hflat.2
  | scope mode hbody _ => exact holds_scope mode _ (hbody.holds_lockFree hflat [mode])
  | yes condition no _ ih =>
      simp only [flat, Bool.and_eq_true] at hflat
      exact ih hflat.1
  | no condition yes _ ih =>
      simp only [flat, Bool.and_eq_true] at hflat
      exact ih hflat.2
  | done body => rfl
  | again _ _ ihonce ihlater =>
      rw [holds_append, ihonce hflat]
      exact ihlater hflat

-- In a thread that holds the lock, code fails or gives back what was held.
theorem Executes.holds_held (hexec : Executes code trace) {held : List LockMode} (hheld : held ≠ []) :
    holds held trace = none ∨ holds held trace = some held := by
  induction hexec with
  | skip => exact .inr rfl
  | seq _ _ ihfirst ihsecond =>
      rw [holds_append]
      rcases ihfirst with hnone | hsome
      · exact .inl (by rw [hnone]; rfl)
      · rw [hsome]
        exact ihsecond
  | scope mode _ _ => exact .inl (by rw [List.cons_append, holds, if_neg hheld])
  | yes condition no _ ih => exact ih
  | no condition yes _ ih => exact ih
  | done body => exact .inr rfl
  | again _ _ ihonce ihlater =>
      rw [holds_append]
      rcases ihonce with hnone | hsome
      · exact .inl (by rw [hnone]; rfl)
      · rw [hsome]
        exact ihlater

-- In a thread that holds the lock, code that acquires it on every branch fails.
theorem Executes.holds_locks (hexec : Executes code trace) (hlocks : code.locks = true)
    {held : List LockMode} (hheld : held ≠ []) : holds held trace = none := by
  induction hexec with
  | skip => cases hlocks
  | @seq first second before after hfirst hsecond ihfirst ihsecond =>
      rw [holds_append]
      simp only [locks, Bool.or_eq_true] at hlocks
      rcases hlocks with hlocks | hlocks
      · rw [ihfirst hlocks]
        rfl
      · rcases hfirst.holds_held hheld with hnone | hsome
        · rw [hnone]
          rfl
        · rw [hsome]
          exact ihsecond hlocks
  | scope mode _ _ => rw [List.cons_append, holds, if_neg hheld]
  | yes condition no _ ih =>
      simp only [locks, Bool.and_eq_true] at hlocks
      exact ih hlocks.1
  | no condition yes _ ih =>
      simp only [locks, Bool.and_eq_true] at hlocks
      exact ih hlocks.2
  | done body => cases hlocks
  | again _ _ _ _ => cases hlocks

end LockCode

end BatteryManager.Library
