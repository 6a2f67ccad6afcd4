import Mathlib.Data.List.Induction

namespace BatteryManager.Library

variable {α : Type*}

-- A sender that transmits a value only when it differs from the last one it
-- transmitted. An entry is what one message carries and whether it arrived.

-- What a receiver holds after some messages.
def held (start : α) (entries : List (Option α × Bool)) : α :=
  entries.foldl (fun value entry => if entry.2 then entry.1.getD value else value) start

-- What the sender remembers, which does not depend on arrival.
def sent (start : α) (entries : List (Option α × Bool)) : α :=
  entries.foldl (fun value entry => entry.1.getD value) start

-- An earlier loss does no harm once a later message with a value has arrived.
theorem held_eq_sent (start : α) (entries : List (Option α × Bool))
    (hlast : ∀ last, (entries.filter fun entry => entry.1.isSome).getLast? = some last →
      last.2 = true) :
    held start entries = sent start entries := by
  induction entries using List.reverseRecOn with
  | nil => rfl
  | append_singleton entries entry ih =>
      obtain ⟨carried, arrived⟩ := entry
      cases carried with
      | none =>
          have he := ih (by simpa using hlast)
          simp only [held, sent] at he
          simp [held, sent, he]
      | some value =>
          have harrived : arrived = true := hlast (some value, arrived) (by simp)
          simp [held, sent, harrived]

theorem sent_concat [DecidableEq α] (start value : α) (entries : List (Option α × Bool))
    (arrived : Bool) :
    sent start
      (entries ++ [(if value = sent start entries then none else some value, arrived)]) = value := by
  by_cases he : value = sent start entries
  · simp only [he, if_true]
    simp [sent]
  · simp only [sent] at he
    simp [sent, he]

end BatteryManager.Library
