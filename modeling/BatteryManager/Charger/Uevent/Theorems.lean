import BatteryManager.Charger.Uevent
import BatteryManager.Library.Separator

namespace BatteryManager.Charger

open Library

-- The fields of a message that come before the first empty one.
def leadingFields (received : List UInt8) : List (List UInt8) :=
  (received.splitOn 0).takeWhile (· ≠ [])

theorem leadingFields_of_last {field : List UInt8} (hfield : 0 ∉ field) :
    leadingFields field = if field = [] then [] else [field] := by
  unfold leadingFields
  rw [List.splitOn_eq_singleton hfield, List.takeWhile_cons, List.takeWhile_nil]
  by_cases hempty : field = []
  · simp [hempty]
  · simp [hempty]

theorem leadingFields_of_field {field : List UInt8} (hfield : 0 ∉ field) (rest : List UInt8) :
    leadingFields (field ++ 0 :: rest) = if field = [] then [] else field :: leadingFields rest := by
  unfold leadingFields
  rw [List.splitOn_append_cons_self, List.splitOn_eq_singleton hfield, List.singleton_append,
    List.takeWhile_cons]
  by_cases hempty : field = []
  · simp [hempty]
  · simp [hempty]

theorem strcmpEqual_of_field {field text : List UInt8} (hfield : 0 ∉ field) (htext : 0 ∉ text)
    (rest : List UInt8) : strcmpEqual (field ++ 0 :: rest) text = some (decide (field = text)) := by
  induction field generalizing text with
  | nil =>
      cases text with
      | nil => rfl
      | cons expected text =>
          have hne : (0 : UInt8) ≠ expected := fun heq => htext (by simp [← heq])
          simp [strcmpEqual, hne]
  | cons byte field ih =>
      have hbyte : 0 ≠ byte := List.ne_of_not_mem_cons hfield
      have hrest : 0 ∉ field := List.not_mem_of_not_mem_cons hfield
      cases text with
      | nil => simp [strcmpEqual, Ne.symm hbyte]
      | cons expected text =>
          have htail : 0 ∉ text := fun hmem => htext (List.mem_cons_of_mem _ hmem)
          rw [List.cons_append, strcmpEqual]
          by_cases hsame : byte = expected
          · simp [hsame, ih hrest htail]
          · simp [hsame]

theorem moveToNext_of_field {field : List UInt8} (hfield : 0 ∉ field) (rest : List UInt8) :
    moveToNext (field ++ 0 :: rest) = some rest := by
  induction field with
  | nil => rfl
  | cons byte field ih =>
      have hbyte : 0 ≠ byte := List.ne_of_not_mem_cons hfield
      have hrest : 0 ∉ field := List.not_mem_of_not_mem_cons hfield
      rw [List.cons_append, moveToNext, if_neg (Ne.symm hbyte), ih hrest]

theorem zero_not_mem_powerSupply : (0 : UInt8) ∉ ascii POWER_SUPPLY := by decide

-- One round of the outer loop.
theorem searchFields_of_field {field : List UInt8} (hfield : 0 ∉ field) (hne : field ≠ [])
    (rounds : Nat) (rest : List UInt8) :
    searchFields (rounds + 1) (field ++ 0 :: rest) =
      if field = ascii POWER_SUPPLY then some true else searchFields rounds rest := by
  have hcompared := strcmpEqual_of_field hfield zero_not_mem_powerSupply rest
  have hmoved := moveToNext_of_field hfield rest
  obtain ⟨byte, tail, rfl⟩ := List.exists_cons_of_ne_nil hne
  have hbyte : byte ≠ 0 := fun heq => hfield (by simp [heq])
  rw [List.cons_append] at hcompared hmoved ⊢
  rw [searchFields, if_neg hbyte, hcompared, hmoved]
  by_cases hsame : byte :: tail = ascii POWER_SUPPLY
  · simp [hsame]
  · simp [hsame]

-- Whatever stands behind the two separators is not read.
theorem searchFields_eq (received behind : List UInt8) {rounds : Nat}
    (hrounds : received.length < rounds) :
    searchFields rounds (received ++ 0 :: 0 :: behind) =
      some (decide (ascii POWER_SUPPLY ∈ leadingFields received)) := by
  induction received using separated_induction (0 : UInt8) generalizing rounds with
  | hlast field hfield =>
      rw [leadingFields_of_last hfield]
      obtain ⟨rounds, rfl⟩ := Nat.exists_eq_succ_of_ne_zero (Nat.ne_zero_of_lt hrounds)
      by_cases hempty : field = []
      · subst hempty
        rfl
      · have hlength : 0 < field.length := List.length_pos_of_ne_nil hempty
        obtain ⟨rounds, rfl⟩ : ∃ fewer, rounds = fewer + 1 := ⟨rounds - 1, by omega⟩
        rw [searchFields_of_field hfield hempty, if_neg hempty]
        by_cases hsame : field = ascii POWER_SUPPLY
        · simp [hsame]
        · have hends : searchFields (rounds + 1) (0 :: behind) = some false := rfl
          simp [hsame, hends, Ne.symm hsame]
  | hfield field rest hfield ih =>
      rw [leadingFields_of_field hfield]
      obtain ⟨rounds, rfl⟩ := Nat.exists_eq_succ_of_ne_zero (Nat.ne_zero_of_lt hrounds)
      rw [List.append_assoc, List.cons_append]
      by_cases hempty : field = []
      · subst hempty
        rfl
      · have hlength : 0 < field.length := List.length_pos_of_ne_nil hempty
        have hshorter : rest.length < rounds := by
          rw [List.length_append, List.length_cons] at hrounds
          omega
        rw [searchFields_of_field hfield hempty, if_neg hempty, ih hshorter]
        by_cases hsame : field = ascii POWER_SUPPLY
        · simp [hsame]
        · simp [hsame, Ne.symm hsame]

-- The buffer starts with the message and the two separators.
theorem ueventBuffer_eq {received : List UInt8} (hlength : received.length < UEVENT_MSG_LEN) :
    ueventBuffer received =
      received ++ 0 :: 0 :: List.replicate (UEVENT_MSG_LEN - received.length) 0 := by
  have hzeros : UEVENT_MSG_LEN + UEVENT_RESERVED_SIZE - received.length =
      UEVENT_MSG_LEN - received.length + 2 := by
    unfold UEVENT_RESERVED_SIZE
    omega
  rw [ueventBuffer, hzeros, List.replicate_succ, List.replicate_succ]

theorem isPowerSupplyEvent_eq (received behind : List UInt8) :
    isPowerSupplyEvent (received ++ 0 :: 0 :: behind) =
      some (decide (ascii POWER_SUPPLY ∈ leadingFields received)) := by
  have hrounds : received.length < (received ++ 0 :: 0 :: behind).length := by
    rw [List.length_append, List.length_cons]
    omega
  exact searchFields_eq received behind hrounds

theorem acceptsUevent_iff (received : List UInt8) :
    acceptsUevent (some received) = true ↔
      received.length < UEVENT_MSG_LEN ∧ ascii POWER_SUPPLY ∈ leadingFields received := by
  by_cases hlength : received.length < UEVENT_MSG_LEN
  · have hfits : ¬received.length ≥ UEVENT_MSG_LEN := by omega
    have hsearched := isPowerSupplyEvent_eq received (List.replicate (UEVENT_MSG_LEN - received.length) 0)
    rw [← ueventBuffer_eq hlength] at hsearched
    simp [acceptsUevent, hfits, hlength, hsearched]
  · have hlong : received.length ≥ UEVENT_MSG_LEN := by omega
    simp [acceptsUevent, hlong, hlength]

-- The search of the buffer ends, and with the same result when only the bytes
-- up to the second separator are there to be read.
theorem isPowerSupplyEvent_exact (received : List UInt8) (hlength : received.length < UEVENT_MSG_LEN) :
    isPowerSupplyEvent ((ueventBuffer received).take (received.length + 2)) =
        some (decide (ascii POWER_SUPPLY ∈ leadingFields received)) ∧
      isPowerSupplyEvent (ueventBuffer received) =
        some (decide (ascii POWER_SUPPLY ∈ leadingFields received)) := by
  have hread : (ueventBuffer received).take (received.length + 2) = received ++ [0, 0] := by
    rw [ueventBuffer_eq hlength, List.take_length_add_append]
    rfl
  rw [hread, ueventBuffer_eq hlength]
  exact ⟨isPowerSupplyEvent_eq received [], isPowerSupplyEvent_eq received _⟩

-- An uevent of a battery, whose action comes first.
theorem isPowerSupplyEvent_exact_change :
    let received := ascii "change@battery" ++ 0 :: ascii POWER_SUPPLY
    isPowerSupplyEvent ((ueventBuffer received).take (received.length + 2)) =
        some (decide (ascii POWER_SUPPLY ∈ leadingFields received)) ∧
      isPowerSupplyEvent (ueventBuffer received) =
        some (decide (ascii POWER_SUPPLY ∈ leadingFields received)) :=
  isPowerSupplyEvent_exact _ (by decide)

end BatteryManager.Charger
