import BatteryManager.Charger.Provider.Lemmas

namespace BatteryManager.Charger

open Library

-- The buffer of `ParseCapacity` and `ParseTemperature` at the end, and that of
-- `ParseChargeState`, which trims it once more.
def readBuffer (file : SysfsFile) : SysfsBuffer :=
  (readBatterySysfsToBuff file (.zeroed MAX_BUFF_SIZE) MAX_BUFF_SIZE).2

def statusBuffer (file : SysfsFile) : SysfsBuffer :=
  if (readBatterySysfsToBuff file (.zeroed MAX_BUFF_SIZE) MAX_BUFF_SIZE).1 ≠ .HdfSuccess then
    readBuffer file
  else trim (readBuffer file)

def SysfsBuffer.Safe (buf : SysfsBuffer) : Prop := ∀ index ∈ buf.written, index < MAX_BUFF_SIZE

-- What a parser promises about one file.
structure SafeParse {α : Type*} (parse : SysfsFile → α → HdfStatus × α) (buffer : SysfsFile → SysfsBuffer)
    (convert : List UInt8 → α) (file : SysfsFile) : Prop where
  safe : (buffer file).Safe
  atomic : file = .OpenFails ∨ file = .ReadFails →
    ∀ value, (parse file value).1 ≠ .HdfSuccess ∧ (parse file value).2 = value
  converted : ∀ bytes value, file = .Holds bytes → (parse file value).1 = .HdfSuccess →
    (parse file value).2 = convert (SysfsFile.line bytes)

-- The byte that ends the string is in the buffer, and so is the one that `Trim`
-- overwrites.
theorem trim_safe {buf : SysfsBuffer} (hbuf : buf.Safe)
    (hstring : (cString buf.bytes).length < MAX_BUFF_SIZE) :
    (trim buf).Safe := by
  intro index hindex
  rcases List.mem_append.mp hindex with hearlier | hlast
  · exact hbuf index hearlier
  · rw [List.mem_singleton.mp hlast]
    exact Nat.lt_of_le_of_lt (List.takeWhile_sublist _).length_le hstring

theorem trim_string_length {buf : SysfsBuffer} (hstring : (cString buf.bytes).length < MAX_BUFF_SIZE) :
    (cString (trim buf).bytes).length < MAX_BUFF_SIZE := by
  rw [trim_string]
  exact Nat.lt_of_le_of_lt (List.takeWhile_sublist _).length_le hstring

theorem filled_safe {stored : List UInt8} (hlength : stored.length < MAX_BUFF_SIZE) :
    (((SysfsBuffer.zeroed MAX_BUFF_SIZE).fill stored).store stored.length 0).Safe := by
  intro index hindex
  rcases List.mem_append.mp hindex with hfilled | hlast
  · have hstored : index ∈ List.range stored.length := by
      simpa [SysfsBuffer.fill, SysfsBuffer.zeroed] using hfilled
    exact Nat.lt_trans (List.mem_range.mp hstored) hlength
  · rw [List.mem_singleton.mp hlast]
    exact hlength

theorem filled_string_length {stored : List UInt8} (hlength : stored.length < MAX_BUFF_SIZE) :
    (cString (((SysfsBuffer.zeroed MAX_BUFF_SIZE).fill stored).store stored.length 0).bytes).length <
      MAX_BUFF_SIZE := by
  rw [filled_string hlength]
  exact Nat.lt_of_le_of_lt (List.takeWhile_sublist _).length_le hlength

theorem zeroed_safe : (SysfsBuffer.zeroed MAX_BUFF_SIZE).Safe := nofun

-- Unless `read` fails, both buffers are only written inside.
theorem buffers_safe {file : SysfsFile} (hread : file ≠ .ReadFails) :
    (readBuffer file).Safe ∧ (statusBuffer file).Safe := by
  cases file with
  | OpenFails => exact ⟨zeroed_safe, zeroed_safe⟩
  | ReadFails => exact absurd rfl hread
  | Holds bytes =>
      have hlength := length_stored bytes
      have htrimmed := trim_safe (filled_safe hlength) (filled_string_length hlength)
      have hstring := trim_string_length (filled_string_length hlength)
      exact ⟨htrimmed, trim_safe htrimmed hstring⟩

theorem not_safe_readFails : ¬(readBuffer .ReadFails).Safe := by
  intro hsafe
  have hindex := hsafe SIZE_MAX (by decide)
  exact absurd hindex (by decide)

theorem parseCapacity_safe {file : SysfsFile} (hread : file ≠ .ReadFails) :
    SafeParse parseCapacity readBuffer parseInt file where
  safe := (buffers_safe hread).1
  atomic := by
    rintro (rfl | rfl) value
    · exact ⟨nofun, rfl⟩
    · exact absurd rfl hread
  converted := by
    rintro bytes value rfl -
    rw [parseCapacity_eq]

theorem parseChargeState_safe {file : SysfsFile} (hread : file ≠ .ReadFails) :
    SafeParse parseChargeState statusBuffer chargeStateEnumConverter file where
  safe := (buffers_safe hread).2
  atomic := by
    rintro (rfl | rfl) value
    · exact ⟨nofun, rfl⟩
    · exact absurd rfl hread
  converted := by
    rintro bytes value rfl -
    rw [parseChargeState_eq]

-- The reads are safe and atomic exactly when `read` does not fail.
theorem parsers_safe_iff (file : SysfsFile) :
    (SafeParse parseCapacity readBuffer parseInt file ∧
        SafeParse parseTemperature readBuffer parseInt file ∧
        SafeParse parseChargeState statusBuffer chargeStateEnumConverter file) ↔
      file ≠ .ReadFails := by
  constructor
  · rintro ⟨hcapacity, -, -⟩ rfl
    exact not_safe_readFails hcapacity.safe
  · intro hread
    exact ⟨parseCapacity_safe hread, parseCapacity_safe hread, parseChargeState_safe hread⟩

-- A failed read of the capacity writes in front of the buffer, and gives zero.
theorem not_safeParse_readFails :
    ¬SafeParse parseCapacity readBuffer parseInt .ReadFails ∧ SIZE_MAX ∈ (readBuffer .ReadFails).written ∧
      parseCapacity .ReadFails 55 = (.HdfSuccess, 0) := by
  refine ⟨fun hsafe => ?_, by decide, parseCapacity_eq .ReadFails 55⟩
  exact (hsafe.atomic (.inr rfl) 55).1 (by rw [parseCapacity_eq])

end BatteryManager.Charger
