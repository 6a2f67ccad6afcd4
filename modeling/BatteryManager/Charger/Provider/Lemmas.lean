import BatteryManager.Charger.Provider

namespace BatteryManager.Charger

open Library

theorem trim_string (buf : SysfsBuffer) :
    cString (trim buf).bytes = (cString buf.bytes).takeWhile (· ≠ NEWLINE) :=
  cString_cut NEWLINE buf.bytes

-- What `read` can store, with the terminator behind it, fits in the buffer.
theorem length_stored (bytes : List UInt8) : (bytes.take (MAX_BUFF_SIZE - 1)).length < MAX_BUFF_SIZE := by
  have htake : (bytes.take (MAX_BUFF_SIZE - 1)).length ≤ MAX_BUFF_SIZE - 1 := List.length_take_le _ _
  unfold MAX_BUFF_SIZE at htake ⊢
  omega

theorem filled_string {stored : List UInt8} (hlength : stored.length < MAX_BUFF_SIZE) :
    cString (((SysfsBuffer.zeroed MAX_BUFF_SIZE).fill stored).store stored.length 0).bytes =
      cString stored := by
  have hrest : (List.replicate MAX_BUFF_SIZE (0 : UInt8)).drop stored.length =
      0 :: List.replicate (MAX_BUFF_SIZE - stored.length - 1) 0 := by
    rw [List.drop_replicate, ← List.replicate_succ]
    congr 1
    omega
  unfold SysfsBuffer.store SysfsBuffer.fill SysfsBuffer.zeroed
  dsimp only
  rw [hrest, cString_terminated]

-- A conversion of the string in the buffer sees one line of the file, and
-- nothing at all when the read failed.
theorem parseSysfs_eq {α : Type*} (convert : List UInt8 → α) (file : SysfsFile) (value : α) :
    parseSysfs (fun buf => convert (cString buf.bytes)) file value =
      match file with
      | .OpenFails => (.HdfErrIo, value)
      | .ReadFails => (.HdfSuccess, convert [])
      | .Holds bytes => (.HdfSuccess, convert (SysfsFile.line bytes)) := by
  unfold parseSysfs readBatterySysfsToBuff readSysfsFile
  cases file with
  | OpenFails => rfl
  | ReadFails =>
      have hempty : cString (trim ((SysfsBuffer.zeroed MAX_BUFF_SIZE).store SIZE_MAX 0)).bytes = [] := by
        rw [trim_string]
        unfold SysfsBuffer.store SysfsBuffer.zeroed
        rw [List.set_eq_of_length_le (by simp [MAX_BUFF_SIZE, SIZE_MAX]), cString_replicate_zero]
        rfl
      simp [hempty]
  | Holds bytes =>
      let stored := bytes.take (MAX_BUFF_SIZE - 1)
      have hline : cString (trim (((SysfsBuffer.zeroed MAX_BUFF_SIZE).fill stored).store
          stored.length 0)).bytes = SysfsFile.line bytes := by
        rw [trim_string, filled_string (length_stored bytes)]
        rfl
      exact congrArg (fun str => (HdfStatus.HdfSuccess, convert str)) hline

-- The three parsers.
theorem parseCapacity_eq (file : SysfsFile) (capacity : Int) :
    parseCapacity file capacity =
      match file with
      | .OpenFails => (.HdfErrIo, capacity)
      | .ReadFails => (.HdfSuccess, 0)
      | .Holds bytes => (.HdfSuccess, parseInt (SysfsFile.line bytes)) := by
  have hconvert : (fun buf : SysfsBuffer => parseInt buf.bytes) =
      fun buf => parseInt (cString buf.bytes) := by
    funext buf
    unfold parseInt
    rw [strtol_cString]
  unfold parseCapacity
  rw [hconvert, parseSysfs_eq]
  rfl

theorem parseTemperature_eq (file : SysfsFile) (temperature : Int) :
    parseTemperature file temperature =
      match file with
      | .OpenFails => (.HdfErrIo, temperature)
      | .ReadFails => (.HdfSuccess, 0)
      | .Holds bytes => (.HdfSuccess, parseInt (SysfsFile.line bytes)) :=
  parseCapacity_eq file temperature

theorem chargeStateEnumConverter_cString (str : List UInt8) :
    chargeStateEnumConverter (cString str) = chargeStateEnumConverter str := by
  unfold chargeStateEnumConverter
  rw [cString_cString]

theorem parseChargeState_eq (file : SysfsFile) (chargeState : BatteryChargeState) :
    parseChargeState file chargeState =
      match file with
      | .OpenFails => (.HdfErrIo, chargeState)
      | .ReadFails => (.HdfSuccess, .Reserved)
      | .Holds bytes => (.HdfSuccess, chargeStateEnumConverter (SysfsFile.line bytes)) := by
  have hconvert : (fun buf => chargeStateEnumConverter (trim buf).bytes) =
      fun buf => chargeStateEnumConverter ((cString buf.bytes).takeWhile (· ≠ NEWLINE)) := by
    funext buf
    rw [← trim_string, chargeStateEnumConverter_cString]
  unfold parseChargeState
  rw [hconvert, parseSysfs_eq fun str => chargeStateEnumConverter (str.takeWhile (· ≠ NEWLINE))]
  cases file with
  | OpenFails => rfl
  | ReadFails => rfl
  | Holds bytes =>
      dsimp only
      unfold SysfsFile.line
      rw [List.takeWhile_idem]

end BatteryManager.Charger
