import BatteryManager.Library.CString
import Mathlib.Data.Int.Notation

namespace BatteryManager.Charger

open Library

def MAX_BUFF_SIZE : Nat := 128

-- The `size_t` of a return value of -1.
def SIZE_MAX : Nat := 18446744073709551615

def NEWLINE : UInt8 := 10

inductive HdfStatus
  | HdfSuccess
  | HdfErrIo
  deriving DecidableEq

inductive BatteryChargeState
  | None
  | Enable
  | Disable
  | Full
  | Reserved
  deriving DecidableEq

-- What comes of `open` and `read`. The file may hold more bytes than are read.
inductive SysfsFile
  | OpenFails
  | ReadFails
  | Holds (bytes : List UInt8)

-- A buffer, with the indices that have been written so far. A write outside of
-- the buffer leaves its bytes alone.
structure SysfsBuffer where
  bytes : List UInt8
  written : List Nat := []

namespace SysfsBuffer

def zeroed (size : Nat) : SysfsBuffer where
  bytes := List.replicate size 0

def store (buf : SysfsBuffer) (index : Nat) (byte : UInt8) : SysfsBuffer where
  bytes := buf.bytes.set index byte
  written := buf.written ++ [index]

-- What `read` stores, from the start of the buffer.
def fill (buf : SysfsBuffer) (bytes : List UInt8) : SysfsBuffer where
  bytes := bytes ++ buf.bytes.drop bytes.length
  written := buf.written ++ List.range bytes.length

end SysfsBuffer

def trim (buf : SysfsBuffer) : SysfsBuffer := buf.store (strcspn [NEWLINE] buf.bytes) 0

-- The result of a failed `read` is not looked at.
def readSysfsFile (file : SysfsFile) (buf : SysfsBuffer) (size : Nat) : HdfStatus × SysfsBuffer :=
  match file with
  | .OpenFails => (.HdfErrIo, buf)
  | .ReadFails => (.HdfSuccess, trim (buf.store SIZE_MAX 0))
  | .Holds bytes =>
      let filled := buf.fill (bytes.take (size - 1))
      (.HdfSuccess, trim (filled.store (bytes.take (size - 1)).length 0))

def readBatterySysfsToBuff (file : SysfsFile) (buf : SysfsBuffer) (size : Nat) :
    HdfStatus × SysfsBuffer :=
  let read := readSysfsFile file buf size
  if read.1 ≠ .HdfSuccess then (read.1, read.2) else (.HdfSuccess, read.2)

-- The conversion of a long to an `int32_t`.
def parseInt (str : List UInt8) : Int := (strtol str).bmod 4294967296

def chargeStateEnumMap : List (String × BatteryChargeState) := [
  ("Discharging", .None),
  ("Charging", .Enable),
  ("Full", .Full),
  ("Not charging", .Disable),
  ("Unknown", .Reserved)]

def chargeStateEnumConverter (str : List UInt8) : BatteryChargeState :=
  match chargeStateEnumMap.find? fun entry => cString str = ascii entry.1 with
  | some entry => entry.2
  | none => .Reserved

section Parse

variable {α : Type*}

-- What the three parsers share. `value` is the variable that they are given.
def parseSysfs (convert : SysfsBuffer → α) (file : SysfsFile) (value : α) : HdfStatus × α :=
  let read := readBatterySysfsToBuff file (.zeroed MAX_BUFF_SIZE) MAX_BUFF_SIZE
  if read.1 ≠ .HdfSuccess then (read.1, value) else (.HdfSuccess, convert read.2)

def parseCapacity : SysfsFile → Int → HdfStatus × Int :=
  parseSysfs fun buf => parseInt buf.bytes

def parseTemperature : SysfsFile → Int → HdfStatus × Int :=
  parseSysfs fun buf => parseInt buf.bytes

def parseChargeState : SysfsFile → BatteryChargeState → HdfStatus × BatteryChargeState :=
  parseSysfs fun buf => chargeStateEnumConverter (trim buf).bytes

end Parse

-- What one read can see of a file: the bytes that fit, up to a NUL or a newline.
def SysfsFile.line (bytes : List UInt8) : List UInt8 :=
  (cString (bytes.take (MAX_BUFF_SIZE - 1))).takeWhile (· ≠ NEWLINE)

end BatteryManager.Charger
