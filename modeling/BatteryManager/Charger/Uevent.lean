import BatteryManager.Charger.Thread

namespace BatteryManager.Charger

open Library

def UEVENT_RESERVED_SIZE : Nat := 2
def UEVENT_MSG_LEN : Nat := 2048
def POWER_SUPPLY : String := "SUBSYSTEM=power_supply"

-- A read past the end of the buffer has no result.

-- `strcmp(msg, text) == 0`, which reads up to the first difference.
def strcmpEqual : List UInt8 → List UInt8 → Option Bool
  | [], _ => none
  | byte :: _, [] => some (byte = 0)
  | byte :: msg, expected :: text => if byte = expected then strcmpEqual msg text else some false

-- `while (*msg++) {}`
def moveToNext : List UInt8 → Option (List UInt8)
  | [] => none
  | byte :: msg => if byte = 0 then some msg else moveToNext msg

-- One round for each field that is compared.
def searchFields : Nat → List UInt8 → Option Bool
  | 0, _ => none
  | _ + 1, [] => none
  | rounds + 1, byte :: msg =>
      if byte = 0 then some false
      else
        match strcmpEqual (byte :: msg) (ascii POWER_SUPPLY) with
        | none => none
        | some true => some true
        | some false => (moveToNext (byte :: msg)).bind (searchFields rounds)

-- `msg` is the buffer from the pointer on.
def isPowerSupplyEvent (msg : List UInt8) : Option Bool := searchFields msg.length msg

-- The zeroed buffer after `recv` and the two separators.
def ueventBuffer (received : List UInt8) : List UInt8 :=
  received ++ List.replicate (UEVENT_MSG_LEN + UEVENT_RESERVED_SIZE - received.length) 0

-- `recv` fails or stores a message.
def acceptsUevent : Option (List UInt8) → Bool
  | none => false
  | some received =>
      if received.length ≥ UEVENT_MSG_LEN then false
      else isPowerSupplyEvent (ueventBuffer received) = some true

def ChargerThread.ueventCallback (config : BatteryConfig) (received : Option (List UInt8))
    (env : UpdateEnv) (thread : ChargerThread) : ChargerThread × List ChargerEffect :=
  if acceptsUevent received then thread.updateBatteryInfo config env else (thread, [])

end BatteryManager.Charger
