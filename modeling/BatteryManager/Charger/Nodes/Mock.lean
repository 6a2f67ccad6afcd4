import BatteryManager.Charger.Nodes
import BatteryManager.Charger.Thread
import BatteryManager.Library.Files

namespace BatteryManager.Charger

open Library

def POWER_SUPPLY_BASE_PATH : String := "/sys/class/power_supply"
def MOCK_POWER_SUPPLY_BASE_PATH : String := "/data/service/el0/battery"

-- `open` and `read`. A folder can be opened, but not read.
def openSysfsFile (fs : FileSystem) (path : String) : SysfsFile :=
  match fs path with
  | none => .OpenFails
  | some .Folder => .ReadFails
  | some (.File bytes) => .Holds bytes

-- `CreateFile` in a folder, with the end of the line that it writes.
def createFile (dir name content : String) : Creation where
  dir := dir
  name := name
  node := .File (ascii content ++ [NEWLINE])

def createMockTechPath (mockTechPath : String) : List Creation := [
  createFile mockTechPath "capacity" "1000",
  createFile mockTechPath "status" "Not charging",
  createFile mockTechPath "temp" "345"]

def createMockChargerPath (mockChargerPath : String) : List Creation := [
  createFile mockChargerPath "type" "USB",
  createFile mockChargerPath "constant_charge_current" "0",
  createFile mockChargerPath "health" "Good",
  createFile mockChargerPath "online" "1",
  createFile mockChargerPath "status" "Charging",
  createFile mockChargerPath "type" "USB"]

def createMockBatteryPath (mockBatteryPath : String) : List Creation := [
  createFile mockBatteryPath "capacity" "11",
  createFile mockBatteryPath "status" "Charging",
  createFile mockBatteryPath "temp" "222"]

def mockFolder (name : String) : Creation where
  dir := MOCK_POWER_SUPPLY_BASE_PATH
  name := name
  node := .Folder

def mockFolders : List Creation := [mockFolder "battery", mockFolder "ohos_charger", mockFolder "ohos-fgu"]

def mockFiles : List Creation :=
  createMockTechPath (mockFolder "ohos-fgu").path ++
    createMockChargerPath (mockFolder "ohos_charger").path ++
    createMockBatteryPath (mockFolder "battery").path

namespace PowerSupplyProvider

-- `allows` tells what the kernel lets the charger create.
def initDefaultSysfs (allows : String → Bool) (fs : FileSystem) (provider : PowerSupplyProvider) :
    FileSystem × PowerSupplyProvider :=
  (createAll allows (createAll allows fs mockFolders) mockFiles,
    { provider with path := MOCK_POWER_SUPPLY_BASE_PATH })

def initBatteryPath (allows : String → Bool) (fs : FileSystem) (provider : PowerSupplyProvider) :
    FileSystem × PowerSupplyProvider :=
  if (fs (joinPath POWER_SUPPLY_BASE_PATH "battery")).isSome then (fs, provider)
  else if (fs (joinPath POWER_SUPPLY_BASE_PATH "Battery")).isSome then (fs, provider)
  else provider.initDefaultSysfs allows fs

-- What one update then reads.
def updateEnv (fs : FileSystem) (light : LightEnv) (provider : PowerSupplyProvider) : UpdateEnv where
  temperature := openSysfsFile fs provider.batterySysfsInfo.temperaturePath
  capacity := openSysfsFile fs provider.batterySysfsInfo.capacityPath
  chargeState := openSysfsFile fs provider.batterySysfsInfo.chargeStatePath
  light := light

end PowerSupplyProvider

-- `tree` is what the directories show after the files have been created.
def initBatteryFileSystem (allows : String → Bool) (fs : FileSystem) (tree : PowerSupplyTree) :
    FileSystem × PowerSupplyProvider :=
  let found := PowerSupplyProvider.initBatteryPath allows fs {}
  (found.1, (found.2.initPowerSupplySysfs tree).2)

end BatteryManager.Charger
