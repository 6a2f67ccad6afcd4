import BatteryManager.Charger.Provider

namespace BatteryManager.Charger

def MAX_SYSFS_SIZE : Nat := 64
def PATH_MAX : Nat := 4096
def POWER_SUPPLY_BATTERY : String := "Battery"
def BATTERY_NODE_PATH : String := "battery"

inductive EntryType
  | Directory
  | Link
  | Other
  deriving DecidableEq

-- What `readdir` gives. The name of an entry is never empty.
structure DirEntry where
  name : String
  type : EntryType
  name_ne : name ≠ ""

namespace DirEntry

def isDot (entry : DirEntry) : Bool := entry.name = "." || entry.name = ".."

def isFolder (entry : DirEntry) : Bool := entry.type = .Directory || entry.type = .Link

-- The entries that are listed as nodes, and those that are files of a node.
def isNode (entry : DirEntry) : Bool := !entry.isDot && entry.isFolder

def isPlain (entry : DirEntry) : Bool := !entry.isDot && !entry.isFolder

end DirEntry

-- The directory of the nodes and what is inside of each, where it can be opened.
structure PowerSupplyTree where
  listing : Option (List DirEntry)
  folder : String → Option (List DirEntry)

-- The map from names of files to nodes. A name that is not in it has no value.
abbrev NodeNamePathMap := String → Option String

namespace NodeNamePathMap

-- `operator[]` inserts an empty value for a name that is not there.
def touch (name : String) (map : NodeNamePathMap) : NodeNamePathMap :=
  fun other => if other = name then some ((map name).getD "") else map other

def assign (name value : String) (map : NodeNamePathMap) : NodeNamePathMap :=
  fun other => if other = name then some value else map other

-- The loop over the map for one entry. Each name only changes its own value.
def fill (entryName path : String) (map : NodeNamePathMap) : NodeNamePathMap :=
  fun name => (map name).map fun value => if entryName = name ∧ value = "" then path else value

end NodeNamePathMap

def strcasecmpEqual (first second : String) : Bool := first.toLower = second.toLower

def checkEntry (path entryName : String) (map : NodeNamePathMap) : NodeNamePathMap :=
  if entryName = "type" then
    let touched := map.touch "type"
    if touched "type" = some "" ∧ !strcasecmpEqual path BATTERY_NODE_PATH then
      (touched.assign "type" path).fill entryName path
    else touched.fill entryName path
  else map.fill entryName path

def checkSubfolderNode (tree : PowerSupplyTree) (path : String) (map : NodeNamePathMap) : NodeNamePathMap :=
  match tree.folder path with
  | none => map
  | some entries =>
      entries.foldl (fun map entry => if entry.isPlain then checkEntry path entry.name map else map) map

-- One loop of `TraversalNode` that erases the names it has handled.
def traversalPass (tree : PowerSupplyTree) (target : String) :
    List String → NodeNamePathMap → List String × NodeNamePathMap
  | [], map => ([], map)
  | name :: rest, map =>
      if name = target then traversalPass tree target rest (checkSubfolderNode tree name map)
      else
        let later := traversalPass tree target rest map
        (name :: later.1, later.2)

structure BatterySysfsInfo where
  capacityPath : String := ""
  temperaturePath : String := ""
  chargeStatePath : String := ""

structure PowerSupplyProvider where
  path : String := "/sys/class/power_supply"
  index : Nat := 0
  nodeNames : List String := []
  nodeNamePathMap : NodeNamePathMap := fun _ => none
  batterySysfsInfo : BatterySysfsInfo := {}

namespace PowerSupplyProvider

def traversalNode (tree : PowerSupplyTree) (provider : PowerSupplyProvider) : PowerSupplyProvider :=
  let inserted := ((provider.nodeNamePathMap.touch "capacity").touch "temp").touch "status"
  let lower := traversalPass tree "battery" provider.nodeNames inserted
  let upper := traversalPass tree POWER_SUPPLY_BATTERY lower.1 lower.2
  { provider with
    nodeNames := upper.1
    nodeNamePathMap := upper.1.foldl (fun map name => checkSubfolderNode tree name map) upper.2 }

-- A path that does not fit leaves the old one.
def formatPath (old basePath name file : String) : String :=
  let formatted := basePath ++ "/" ++ name ++ "/" ++ file
  if old.utf8ByteSize ≥ PATH_MAX then old
  else if formatted.utf8ByteSize > PATH_MAX - 1 then old
  else formatted

def formatSysfsPaths (provider : PowerSupplyProvider) : PowerSupplyProvider :=
  let node name := (provider.nodeNamePathMap name).getD ""
  let info := provider.batterySysfsInfo
  { provider with
    nodeNamePathMap := ((provider.nodeNamePathMap.touch "capacity").touch "temp").touch "status"
    batterySysfsInfo := {
      capacityPath := formatPath info.capacityPath provider.path (node "capacity") "capacity"
      temperaturePath := formatPath info.temperaturePath provider.path (node "temp") "temp"
      chargeStatePath := formatPath info.chargeStatePath provider.path (node "status") "status" } }

-- The loop over the directory, with the names that are added and the count at the end.
def readNodes : List DirEntry → Nat → List String × Nat
  | [], index => ([], index)
  | entry :: rest, index =>
      if entry.isNode then
        if index ≥ MAX_SYSFS_SIZE then ([], index)
        else
          let later := readNodes rest (index + 1)
          (entry.name :: later.1, later.2)
      else readNodes rest index

def initPowerSupplySysfs (tree : PowerSupplyTree) (provider : PowerSupplyProvider) :
    HdfStatus × PowerSupplyProvider :=
  let reset := { provider with index := 0 }
  match tree.listing with
  | none => (.HdfErrIo, reset)
  | some listing =>
      let nodes := readNodes listing 0
      let listed := { reset with
        index := nodes.2, nodeNames := provider.nodeNames ++ nodes.1, nodeNamePathMap := fun _ => none }
      (.HdfSuccess, (listed.traversalNode tree).formatSysfsPaths)

end PowerSupplyProvider

end BatteryManager.Charger
