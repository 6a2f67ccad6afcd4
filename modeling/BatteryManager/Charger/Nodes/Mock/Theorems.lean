import BatteryManager.Charger.Nodes.Mock
import BatteryManager.Charger.Nodes.Theorems

namespace BatteryManager.Charger

open Library

-- Directories show what stands in them, in any order. The name of an entry has
-- no slash.
structure PowerSupplyTree.Shows (tree : PowerSupplyTree) (fs : FileSystem) (base : String) : Prop where
  listing : ∃ listing, tree.listing = some listing ∧
    (listing.filter DirEntry.isNode).length ≤ MAX_SYSFS_SIZE ∧
    ∀ name, '/' ∉ name.toList → fs (joinPath base name) = some .Folder →
      ∃ entry ∈ listing, entry.name = name ∧ entry.isFolder = true
  folder : ∀ node, '/' ∉ node.toList → fs (joinPath base node) = some .Folder →
    ∃ entries, tree.folder node = some entries ∧
      ∀ name bytes, '/' ∉ name.toList → fs (joinPath (joinPath base node) name) = some (.File bytes) →
        ∃ entry ∈ entries, entry.name = name ∧ entry.isFolder = false

namespace PowerSupplyProvider

-- Touching a name does not change what the paths are made from.
theorem getD_touch (map : NodeNamePathMap) (touched name : String) :
    (map.touch touched name).getD "" = (map name).getD "" := by
  unfold NodeNamePathMap.touch
  by_cases hname : name = touched
  · rw [if_pos hname, hname]
    rfl
  · rw [if_neg hname]

-- The paths of a provider that has none yet, by its own map.
theorem initPowerSupplySysfs_paths (tree : PowerSupplyTree) {listing : List DirEntry}
    (hlisting : tree.listing = some listing) (path : String) :
    let provider := (initPowerSupplySysfs tree { path := path }).2
    let node name := (provider.nodeNamePathMap name).getD ""
    provider.batterySysfsInfo = {
      capacityPath := formatPath "" path (node "capacity") "capacity"
      temperaturePath := formatPath "" path (node "temp") "temp"
      chargeStatePath := formatPath "" path (node "status") "status" } := by
  unfold initPowerSupplySysfs
  rw [hlisting]
  dsimp only
  unfold formatSysfsPaths
  dsimp only
  simp only [getD_touch]
  rfl

end PowerSupplyProvider

def mockBattery : String := joinPath MOCK_POWER_SUPPLY_BASE_PATH "battery"

-- What the mock files of the battery hold after `InitDefaultSysfs`.
def mockBytes (fs : FileSystem) (name content : String) : List UInt8 :=
  match fs (joinPath mockBattery name) with
  | some (.File bytes) => bytes
  | _ => ascii content ++ [NEWLINE]

-- The files that can be created, and nothing that is in their way.
structure MockReady (allows : String → Bool) (fs : FileSystem) : Prop where
  base : fs MOCK_POWER_SUPPLY_BASE_PATH = some .Folder
  battery : ∀ bytes, fs mockBattery ≠ some (.File bytes)
  files : ∀ name ∈ sysfsNames, fs (joinPath mockBattery name) ≠ some .Folder
  allowsBattery : allows mockBattery = true
  allowsFiles : ∀ name ∈ sysfsNames, allows (joinPath mockBattery name) = true

namespace MockReady

variable {allows : String → Bool} {fs : FileSystem}

theorem folder (hready : MockReady allows fs) :
    createAll allows fs mockFolders mockBattery = some .Folder := by
  have hfirst : mockFolders.find? (fun creation => creation.path = mockBattery) = some (mockFolder "battery") :=
    rfl
  have hcreated : createAll allows fs mockFolders mockBattery = some ((fs mockBattery).getD .Folder) :=
    createAll_path hfirst hready.base hready.allowsBattery
  rw [hcreated]
  cases hstands : fs mockBattery with
  | none => rfl
  | some node =>
      cases node with
      | Folder => rfl
      | File bytes => exact absurd hstands (hready.battery bytes)

theorem file (hready : MockReady allows fs) {name content : String} (hname : name ∈ sysfsNames)
    (hfirst : mockFiles.find? (fun creation => creation.path = joinPath mockBattery name) =
      some (createFile mockBattery name content))
    (hnew : joinPath mockBattery name ∉ mockFolders.map Creation.path) :
    createAll allows (createAll allows fs mockFolders) mockFiles (joinPath mockBattery name) =
      some (.File (mockBytes fs name content)) := by
  rw [createAll_path hfirst hready.folder (hready.allowsFiles name hname), createAll_other hnew]
  unfold mockBytes
  cases hstands : fs (joinPath mockBattery name) with
  | none => rfl
  | some node =>
      cases node with
      | Folder => exact absurd hstands (hready.files name hname)
      | File bytes => rfl

end MockReady

section Readings

variable {allows : String → Bool} {fs : FileSystem} {tree : PowerSupplyTree}

-- After the files have been created.
def mocked (allows : String → Bool) (fs : FileSystem) : FileSystem :=
  (PowerSupplyProvider.initDefaultSysfs allows fs {}).1

theorem mocked_file (hready : MockReady allows fs) :
    mocked allows fs (joinPath mockBattery "capacity") = some (.File (mockBytes fs "capacity" "11")) ∧
      mocked allows fs (joinPath mockBattery "temp") = some (.File (mockBytes fs "temp" "222")) ∧
      mocked allows fs (joinPath mockBattery "status") = some (.File (mockBytes fs "status" "Charging")) :=
  ⟨hready.file (by decide) rfl (by decide), hready.file (by decide) rfl (by decide),
    hready.file (by decide) rfl (by decide)⟩

-- Whatever else there is, the files are those of the battery.
theorem selected_battery (hready : MockReady allows fs)
    (hshows : tree.Shows (mocked allows fs) MOCK_POWER_SUPPLY_BASE_PATH) {name : String} {bytes : List UInt8}
    (hslash : '/' ∉ name.toList) (hdot : name ≠ "." ∧ name ≠ "..")
    (hfile : mocked allows fs (joinPath mockBattery name) = some (.File bytes)) {listing : List DirEntry}
    (hlisting : tree.listing = some listing) :
    tree.selected (nodesOf listing) name = "battery" := by
  have hfolder : mocked allows fs mockBattery = some .Folder := createAll_kept hready.folder mockFiles
  obtain ⟨shown, hshown, -, hfolders⟩ := hshows.listing
  obtain rfl : shown = listing := Option.some.inj (hshown.symm.trans hlisting)
  obtain ⟨node, hnode, hname, hisFolder⟩ := hfolders "battery" (by decide) hfolder
  have hmem : "battery" ∈ nodesOf shown := by
    refine List.mem_map.mpr ⟨node, List.mem_filter.mpr ⟨hnode, ?_⟩, hname⟩
    simp [DirEntry.isNode, DirEntry.isDot, hname, hisFolder]
  obtain ⟨entries, hentries, hfiles⟩ := hshows.folder "battery" (by decide) hfolder
  obtain ⟨entry, hentry, hentryName, hplain⟩ := hfiles name bytes hslash hfile
  have hcontains : tree.contains name "battery" = true := by
    unfold PowerSupplyTree.contains
    rw [hentries]
    refine List.any_eq_true.mpr ⟨entry, hentry, ?_⟩
    simp [DirEntry.isPlain, DirEntry.isDot, hentryName, hdot.1, hdot.2, hplain]
  unfold PowerSupplyTree.selected
  rw [if_pos ⟨hmem, hcontains⟩]

-- The map of a provider that reads the nodes once.
theorem nodeNamePathMap_fresh {listing : List DirEntry} (hlisting : tree.listing = some listing)
    (hsize : (listing.filter DirEntry.isNode).length ≤ MAX_SYSFS_SIZE) (path : String) {name : String}
    (hname : name ∈ sysfsNames) :
    (PowerSupplyProvider.initPowerSupplySysfs tree { path := path }).2.nodeNamePathMap name =
      some (tree.selected (nodesOf listing) name) := by
  have hmap := nodeNamePathMap_iterate hlisting hsize path 0
  rw [Function.iterate_one] at hmap
  rw [hmap, visit_inserted tree (traversalOrder_ne (nodesOf_ne listing)), if_pos hname, find?_selected]

-- A device without a battery reads the mock files, those that were there before
-- and otherwise the ones that the charger has written.
theorem updateEnv_mocked (hlower : fs (joinPath POWER_SUPPLY_BASE_PATH "battery") = none)
    (hupper : fs (joinPath POWER_SUPPLY_BASE_PATH "Battery") = none) (hready : MockReady allows fs)
    (hshows : tree.Shows (mocked allows fs) MOCK_POWER_SUPPLY_BASE_PATH) (light : LightEnv) :
    let booted := initBatteryFileSystem allows fs tree
    booted.2.updateEnv booted.1 light = {
      temperature := .Holds (mockBytes fs "temp" "222")
      capacity := .Holds (mockBytes fs "capacity" "11")
      chargeState := .Holds (mockBytes fs "status" "Charging")
      light := light } := by
  intro booted
  obtain ⟨listing, hlisting, hsize, -⟩ := hshows.listing
  obtain ⟨hcapacity, htemp, hstatus⟩ := mocked_file hready
  have hbooted : booted = (mocked allows fs,
      (PowerSupplyProvider.initPowerSupplySysfs tree { path := MOCK_POWER_SUPPLY_BASE_PATH }).2) := by
    simp only [booted, initBatteryFileSystem, PowerSupplyProvider.initBatteryPath, hlower, hupper]
    rfl
  have hnode : ∀ {name : String} {bytes : List UInt8}, name ∈ sysfsNames → '/' ∉ name.toList →
      name ≠ "." ∧ name ≠ ".." →
      mocked allows fs (joinPath mockBattery name) = some (.File bytes) →
      (PowerSupplyProvider.initPowerSupplySysfs tree
        { path := MOCK_POWER_SUPPLY_BASE_PATH }).2.nodeNamePathMap name = some "battery" := by
    intro name bytes hname hslash hdot hfile
    rw [nodeNamePathMap_fresh hlisting hsize _ hname, selected_battery hready hshows hslash hdot hfile hlisting]
  have hpaths := PowerSupplyProvider.initPowerSupplySysfs_paths tree hlisting MOCK_POWER_SUPPLY_BASE_PATH
  dsimp only at hpaths
  rw [hnode (by decide) (by decide) (by decide) hcapacity, hnode (by decide) (by decide) (by decide) htemp,
    hnode (by decide) (by decide) (by decide) hstatus] at hpaths
  have hformat : ∀ name ∈ sysfsNames,
      PowerSupplyProvider.formatPath "" MOCK_POWER_SUPPLY_BASE_PATH "battery" name =
        joinPath mockBattery name := by
    decide
  rw [hbooted]
  unfold PowerSupplyProvider.updateEnv
  dsimp only
  rw [hpaths]
  dsimp only [Option.getD_some]
  rw [hformat "capacity" (by decide), hformat "temp" (by decide), hformat "status" (by decide)]
  unfold openSysfsFile
  rw [hcapacity, htemp, hstatus]

end Readings

-- A device on which nothing has been created yet, and its folders afterwards.

def newDevice : FileSystem := fun path => if path = MOCK_POWER_SUPPLY_BASE_PATH then some .Folder else none

def entriesOf (type : EntryType) (names : List String) (hnames : ∀ name ∈ names, name ≠ "") : List DirEntry :=
  names.pmap (fun name hname => ⟨name, type, hname⟩) hnames

def newTree : PowerSupplyTree :=
  let readings := entriesOf .Other ["capacity", "status", "temp"] (by decide)
  { listing := some (entriesOf .Directory ["ohos-fgu", "ohos_charger", "battery"] (by decide))
    folder := fun node =>
      if node = "ohos-fgu" then some readings
      else if node = "battery" then some readings
      else if node = "ohos_charger" then
        some (entriesOf .Other ["type", "constant_charge_current", "health", "online", "status"] (by decide))
      else none }

-- All that stands below the mock folder is what has been created there.
theorem newDevice_created {dir name : String} {node : FileNode}
    (hlength : MOCK_POWER_SUPPLY_BASE_PATH.length ≤ dir.length) (hname : '/' ∉ name.toList)
    (hnode : mocked (fun _ => true) newDevice (joinPath dir name) = some node) :
    ∃ creation ∈ mockFolders ++ mockFiles, creation.dir = dir ∧ creation.name = name := by
  have hslash : ∀ creation ∈ mockFolders ++ mockFiles, '/' ∉ creation.name.toList := by decide
  have hall : mocked (fun _ => true) newDevice =
      createAll (fun _ => true) newDevice (mockFolders ++ mockFiles) := List.foldl_append.symm
  rw [hall] at hnode
  obtain ⟨creation, hmem, hpath⟩ := createAll_new (if_neg (joinPath_ne hlength name)) hnode
  exact ⟨creation, hmem, joinPath_inj (hslash creation hmem) hname hpath⟩

theorem newTree_shows :
    newTree.Shows (mocked (fun _ => true) newDevice) MOCK_POWER_SUPPLY_BASE_PATH := by
  refine ⟨⟨_, rfl, by decide, ?_⟩, ?_⟩
  · intro name hname hstands
    obtain ⟨creation, hmem, hdir, rfl⟩ := newDevice_created (Nat.le_refl _) hname hstands
    have hlisted : ∀ creation ∈ mockFolders ++ mockFiles, creation.dir = MOCK_POWER_SUPPLY_BASE_PATH →
        ∃ entry ∈ newTree.listing.getD [], entry.name = creation.name ∧ entry.isFolder = true := by
      decide
    exact hlisted creation hmem hdir
  · intro node hnode hstands
    obtain ⟨creation, hmem, hdir, rfl⟩ := newDevice_created (Nat.le_refl _) hnode hstands
    have hlisted : ∀ creation ∈ mockFolders ++ mockFiles, creation.dir = MOCK_POWER_SUPPLY_BASE_PATH →
        (newTree.folder creation.name).isSome = true ∧ ∀ file ∈ mockFolders ++ mockFiles,
          file.dir = joinPath MOCK_POWER_SUPPLY_BASE_PATH creation.name →
            ∃ entry ∈ (newTree.folder creation.name).getD [],
              entry.name = file.name ∧ entry.isFolder = false := by
      decide
    obtain ⟨hsome, hfiles⟩ := hlisted creation hmem hdir
    obtain ⟨entries, hentries⟩ := Option.isSome_iff_exists.mp hsome
    refine ⟨entries, hentries, fun name bytes hname hbytes => ?_⟩
    have hlength : MOCK_POWER_SUPPLY_BASE_PATH.length ≤
        (joinPath MOCK_POWER_SUPPLY_BASE_PATH creation.name).length := by
      simp only [joinPath, String.length_append]
      omega
    obtain ⟨file, hfile, hfileDir, rfl⟩ := newDevice_created hlength hname hbytes
    have hentry := hfiles file hfile hfileDir
    rw [hentries, Option.getD_some] at hentry
    exact hentry

theorem updateEnv_mocked_newDevice :
    let booted := initBatteryFileSystem (fun _ => true) newDevice newTree
    booted.2.updateEnv booted.1 ⟨true, true⟩ = {
      temperature := .Holds (ascii "222\n")
      capacity := .Holds (ascii "11\n")
      chargeState := .Holds (ascii "Charging\n")
      light := ⟨true, true⟩ } := by
  have hready : MockReady (fun _ => true) newDevice := by
    refine ⟨rfl, ?_, by decide, rfl, fun _ _ => rfl⟩
    intro bytes hbytes
    cases hbytes
  exact updateEnv_mocked rfl rfl hready newTree_shows ⟨true, true⟩

end BatteryManager.Charger
