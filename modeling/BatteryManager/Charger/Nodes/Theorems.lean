import BatteryManager.Charger.Nodes
import Mathlib.Data.List.Basic
import Mathlib.Logic.Function.Iterate

namespace BatteryManager.Charger

namespace PowerSupplyTree

-- A node has a plain entry of a name.
def contains (tree : PowerSupplyTree) (name node : String) : Bool :=
  match tree.folder node with
  | none => false
  | some entries => entries.any fun entry => entry.isPlain && entry.name = name

-- The node that a file is read from: first `battery`, then `Battery`, then the
-- other nodes in the order of the listing.
def selected (tree : PowerSupplyTree) (nodes : List String) (name : String) : String :=
  if "battery" ∈ nodes ∧ tree.contains name "battery" = true then "battery"
  else if "Battery" ∈ nodes ∧ tree.contains name "Battery" = true then "Battery"
  else ((nodes.filter fun node => node ≠ "battery" ∧ node ≠ "Battery").find?
    (tree.contains name)).getD ""

end PowerSupplyTree

-- What a node that contains `name` does to the value of `name`.
def settle (name path : String) : Option String → Option String
  | some value => some (if value = "" then path else value)
  | none => if name = "type" then some path else none

theorem settle_settle (name path : String) (value : Option String) :
    settle name path (settle name path value) = settle name path value := by
  cases value with
  | none => by_cases hname : name = "type" <;> simp [settle, hname]
  | some value => by_cases hvalue : value = "" <;> simp [settle, hvalue]

theorem fill_apply (entryName path name : String) (map : NodeNamePathMap) :
    map.fill entryName path name =
      if name = entryName then (map name).map fun value => if value = "" then path else value
      else map name := by
  unfold NodeNamePathMap.fill
  by_cases hname : name = entryName
  · simp [hname]
  · simp [hname, Ne.symm hname]

-- One entry settles the value of its own name, be it `type` or any other.
theorem checkEntry_apply (path entryName name : String) (map : NodeNamePathMap) :
    checkEntry path entryName map name =
      if name = entryName then settle name path (map name) else map name := by
  unfold checkEntry
  by_cases htype : entryName = "type"
  · subst htype
    rw [if_pos rfl]
    by_cases hname : name = "type"
    · subst hname
      have htouched : map.touch "type" "type" = some ((map "type").getD "") := if_pos rfl
      have hsettled : settle "type" path (map "type") =
          some (if (map "type").getD "" = "" then path else (map "type").getD "") := by
        cases map "type" with
        | none => rfl
        | some value => rfl
      rw [if_pos rfl, hsettled]
      split
      · rename_i hfirst
        have hempty : (map "type").getD "" = "" := Option.some.inj (htouched.symm.trans hfirst.1)
        have hassigned : (map.touch "type").assign "type" path "type" = some path := if_pos rfl
        rw [fill_apply, if_pos rfl, hassigned, Option.map_some, ite_self, if_pos hempty]
      · rw [fill_apply, if_pos rfl, htouched, Option.map_some]
    · have htouched : map.touch "type" name = map name := if_neg hname
      rw [if_neg hname]
      split
      · have hassigned : (map.touch "type").assign "type" path name = map.touch "type" name :=
          if_neg hname
        rw [fill_apply, if_neg hname, hassigned, htouched]
      · rw [fill_apply, if_neg hname, htouched]
  · rw [if_neg htype, fill_apply]
    by_cases hname : name = entryName
    · rw [if_pos hname, if_pos hname]
      cases map name with
      | none => simp [settle, hname, htype]
      | some value => rfl
    · rw [if_neg hname, if_neg hname]

theorem checkEntries_apply (path name : String) (entries : List DirEntry) (map : NodeNamePathMap) :
    entries.foldl (fun map entry => if entry.isPlain then checkEntry path entry.name map else map) map
        name =
      if entries.any (fun entry => entry.isPlain && entry.name = name) then settle name path (map name)
      else map name := by
  induction entries generalizing map with
  | nil => rfl
  | cons entry rest ih =>
      rw [List.foldl_cons, ih]
      simp only [List.any_cons]
      by_cases hplain : entry.isPlain = true
      · rw [if_pos hplain, checkEntry_apply]
        by_cases hname : name = entry.name
        · simp [hplain, hname, settle_settle]
        · simp [hplain, hname, Ne.symm hname]
      · simp [hplain]

theorem checkSubfolderNode_apply (tree : PowerSupplyTree) (path name : String) (map : NodeNamePathMap) :
    checkSubfolderNode tree path map name =
      if tree.contains name path then settle name path (map name) else map name := by
  unfold checkSubfolderNode PowerSupplyTree.contains
  cases tree.folder path with
  | none => rfl
  | some entries => exact checkEntries_apply path name entries map

-- The nodes in the order in which they are looked at.
def visit (tree : PowerSupplyTree) (nodes : List String) (map : NodeNamePathMap) : NodeNamePathMap :=
  nodes.foldl (fun map node => checkSubfolderNode tree node map) map

theorem visit_apply (tree : PowerSupplyTree) (nodes : List String) (name : String) (map : NodeNamePathMap) :
    visit tree nodes map name =
      (nodes.filter (tree.contains name)).foldl (fun value node => settle name node value) (map name) := by
  unfold visit
  induction nodes generalizing map with
  | nil => rfl
  | cons node rest ih =>
      rw [List.foldl_cons, ih, checkSubfolderNode_apply]
      by_cases hcontains : tree.contains name node = true
      · rw [if_pos hcontains, List.filter_cons_of_pos hcontains, List.foldl_cons]
      · rw [if_neg hcontains, List.filter_cons_of_neg hcontains]

theorem settle_value {value : String} (hvalue : value ≠ "") (name : String) (nodes : List String) :
    nodes.foldl (fun value node => settle name node value) (some value) = some value := by
  induction nodes with
  | nil => rfl
  | cons node rest ih => rw [List.foldl_cons, settle, if_neg hvalue, ih]

-- The first node wins.
theorem settle_first (name : String) {nodes : List String} (hnodes : ∀ node ∈ nodes, node ≠ "") :
    nodes.foldl (fun value node => settle name node value) (some "") = some (nodes.head?.getD "") := by
  cases nodes with
  | nil => rfl
  | cons node rest =>
      have hnode := hnodes node (by simp)
      rw [List.foldl_cons, settle, if_pos rfl, settle_value hnode]
      rfl

theorem settle_none (name : String) {nodes : List String} (hnodes : ∀ node ∈ nodes, node ≠ "") :
    nodes.foldl (fun value node => settle name node value) none =
      if name = "type" then nodes.head? else none := by
  by_cases htype : name = "type"
  · rw [if_pos htype]
    cases nodes with
    | nil => rfl
    | cons node rest =>
        have hnode := hnodes node (by simp)
        rw [List.foldl_cons, settle, if_pos htype, settle_value hnode]
        rfl
  · rw [if_neg htype]
    induction nodes with
    | nil => rfl
    | cons node rest ih =>
        rw [List.foldl_cons, settle, if_neg htype]
        exact ih fun other hother => hnodes other (List.mem_cons_of_mem node hother)

-- The three names that `TraversalNode` inserts.
def inserted : NodeNamePathMap :=
  ((NodeNamePathMap.touch "capacity" fun _ => none).touch "temp").touch "status"

def sysfsNames : List String := ["capacity", "temp", "status"]

theorem inserted_apply (name : String) : inserted name = if name ∈ sysfsNames then some "" else none := by
  unfold inserted sysfsNames NodeNamePathMap.touch
  by_cases hcapacity : name = "capacity"
  · simp [hcapacity]
  · by_cases htemp : name = "temp"
    · simp [htemp]
    · by_cases hstatus : name = "status"
      · simp [hstatus]
      · simp [hcapacity, htemp, hstatus]

-- The whole map after the nodes were looked at.
theorem visit_inserted (tree : PowerSupplyTree) {nodes : List String} (hnodes : ∀ node ∈ nodes, node ≠ "")
    (name : String) :
    visit tree nodes inserted name =
      if name ∈ sysfsNames then some ((nodes.find? (tree.contains name)).getD "")
      else if name = "type" then nodes.find? (tree.contains name) else none := by
  have hfiltered : ∀ node ∈ nodes.filter (tree.contains name), node ≠ "" :=
    fun node hnode => hnodes node (List.mem_filter.mp hnode).1
  rw [visit_apply, inserted_apply]
  by_cases hname : name ∈ sysfsNames
  · rw [if_pos hname, if_pos hname, settle_first name hfiltered, List.head?_filter]
  · rw [if_neg hname, if_neg hname, settle_none name hfiltered, List.head?_filter]

theorem traversalPass_eq (tree : PowerSupplyTree) (target : String) (nodes : List String)
    (map : NodeNamePathMap) :
    traversalPass tree target nodes map =
      (nodes.filter (· ≠ target), visit tree (nodes.filter (· = target)) map) := by
  induction nodes generalizing map with
  | nil => rfl
  | cons node rest ih =>
      unfold traversalPass
      by_cases htarget : node = target
      · simp [htarget, ih, visit]
      · simp [htarget, ih]

-- The nodes that stay listed, and the order in which a traversal looks at all.
def others (nodes : List String) : List String :=
  nodes.filter fun node => node ≠ "battery" ∧ node ≠ "Battery"

def traversalOrder (nodes : List String) : List String :=
  nodes.filter (· = "battery") ++ (nodes.filter (· = "Battery") ++ others nodes)

theorem filter_filter_others (nodes : List String) :
    (nodes.filter (· ≠ "battery")).filter (· ≠ "Battery") = others nodes := by
  unfold others
  rw [List.filter_filter]
  congr 1
  funext node
  simp [and_comm]

theorem filter_filter_upper (nodes : List String) :
    (nodes.filter (· ≠ "battery")).filter (· = "Battery") = nodes.filter (· = "Battery") := by
  rw [List.filter_filter]
  congr 1
  funext node
  by_cases hnode : node = "Battery" <;> simp [hnode]

namespace PowerSupplyProvider

theorem traversalNode_eq (tree : PowerSupplyTree) (provider : PowerSupplyProvider)
    (hcleared : provider.nodeNamePathMap = fun _ => none) :
    provider.traversalNode tree = { provider with
      nodeNames := others provider.nodeNames
      nodeNamePathMap := visit tree (traversalOrder provider.nodeNames) inserted } := by
  unfold traversalNode
  simp only [traversalPass_eq, POWER_SUPPLY_BATTERY, filter_filter_others, filter_filter_upper, hcleared]
  unfold traversalOrder visit
  rw [List.foldl_append, List.foldl_append]
  rfl

theorem readNodes_eq (listing : List DirEntry) (index : Nat)
    (hsize : index + (listing.filter DirEntry.isNode).length ≤ MAX_SYSFS_SIZE) :
    (readNodes listing index).1 = (listing.filter DirEntry.isNode).map DirEntry.name := by
  induction listing generalizing index with
  | nil => rfl
  | cons entry rest ih =>
      unfold readNodes
      by_cases hnode : entry.isNode = true
      · rw [List.filter_cons_of_pos hnode, List.length_cons] at hsize
        have hroom : ¬index ≥ MAX_SYSFS_SIZE := by omega
        rw [if_pos hnode, if_neg hroom, List.filter_cons_of_pos hnode, List.map_cons]
        dsimp only
        rw [ih (index + 1) (by omega)]
      · rw [List.filter_cons_of_neg hnode] at hsize
        rw [if_neg hnode, List.filter_cons_of_neg hnode, ih index hsize]

end PowerSupplyProvider

theorem touch_of_some {name value : String} {map : NodeNamePathMap} (hvalue : map name = some value) :
    map.touch name = map := by
  funext other
  unfold NodeNamePathMap.touch
  by_cases hother : other = name
  · rw [if_pos hother, hother, hvalue]
    rfl
  · rw [if_neg hother]

-- The names of the nodes of a listing.
def nodesOf (listing : List DirEntry) : List String :=
  (listing.filter DirEntry.isNode).map DirEntry.name

theorem nodesOf_ne (listing : List DirEntry) : ∀ node ∈ nodesOf listing, node ≠ "" := by
  intro node hnode
  obtain ⟨entry, -, rfl⟩ := List.mem_map.mp hnode
  exact entry.name_ne

theorem traversalOrder_ne {nodes : List String} (hnodes : ∀ node ∈ nodes, node ≠ "") :
    ∀ node ∈ traversalOrder nodes, node ≠ "" := by
  intro node hnode
  simp only [traversalOrder, others, List.mem_append, List.mem_filter] at hnode
  rcases hnode with ⟨hmem, -⟩ | ⟨hmem, -⟩ | ⟨hmem, -⟩ <;> exact hnodes node hmem

section Calls

variable {tree : PowerSupplyTree} {listing : List DirEntry}

-- One call over a listing that is not too long.
theorem initPowerSupplySysfs_eq (hlisting : tree.listing = some listing)
    (hsize : (listing.filter DirEntry.isNode).length ≤ MAX_SYSFS_SIZE) (provider : PowerSupplyProvider)
    (hkept : ∀ node ∈ provider.nodeNames, node ≠ "") :
    (provider.initPowerSupplySysfs tree).2.nodeNames = others (provider.nodeNames ++ nodesOf listing) ∧
      (provider.initPowerSupplySysfs tree).2.nodeNamePathMap =
        visit tree (traversalOrder (provider.nodeNames ++ nodesOf listing)) inserted := by
  have hnodes := PowerSupplyProvider.readNodes_eq listing 0 (by simpa using hsize)
  have hall : ∀ node ∈ provider.nodeNames ++ nodesOf listing, node ≠ "" := by
    intro node hnode
    rcases List.mem_append.mp hnode with hold | hnew
    · exact hkept node hold
    · exact nodesOf_ne listing node hnew
  have hvisited := visit_inserted tree (traversalOrder_ne hall)
  have hsome : ∀ name ∈ sysfsNames, ∃ value,
      visit tree (traversalOrder (provider.nodeNames ++ nodesOf listing)) inserted name = some value :=
    fun name hname => ⟨_, (hvisited name).trans (if_pos hname)⟩
  unfold PowerSupplyProvider.initPowerSupplySysfs
  rw [hlisting]
  dsimp only
  rw [PowerSupplyProvider.traversalNode_eq tree _ rfl, hnodes]
  unfold PowerSupplyProvider.formatSysfsPaths
  dsimp only
  obtain ⟨capacity, hcapacity⟩ := hsome "capacity" (by decide)
  obtain ⟨temp, htemp⟩ := hsome "temp" (by decide)
  obtain ⟨status, hstatus⟩ := hsome "status" (by decide)
  refine ⟨rfl, ?_⟩
  rw [show (listing.filter DirEntry.isNode).map DirEntry.name = nodesOf listing from rfl,
    touch_of_some hcapacity, touch_of_some htemp, touch_of_some hstatus]

end Calls

-- What the calls before leave in the list of names.
def leftOver (nodes : List String) (calls : Nat) : List String :=
  (List.replicate calls (others nodes)).flatten

theorem mem_leftOver {nodes : List String} {calls : Nat} {node : String}
    (hnode : node ∈ leftOver nodes calls) : node ∈ others nodes := by
  obtain ⟨list, hlist, hmem⟩ := List.mem_flatten.mp hnode
  rw [(List.mem_replicate.mp hlist).2] at hmem
  exact hmem

theorem mem_others {nodes : List String} {node : String} (hnode : node ∈ others nodes) :
    node ∈ nodes ∧ node ≠ "battery" ∧ node ≠ "Battery" := by
  simpa [others] using hnode

theorem leftOver_succ (nodes : List String) (calls : Nat) :
    others (leftOver nodes calls ++ nodes) = leftOver nodes (calls + 1) := by
  have hkept : others (leftOver nodes calls) = leftOver nodes calls := by
    refine List.filter_eq_self.mpr fun node hnode => ?_
    simpa using (mem_others (mem_leftOver hnode)).2
  have hsplit : others (leftOver nodes calls ++ nodes) = others (leftOver nodes calls) ++ others nodes :=
    List.filter_append _ _
  rw [hsplit, hkept]
  unfold leftOver
  rw [List.replicate_succ', List.flatten_append, List.flatten_singleton]

-- A name that is listed again is found where it was listed first.
theorem find?_leftOver (p : String → Bool) (nodes : List String) (calls : Nat) :
    (leftOver nodes calls ++ others nodes).find? p = (others nodes).find? p := by
  unfold leftOver
  induction calls with
  | zero => rfl
  | succ calls ih =>
      rw [List.replicate_succ, List.flatten_cons, List.append_assoc, List.find?_append, ih, Option.or_self]

theorem filter_leftOver {nodes : List String} {target : String} (calls : Nat)
    (htarget : target = "battery" ∨ target = "Battery") :
    (leftOver nodes calls ++ nodes).filter (· = target) = nodes.filter (· = target) := by
  have hnone : (leftOver nodes calls).filter (· = target) = [] := by
    refine List.filter_eq_nil_iff.mpr fun node hnode => ?_
    obtain ⟨-, hlower, hupper⟩ := mem_others (mem_leftOver hnode)
    rcases htarget with rfl | rfl
    · simpa using hlower
    · simpa using hupper
  rw [List.filter_append, hnone, List.nil_append]

theorem find?_traversalOrder (p : String → Bool) (nodes : List String) (calls : Nat) :
    (traversalOrder (leftOver nodes calls ++ nodes)).find? p = (traversalOrder nodes).find? p := by
  have hothers : others (leftOver nodes calls ++ nodes) = leftOver nodes calls ++ others nodes := by
    rw [leftOver_succ]
    unfold leftOver
    rw [List.replicate_succ', List.flatten_append, List.flatten_singleton]
  have hfind := find?_leftOver p nodes calls
  unfold traversalOrder
  rw [filter_leftOver calls (.inl rfl), filter_leftOver calls (.inr rfl), hothers]
  simp only [List.find?_append] at hfind ⊢
  rw [hfind]

-- A name stands among its like once it is listed.
theorem find?_filter_eq (p : String → Bool) (nodes : List String) (target : String) :
    (nodes.filter (· = target)).find? p = if target ∈ nodes ∧ p target = true then some target else none := by
  by_cases htarget : target ∈ nodes ∧ p target = true
  · rw [if_pos htarget]
    cases hfind : (nodes.filter (· = target)).find? p with
    | none =>
        have hnot := List.find?_eq_none.mp hfind target (by simp [htarget.1])
        exact absurd htarget.2 hnot
    | some found =>
        have hfound := List.mem_of_find?_eq_some hfind
        rw [of_decide_eq_true (List.mem_filter.mp hfound).2]
  · rw [if_neg htarget, List.find?_eq_none]
    intro node hnode hp
    obtain ⟨hmem, hsame⟩ := List.mem_filter.mp hnode
    rw [of_decide_eq_true hsame] at hmem hp
    exact htarget ⟨hmem, hp⟩

theorem find?_selected (tree : PowerSupplyTree) (nodes : List String) (name : String) :
    ((traversalOrder nodes).find? (tree.contains name)).getD "" = tree.selected nodes name := by
  unfold traversalOrder PowerSupplyTree.selected others
  rw [List.find?_append, List.find?_append, find?_filter_eq, find?_filter_eq]
  by_cases hlower : "battery" ∈ nodes ∧ tree.contains name "battery" = true
  · rw [if_pos hlower, if_pos hlower]
    rfl
  · rw [if_neg hlower, if_neg hlower]
    by_cases hupper : "Battery" ∈ nodes ∧ tree.contains name "Battery" = true
    · rw [if_pos hupper, if_pos hupper]
      rfl
    · rw [if_neg hupper, if_neg hupper]
      rfl

section Repeated

variable {tree : PowerSupplyTree} {listing : List DirEntry}

theorem nodeNames_iterate (hlisting : tree.listing = some listing)
    (hsize : (listing.filter DirEntry.isNode).length ≤ MAX_SYSFS_SIZE) (path : String) (calls : Nat) :
    ((fun provider => (PowerSupplyProvider.initPowerSupplySysfs tree provider).2)^[calls]
      { path := path }).nodeNames = leftOver (nodesOf listing) calls := by
  induction calls with
  | zero => rfl
  | succ calls ih =>
      rw [Function.iterate_succ_apply']
      have hkept : ∀ node ∈ leftOver (nodesOf listing) calls, node ≠ "" :=
        fun node hnode => nodesOf_ne listing node (mem_others (mem_leftOver hnode)).1
      rw [← ih] at hkept
      rw [(initPowerSupplySysfs_eq hlisting hsize _ hkept).1, ih, leftOver_succ]

theorem nodeNamePathMap_iterate (hlisting : tree.listing = some listing)
    (hsize : (listing.filter DirEntry.isNode).length ≤ MAX_SYSFS_SIZE) (path : String) (calls : Nat) :
    ((fun provider => (PowerSupplyProvider.initPowerSupplySysfs tree provider).2)^[calls + 1]
      { path := path }).nodeNamePathMap = visit tree (traversalOrder (nodesOf listing)) inserted := by
  have hnames := nodeNames_iterate hlisting hsize path calls
  have hkept : ∀ node ∈ leftOver (nodesOf listing) calls, node ≠ "" :=
    fun node hnode => nodesOf_ne listing node (mem_others (mem_leftOver hnode)).1
  rw [← hnames] at hkept
  rw [Function.iterate_succ_apply', (initPowerSupplySysfs_eq hlisting hsize _ hkept).2, hnames]
  have hall : ∀ node ∈ leftOver (nodesOf listing) calls ++ nodesOf listing, node ≠ "" := by
    rw [hnames] at hkept
    intro node hnode
    exact (List.mem_append.mp hnode).elim (hkept node) (nodesOf_ne listing node)
  funext name
  rw [visit_inserted tree (traversalOrder_ne hall), find?_traversalOrder,
    visit_inserted tree (traversalOrder_ne (nodesOf_ne listing))]

-- However often it is called, the map selects the nodes by the same priority.
theorem initPowerSupplySysfs_selects (hlisting : tree.listing = some listing)
    (hsize : (listing.filter DirEntry.isNode).length ≤ MAX_SYSFS_SIZE) (path : String) (calls : Nat) :
    let call := fun provider => (PowerSupplyProvider.initPowerSupplySysfs tree provider).2
    (call^[calls + 1] { path := path }).nodeNamePathMap = (call { path := path }).nodeNamePathMap ∧
      ∀ name ∈ sysfsNames, (call^[calls + 1] { path := path }).nodeNamePathMap name =
        some (tree.selected (nodesOf listing) name) := by
  intro call
  have hmap := nodeNamePathMap_iterate hlisting hsize path calls
  refine ⟨hmap.trans (nodeNamePathMap_iterate hlisting hsize path 0).symm, fun name hname => ?_⟩
  rw [hmap, visit_inserted tree (traversalOrder_ne (nodesOf_ne listing)), if_pos hname, find?_selected]

end Repeated

-- A tree with a wireless node first, in which the battery has no temperature.
def phoneListing : List DirEntry :=
  [⟨".", .Directory, by decide⟩, ⟨"wireless", .Link, by decide⟩, ⟨"battery", .Link, by decide⟩]

def phoneTree : PowerSupplyTree :=
  let file name (hname : name ≠ "") : DirEntry := ⟨name, .Other, hname⟩
  { listing := some phoneListing
    folder := fun node =>
      if node = "battery" then some [file "capacity" (by decide), file "status" (by decide)]
      else if node = "wireless" then some [file "status" (by decide), file "temp" (by decide)]
      else none }

theorem initPowerSupplySysfs_selects_phone :
    let call := fun provider => (PowerSupplyProvider.initPowerSupplySysfs phoneTree provider).2
    let map := (call^[3] {}).nodeNamePathMap
    map "capacity" = some "battery" ∧ map "temp" = some "wireless" ∧ map "status" = some "battery" := by
  intro call map
  have hlisting : phoneTree.listing = some phoneListing := rfl
  have hselects := (initPowerSupplySysfs_selects hlisting (by decide) "/sys/class/power_supply" 2).2
  exact ⟨hselects "capacity" (by decide), hselects "temp" (by decide), hselects "status" (by decide)⟩

end BatteryManager.Charger
