import BatteryManager.Library.Separator
import Mathlib.Logic.Function.Basic

namespace BatteryManager.Library

-- What stands at a path. A link to a folder counts as a folder.
inductive FileNode
  | Folder
  | File (bytes : List UInt8)
  deriving DecidableEq

abbrev FileSystem := String → Option FileNode

def joinPath (dir name : String) : String := dir ++ "/" ++ name

theorem toList_joinPath (dir name : String) :
    (joinPath dir name).toList = dir.toList ++ '/' :: name.toList := by
  simp [joinPath]

-- The folder ends at the last slash.
theorem joinPath_inj {dir other name next : String} (hname : '/' ∉ name.toList) (hnext : '/' ∉ next.toList)
    (hpath : joinPath dir name = joinPath other next) : dir = other ∧ name = next := by
  have hsplit := splitLast_append '/' dir.toList name.toList hname
  rw [← toList_joinPath, hpath, toList_joinPath, splitLast_append '/' other.toList next.toList hnext] at hsplit
  obtain ⟨hdir, hfile⟩ := Prod.mk.inj (Option.some.inj hsplit)
  exact ⟨String.toList_injective hdir.symm, String.toList_injective hfile.symm⟩

-- A folder is not below itself.
theorem joinPath_ne {base dir : String} (hlength : base.length ≤ dir.length) (name : String) :
    joinPath dir name ≠ base := by
  intro hsame
  have hone : "/".length = 1 := rfl
  have hlonger := congrArg String.length hsame
  simp only [joinPath, String.length_append] at hlonger
  omega

-- Something that is to stand in a folder.
structure Creation where
  dir : String
  name : String
  node : FileNode

def Creation.path (creation : Creation) : String := joinPath creation.dir creation.name

-- Nothing is created where something stands, and nothing outside of a folder.
def create (allows : String → Bool) (fs : FileSystem) (creation : Creation) : FileSystem :=
  if (fs creation.path).isSome ∨ fs creation.dir ≠ some .Folder ∨ allows creation.path = false then fs
  else Function.update fs creation.path (some creation.node)

def createAll (allows : String → Bool) (fs : FileSystem) (creations : List Creation) : FileSystem :=
  creations.foldl (create allows) fs

variable {allows : String → Bool} {fs : FileSystem}

theorem create_other {creation : Creation} {path : String} (hpath : path ≠ creation.path) :
    create allows fs creation path = fs path := by
  unfold create
  split
  · rfl
  · exact Function.update_of_ne hpath _ _

theorem create_kept {path : String} {node : FileNode} (hnode : fs path = some node) (creation : Creation) :
    create allows fs creation path = some node := by
  by_cases hpath : path = creation.path
  · unfold create
    rw [if_pos (.inl (by rw [← hpath, hnode]; rfl)), hnode]
  · rw [create_other hpath, hnode]

theorem create_path {creation : Creation} (hdir : fs creation.dir = some .Folder)
    (hallows : allows creation.path = true) :
    create allows fs creation creation.path = some ((fs creation.path).getD creation.node) := by
  cases hstands : fs creation.path with
  | some node => exact create_kept hstands creation
  | none =>
      unfold create
      rw [if_neg (by simp [hstands, hdir, hallows]), Function.update_self]
      rfl

theorem createAll_other {creations : List Creation} {path : String}
    (hpath : path ∉ creations.map Creation.path) : createAll allows fs creations path = fs path := by
  unfold createAll
  induction creations generalizing fs with
  | nil => rfl
  | cons creation rest ih =>
      rw [List.map_cons, List.mem_cons, not_or] at hpath
      rw [List.foldl_cons, ih hpath.2, create_other hpath.1]

theorem createAll_kept {path : String} {node : FileNode} (hnode : fs path = some node)
    (creations : List Creation) : createAll allows fs creations path = some node := by
  unfold createAll
  induction creations generalizing fs with
  | nil => exact hnode
  | cons creation rest ih => exact ih (create_kept hnode creation)

theorem createAll_new {creations : List Creation} {path : String} {node : FileNode} (hnew : fs path = none)
    (hnode : createAll allows fs creations path = some node) :
    ∃ creation ∈ creations, creation.path = path := by
  by_contra hnone
  have hother : path ∉ creations.map Creation.path := by simpa using hnone
  rw [createAll_other hother, hnew] at hnode
  cases hnode

-- Of two creations of one path only the first counts. What has stood there stays.
theorem createAll_path {creations : List Creation} {path : String} {creation : Creation}
    (hfirst : creations.find? (fun creation => creation.path = path) = some creation)
    (hdir : fs creation.dir = some .Folder) (hallows : allows path = true) :
    createAll allows fs creations path = some ((fs path).getD creation.node) := by
  induction creations generalizing fs with
  | nil => cases hfirst
  | cons next rest ih =>
      by_cases hpath : next.path = path
      · rw [List.find?_cons_of_pos (by simpa using hpath)] at hfirst
        cases hfirst
        subst hpath
        exact createAll_kept (create_path hdir hallows) rest
      · rw [List.find?_cons_of_neg (by simpa using hpath)] at hfirst
        have hcreated : create allows fs next creation.dir = some .Folder := create_kept hdir next
        have hrest := ih hfirst hcreated
        rw [create_other (Ne.symm hpath)] at hrest
        exact hrest

end BatteryManager.Library
