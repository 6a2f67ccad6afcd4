import Mathlib.Data.List.Basic

namespace BatteryManager.Library

-- A document as cJSON holds it. A number is its `valueint`, and an object keeps
-- its members in order, with repeated names.
inductive CJson
  | Null
  | Boolean (value : Bool)
  | Number (valueint : Int)
  | Text (valuestring : String)
  | Array (items : List CJson)
  | Object (members : List (String × CJson))

namespace CJson

-- `cJSON_IsObject` and its siblings on a pointer that may be null, together with
-- what a caller then reads.
def object? : Option CJson → Option (List (String × CJson))
  | some (.Object members) => some members
  | _ => none

def array? : Option CJson → Option (List CJson)
  | some (.Array items) => some items
  | _ => none

def number? : Option CJson → Option Int
  | some (.Number valueint) => some valueint
  | _ => none

def string? : Option CJson → Option String
  | some (.Text valuestring) => some valuestring
  | _ => none

def bool? : Option CJson → Option Bool
  | some (.Boolean value) => some value
  | _ => none

def isNull : CJson → Bool
  | .Null => true
  | _ => false

-- The members are found by name only in an object.
def members : CJson → List (String × CJson)
  | .Object members => members
  | _ => []

def getObjectItemCaseSensitive (json : CJson) (name : String) : Option CJson :=
  (json.members.find? fun member => member.1 = name).map Prod.snd

-- `cJSON_HasObjectItem` ignores the case of ASCII letters.
def hasObjectItem (json : CJson) (name : String) : Bool :=
  json.members.any fun member => member.1.toList.map Char.toLower = name.toList.map Char.toLower

-- The value that a caller looks up in something that may be null.
def item (json : Option CJson) (name : String) : Option CJson :=
  json.bind fun json => json.getObjectItemCaseSensitive name

-- The value that is reached by going down through objects by the exact names.
def atPath : List String → CJson → Option CJson
  | [], json => some json
  | name :: rest, json => (json.getObjectItemCaseSensitive name).bind (atPath rest)

@[simp] theorem atPath_nil (json : CJson) : atPath [] json = some json := rfl

@[simp] theorem atPath_singleton (name : String) (json : CJson) :
    atPath [name] json = json.getObjectItemCaseSensitive name := by
  cases hitem : json.getObjectItemCaseSensitive name <;> simp [atPath, hitem]

theorem atPath_append (reached rest : List String) (json : CJson) :
    atPath (reached ++ rest) json = (atPath reached json).bind (atPath rest) := by
  induction reached generalizing json with
  | nil => rfl
  | cons name tail ih =>
      cases hitem : json.getObjectItemCaseSensitive name with
      | none => simp [atPath, hitem]
      | some child => simp [atPath, hitem, ih]

theorem hasObjectItem_of_item {json value : CJson} {name : String}
    (hitem : json.getObjectItemCaseSensitive name = some value) : json.hasObjectItem name = true := by
  obtain ⟨member, hfind, -⟩ := Option.map_eq_some_iff.mp hitem
  have hname : member.1 = name := by simpa using List.find?_some hfind
  refine List.any_eq_true.mpr ⟨member, List.mem_of_find?_eq_some hfind, ?_⟩
  simp [hname]

theorem item_of_not_hasObjectItem {json : CJson} {name : String}
    (habsent : json.hasObjectItem name = false) : json.getObjectItemCaseSensitive name = none := by
  cases hitem : json.getObjectItemCaseSensitive name with
  | none => rfl
  | some value => rw [hasObjectItem_of_item hitem] at habsent; cases habsent

end CJson

-- A map without order, as far as lookups see it.
abbrev Table (α : Type*) := String → Option α

variable {α : Type*}

namespace Table

def empty : Table α := fun _ => none

-- `emplace` keeps an older entry.
def emplace (table : Table α) (name : String) (value : α) : Table α :=
  fun key => if key = name then (table name).or (some value) else table key

def erase (table : Table α) (name : String) : Table α := fun key => if key = name then none else table key

-- `operator[]` with an assignment replaces an older entry.
def insert (table : Table α) (name : String) (value : α) : Table α :=
  fun key => if key = name then some value else table key

@[simp] theorem empty_apply (key : String) : (empty : Table α) key = none := rfl

theorem insert_apply (table : Table α) (name : String) (value : α) (key : String) :
    table.insert name value key = if key = name then some value else table key := rfl

theorem erase_apply (table : Table α) (name key : String) :
    table.erase name key = if key = name then none else table key := rfl

theorem emplace_new {table : Table α} {name : String} (hnew : table name = none) (value : α) :
    table.emplace name value = table.insert name value := by
  funext key
  rw [emplace, hnew, Option.none_or, insert_apply]

theorem emplace_kept {table : Table α} {name : String} {kept : α} (hkept : table name = some kept)
    (value : α) : table.emplace name value = table := by
  funext key
  unfold emplace
  split_ifs with hkey
  · rw [hkey, hkept, Option.some_or]
  · rfl

-- Adding to a table is adding to an empty one, with the table's own entries first.
theorem emplace_or (table added : Table α) (name : String) (value : α) (key : String) :
    ((table.emplace name value) key).or (added key) =
      (table key).or (((empty : Table α).emplace name value key).or (added key)) := by
  unfold emplace
  by_cases hkey : key = name
  · simp only [hkey, if_true, empty_apply, Option.none_or, Option.some_or]
    cases table name <;> rfl
  · simp [hkey]

end Table

end BatteryManager.Library
