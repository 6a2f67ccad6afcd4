import BatteryManager.ConfigParser.Theorems

namespace BatteryManager

open Library

-- The keys that are looked up: a few names that have neither a separator nor a
-- blank in them.
structure KeyNames (keys : List String) : Prop where
  depth : MIN_DEPTH ≤ keys.length ∧ keys.length ≤ MAX_DEPTH
  nonempty : ∀ name ∈ keys, name ≠ ""
  noSeparator : ∀ name ∈ keys, '.' ∉ name.toList
  noBlank : ∀ name ∈ keys, ' ' ∉ name.toList

def dottedKey (keys : List String) : String := ".".intercalate keys

-- What the library functions behind `SplitKey` promise.
def SplitsDots (split : SplitStr) : Prop :=
  ∀ keys, KeyNames keys → split (dottedKey keys) = keys

-- `value` answers for a key: it is all that `IsExist` and `GetInt` look at.
def AnswersWith (split : SplitStr) (parsed : ParsedConfig) (key : String) (value : Option CJson) : Prop :=
  (parsed.isExist split key = true ↔ ∃ found, value = some found ∧ found.isNull = false) ∧
    ∀ defVal, parsed.getInt split key defVal = (CJson.number? value).getD defVal

-- The name goes down to nothing when there is only a member of another case.
def stopsWith (ancestor : CJson) (next : String) : Option CJson :=
  if ancestor.hasObjectItem next then none else some ancestor

theorem answersWith_of_getValue {split : SplitStr} {parsed : ParsedConfig} {key : String}
    {value : Option CJson} (hvalue : getValue split parsed.config key = value) :
    AnswersWith split parsed key value := by
  subst hvalue
  constructor
  · unfold ParsedConfig.isExist
    cases getValue split parsed.config key <;> simp
  · intro defVal
    rfl

theorem findConf_object (members : List (String × CJson)) (key : String) :
    findConf (some (.Object members)) key = (CJson.Object members).getObjectItemCaseSensitive key := by
  unfold findConf
  dsimp only
  split
  · rfl
  · rename_i habsent
    exact (CJson.item_of_not_hasObjectItem (Bool.eq_false_iff.mpr habsent)).symm

theorem descend_none (keys : List String) : descend keys none = none := by
  cases keys <;> rfl

theorem descend_scalar (keys : List String) {value : CJson} (hscalar : ∀ members, value ≠ .Object members) :
    descend keys (some value) = some value := by
  cases keys with
  | nil => rfl
  | cons key rest =>
      unfold descend
      split
      · rename_i members hobject
        exact absurd (Option.some.inj hobject) (hscalar members)
      · rfl

theorem descend_item {json child : CJson} {key : String} (rest : List String)
    (hitem : json.getObjectItemCaseSensitive key = some child) :
    descend (key :: rest) (some json) = descend rest (some child) := by
  have hhas := CJson.hasObjectItem_of_item hitem
  cases json with
  | Object members => simp [descend, hhas, hitem]
  | _ => cases hitem

theorem descend_stops {json : CJson} {key : String} (rest : List String)
    (hitem : json.getObjectItemCaseSensitive key = none) :
    descend (key :: rest) (some json) = stopsWith json key := by
  unfold stopsWith
  cases json with
  | Object members =>
      cases hhas : (CJson.Object members).hasObjectItem key with
      | false => simp [descend, hhas]
      | true => simp [descend, hhas, hitem, descend_none]
  | _ => rfl

-- The loop follows the exact path as far as it goes.
theorem descend_path {keys : List String} {json value : CJson} (hpath : CJson.atPath keys json = some value) :
    descend keys (some json) = some value := by
  induction keys generalizing json with
  | nil => exact hpath
  | cons key rest ih =>
      unfold CJson.atPath at hpath
      obtain ⟨child, hitem, hrest⟩ := Option.bind_eq_some_iff.mp hpath
      rw [descend_item rest hitem, ih hrest]

theorem descend_no_path {keys : List String} {json : CJson} (hpath : CJson.atPath keys json = none) :
    ∃ reached next rest ancestor, keys = reached ++ next :: rest ∧
      CJson.atPath reached json = some ancestor ∧ ancestor.getObjectItemCaseSensitive next = none ∧
      descend keys (some json) = stopsWith ancestor next := by
  induction keys generalizing json with
  | nil => cases hpath
  | cons key rest ih =>
      cases hitem : json.getObjectItemCaseSensitive key with
      | none => exact ⟨[], key, rest, json, rfl, rfl, hitem, descend_stops rest hitem⟩
      | some child =>
          have hrest : CJson.atPath rest child = none := by
            simpa [CJson.atPath, hitem] using hpath
          obtain ⟨reached, next, later, ancestor, hkeys, hancestor, hnext, hdescend⟩ := ih hrest
          refine ⟨key :: reached, next, later, ancestor, by rw [hkeys]; rfl, ?_, hnext, ?_⟩
          · simpa [CJson.atPath, hitem] using hancestor
          · rw [descend_item rest hitem, hdescend]

-- The first key is looked up apart from the others. A null there needs no test
-- of its own.
theorem getValue_object {split : SplitStr} (hsplit : SplitsDots split) (members : List (String × CJson))
    {first : String} {rest : List String} (hkeys : KeyNames (first :: rest)) :
    getValue split (some (.Object members)) (dottedKey (first :: rest)) =
      ((CJson.Object members).getObjectItemCaseSensitive first).bind fun value =>
        descend rest (some value) := by
  have hdepth : ¬((first :: rest).length < MIN_DEPTH ∨ (first :: rest).length > MAX_DEPTH) := by
    have hrange := hkeys.depth
    omega
  have hsplitKey : splitKey split (dottedKey (first :: rest)) = some (first :: rest) := by
    unfold splitKey
    rw [hsplit _ hkeys]
    exact if_neg hdepth
  unfold getValue
  rw [hsplitKey]
  dsimp only
  rw [findConf_object]
  cases hitem : (CJson.Object members).getObjectItemCaseSensitive first with
  | none => rfl
  | some value =>
      cases value with
      | Null => exact (descend_scalar rest (by simp)).symm
      | _ => rfl

section Lookup

variable {split : SplitStr} (hsplit : SplitsDots split) (parsed : ParsedConfig)
  {members : List (String × CJson)} (hconfig : parsed.config = some (.Object members))
  {keys : List String} (hkeys : KeyNames keys)

include hsplit hconfig hkeys

theorem answersWith_path {value : CJson} (hpath : CJson.atPath keys (.Object members) = some value) :
    AnswersWith split parsed (dottedKey keys) (some value) := by
  apply answersWith_of_getValue
  cases keys with
  | nil => cases hkeys.depth.1
  | cons first rest =>
      obtain ⟨child, hitem, hrest⟩ := Option.bind_eq_some_iff.mp hpath
      rw [hconfig, getValue_object hsplit members hkeys, hitem]
      exact descend_path hrest

theorem answersWith_no_path (hpath : CJson.atPath keys (.Object members) = none) :
    ∃ reached next rest ancestor, keys = reached ++ next :: rest ∧
      CJson.atPath reached (.Object members) = some ancestor ∧
      ancestor.getObjectItemCaseSensitive next = none ∧
      AnswersWith split parsed (dottedKey keys)
        (if reached = [] then none else stopsWith ancestor next) := by
  cases keys with
  | nil => cases hkeys.depth.1
  | cons first rest =>
      cases hitem : (CJson.Object members).getObjectItemCaseSensitive first with
      | none =>
          refine ⟨[], first, rest, .Object members, rfl, rfl, hitem, ?_⟩
          apply answersWith_of_getValue
          rw [hconfig, getValue_object hsplit members hkeys, hitem]
          rfl
      | some child =>
          have hrest : CJson.atPath rest child = none := by
            simpa [CJson.atPath, hitem] using hpath
          obtain ⟨reached, next, later, ancestor, hlater, hancestor, hnext, hdescend⟩ :=
            descend_no_path hrest
          refine ⟨first :: reached, next, later, ancestor, by rw [hlater]; rfl, ?_, hnext, ?_⟩
          · simpa [CJson.atPath, hitem] using hancestor
          · apply answersWith_of_getValue
            rw [hconfig, getValue_object hsplit members hkeys, hitem]
            exact hdescend

end Lookup

-- The answers are those of the value at the exact path. Where the path ends
-- early, below its first name, they are those of the last value on it, unless
-- that has a member whose name differs in case only.
theorem lookup_answers {split : SplitStr} (hsplit : SplitsDots split) (parsed : ParsedConfig)
    {members : List (String × CJson)} (hconfig : parsed.config = some (.Object members))
    {keys : List String} (hkeys : KeyNames keys) :
    (∀ value, CJson.atPath keys (.Object members) = some value →
      AnswersWith split parsed (dottedKey keys) (some value)) ∧
    (CJson.atPath keys (.Object members) = none →
      ∃ reached next rest ancestor, keys = reached ++ next :: rest ∧
        CJson.atPath reached (.Object members) = some ancestor ∧
        CJson.atPath (reached ++ [next]) (.Object members) = none ∧
        AnswersWith split parsed (dottedKey keys)
          (if reached = [] ∨ ancestor.hasObjectItem next = true then none else some ancestor)) := by
  refine ⟨fun value => answersWith_path hsplit parsed hconfig hkeys, fun hpath => ?_⟩
  obtain ⟨reached, next, rest, ancestor, hsame, hancestor, hnext, hanswers⟩ :=
    answersWith_no_path hsplit parsed hconfig hkeys hpath
  refine ⟨reached, next, rest, ancestor, hsame, hancestor, ?_, ?_⟩
  · rw [CJson.atPath_append, hancestor]
    simpa using hnext
  · unfold stopsWith at hanswers
    by_cases hfirst : reached = []
    · simpa [hfirst] using hanswers
    · simpa [hfirst] using hanswers

theorem dotSplit_splitsDots : SplitsDots dotSplit := by
  intro keys hkeys
  have hnames : ∀ name ∈ keys.map String.toList, '.' ∉ name := by
    intro name hname
    obtain ⟨text, htext, rfl⟩ := List.mem_map.mp hname
    exact hkeys.noSeparator text htext
  have hsome : keys.map String.toList ≠ [] := by
    intro hnil
    have hdepth := hkeys.depth.1
    rw [List.map_eq_nil_iff.mp hnil] at hdepth
    cases hdepth
  have hdot : ".".toList = ['.'] := rfl
  unfold dotSplit dottedKey
  rw [String.toList_intercalate, hdot, List.splitOn_intercalate '.' hnames hsome, List.map_map]
  simp [Function.comp_def]

theorem lookup_answers_soc :
    ({ config := some (.Object [("soc", .Object [("LOW", .Number 5), ("low", .Number 20)])]) } :
      ParsedConfig).getInt dotSplit "soc.low" 100 = 20 := by
  have hkeys : KeyNames ["soc", "low"] := ⟨by decide, by decide, by decide, by decide⟩
  exact ((lookup_answers dotSplit_splitsDots _ rfl hkeys).1 (.Number 20) rfl).2 100

-- A number has no members, and answers for the names below it.
theorem not_lookup_exact :
    ¬∀ (split : SplitStr) (parsed : ParsedConfig) (members : List (String × CJson)) (keys : List String),
      SplitsDots split → parsed.config = some (.Object members) → KeyNames keys →
      AnswersWith split parsed (dottedKey keys) (CJson.atPath keys (.Object members)) := by
  intro hexact
  have hkeys : KeyNames ["soc", "low"] := ⟨by decide, by decide, by decide, by decide⟩
  have hanswers := hexact dotSplit { config := some (.Object [("soc", .Number 5)]) }
    [("soc", .Number 5)] ["soc", "low"] dotSplit_splitsDots rfl hkeys
  have hint := hanswers.2 20
  revert hint
  decide

end BatteryManager
