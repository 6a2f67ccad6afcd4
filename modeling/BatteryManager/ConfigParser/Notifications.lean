import BatteryManager.ConfigParser.Theorems
import Mathlib.Data.List.TakeWhile

namespace BatteryManager

open Library

def isString (json : CJson) (name : String) : Bool :=
  (CJson.string? (json.getObjectItemCaseSensitive name)).isSome

def isObject : CJson → Bool
  | .Object _ => true
  | _ => false

def wellFormedButton (button : CJson) : Bool :=
  isObject button && isString button "name" && isString button "action"

-- The four texts that an entry has to have.
def wellFormedTexts (conf : CJson) : Bool :=
  isString conf "name" && isString conf "icon" && isString conf "title" && isString conf "text"

def twoButtons (test : CJson → CJson → Bool) (conf : CJson) : Bool :=
  match CJson.array? (conf.getObjectItemCaseSensitive "button") with
  | some [first, second] => test first second
  | _ => false

def wellFormed (conf : CJson) : Bool :=
  wellFormedTexts conf &&
    twoButtons (fun first second => wellFormedButton first && wellFormedButton second) conf

-- The texts are there and so are two objects as buttons, but one of them lacks
-- its name or its action.
def lacksButtonText (conf : CJson) : Bool :=
  wellFormedTexts conf &&
    twoButtons (fun first second => isObject first && isObject second &&
      !(wellFormedButton first && wellFormedButton second)) conf

def nameOf (conf : CJson) : Option String := CJson.string? (conf.getObjectItemCaseSensitive "name")

-- A button object describes its name and its action.
structure DescribesButton (button : CJson) (pair : String × String) : Prop where
  name : button.getObjectItemCaseSensitive "name" = some (.Text pair.1)
  action : button.getObjectItemCaseSensitive "action" = some (.Text pair.2)

-- The configuration that an entry describes. The flags are zero without a number,
-- and the two options hold only where the entry says so.
structure DescribesEntry (conf : CJson) (entry : NotificationConf) : Prop where
  name : conf.getObjectItemCaseSensitive "name" = some (.Text entry.name)
  icon : conf.getObjectItemCaseSensitive "icon" = some (.Text entry.icon)
  title : conf.getObjectItemCaseSensitive "title" = some (.Text entry.title)
  text : conf.getObjectItemCaseSensitive "text" = some (.Text entry.text)
  bannerFlags : ∀ flags, conf.getObjectItemCaseSensitive "bannerFlags" = some (.Number flags) →
    entry.bannerFlags = UInt32.ofInt flags
  noBannerFlags : (∀ flags, conf.getObjectItemCaseSensitive "bannerFlags" ≠ some (.Number flags)) →
    entry.bannerFlags = 0
  inProgress : entry.inProgress = true ↔
    conf.getObjectItemCaseSensitive "inProgress" = some (.Boolean true)
  unRemovable : entry.unRemovable = true ↔
    conf.getObjectItemCaseSensitive "unRemovable" = some (.Boolean true)
  buttons : ∃ first second, conf.getObjectItemCaseSensitive "button" = some (.Array [first, second]) ∧
    DescribesButton first entry.firstButton ∧ DescribesButton second entry.secondButton

-- The map has exactly the names of the well-formed entries, and holds for each
-- what the first of them describes.
def HoldsFirst (nConf : List CJson) (map : Table NotificationConf) : Prop :=
  ∀ name, Option.Rel DescribesEntry
    (nConf.find? fun conf => wellFormed conf && nameOf conf == some name) (map name)

-- Malformed entries make no difference.
structure MalformedIgnored (nConf : List CJson) : Prop where
  first : HoldsFirst nConf (saveNotificationConfToMap nConf Table.empty)
  removed : saveNotificationConfToMap nConf Table.empty =
    saveNotificationConfToMap (nConf.filter wellFormed) Table.empty

-- The configuration of an entry that is saved.
def savedConf (conf : CJson) : Option NotificationConf :=
  match notificationEntry conf with
  | .Save entry => some entry
  | _ => none

-- For each name what is saved of the first well-formed entry that has it.
def firstWellFormed (nConf : List CJson) : Table NotificationConf := fun name =>
  (nConf.find? fun conf => wellFormed conf && nameOf conf == some name).bind savedConf

theorem string?_eq_some {json : Option CJson} {text : String} :
    CJson.string? json = some text ↔ json = some (.Text text) := by
  unfold CJson.string?
  split
  · simp
  · rename_i hother
    exact iff_of_false (by simp) (hother text)

theorem array?_eq_some {json : Option CJson} {items : List CJson} :
    CJson.array? json = some items ↔ json = some (.Array items) := by
  unfold CJson.array?
  split
  · simp
  · rename_i hother
    exact iff_of_false (by simp) (hother items)

theorem isString_iff (json : CJson) (name : String) :
    isString json name = true ↔
      ∃ text, CJson.string? (json.getObjectItemCaseSensitive name) = some text :=
  Option.isSome_iff_exists

theorem wellFormedButton_isObject {button : CJson} (hbutton : wellFormedButton button = true) :
    isObject button = true := by
  simp only [wellFormedButton, Bool.and_eq_true] at hbutton
  exact hbutton.1.1

-- What becomes of the two buttons.
theorem notificationButtons_cases (first second : CJson) :
    notificationButtons [first, second] = .error .Continue ∧
        (isObject first && isObject second) = false ∨
      notificationButtons [first, second] = .error .Return ∧
        (isObject first && isObject second) = true ∧
        (wellFormedButton first && wellFormedButton second) = false ∨
      ∃ pairs, notificationButtons [first, second] = .ok pairs ∧
        (wellFormedButton first && wellFormedButton second) = true := by
  cases first with
  | Object firstMembers =>
      cases second with
      | Object secondMembers =>
          right
          unfold notificationButtons
          dsimp only
          split
          · rename_i hfirstName hfirstAction hsecondName hsecondAction
            right
            exact ⟨_, rfl, by simp [wellFormedButton, isObject, isString, hfirstName, hfirstAction,
              hsecondName, hsecondAction]⟩
          · rename_i hlacks
            left
            refine ⟨rfl, rfl, Bool.eq_false_iff.mpr fun hwell => ?_⟩
            simp only [wellFormedButton, isObject, Bool.true_and, Bool.and_eq_true, isString_iff] at hwell
            obtain ⟨⟨⟨firstName, hfirstName⟩, ⟨firstAction, hfirstAction⟩⟩,
              ⟨secondName, hsecondName⟩, ⟨secondAction, hsecondAction⟩⟩ := hwell
            exact hlacks _ _ _ _ hfirstName hfirstAction hsecondName hsecondAction
      | _ => exact .inl ⟨rfl, rfl⟩
  | _ => exact .inl ⟨rfl, rfl⟩

theorem notificationButtons_length {buttons : List CJson}
    (hlength : ∀ first second, buttons ≠ [first, second]) :
    notificationButtons buttons = .error .Continue := by
  unfold notificationButtons
  split
  · exact absurd rfl (hlength _ _)
  · rfl

-- What becomes of an entry, told by its texts and buttons alone.
inductive EntryCase (conf : CJson) : NotificationEntry → Prop
  | Skipped : wellFormed conf = false → lacksButtonText conf = false → EntryCase conf .Continue
  | Ended : wellFormed conf = false → lacksButtonText conf = true → EntryCase conf .Return
  | Saved (entry : NotificationConf) : wellFormed conf = true → lacksButtonText conf = false →
      nameOf conf = some entry.name → EntryCase conf (.Save entry)

theorem notificationEntry_case (conf : CJson) : EntryCase conf (notificationEntry conf) := by
  unfold notificationEntry
  split
  · rename_i name icon title text buttons hname hicon htitle htext hbutton
    have htexts : wellFormedTexts conf = true := by
      simp [wellFormedTexts, isString, hname, hicon, htitle, htext]
    by_cases htwo : ∃ first second, buttons = [first, second]
    · obtain ⟨first, second, rfl⟩ := htwo
      have htest : ∀ test : CJson → CJson → Bool, twoButtons test conf = test first second := by
        intro test
        simp [twoButtons, hbutton]
      rcases notificationButtons_cases first second with
        ⟨hresult, hobjects⟩ | ⟨hresult, hobjects, hlacks⟩ | ⟨pairs, hresult, hwell⟩
      · rw [hresult]
        have hwell : (wellFormedButton first && wellFormedButton second) = false := by
          refine Bool.eq_false_iff.mpr fun hboth => ?_
          rw [Bool.and_eq_true] at hboth
          rw [wellFormedButton_isObject hboth.1, wellFormedButton_isObject hboth.2] at hobjects
          cases hobjects
        exact .Skipped (by simp only [wellFormed, htest, hwell, Bool.and_false])
          (by simp only [lacksButtonText, htest, hobjects, Bool.false_and, Bool.and_false])
      · rw [hresult]
        exact .Ended (by simp only [wellFormed, htest, hlacks, Bool.and_false])
          (by simp only [lacksButtonText, htest, htexts, hobjects, hlacks, Bool.not_false, Bool.and_true])
      · rw [hresult]
        exact .Saved _ (by simp only [wellFormed, htest, htexts, hwell, Bool.and_true])
          (by simp only [lacksButtonText, htest, hwell, Bool.not_true, Bool.and_false]) hname
    · rw [notificationButtons_length fun first second hsame => htwo ⟨first, second, hsame⟩]
      have htest : ∀ test, twoButtons test conf = false := by
        intro test
        unfold twoButtons
        rw [hbutton]
        split
        · rename_i first second hsame
          exact absurd ⟨first, second, Option.some.inj hsame⟩ htwo
        · rfl
      exact .Skipped (by simp only [wellFormed, htest, Bool.and_false])
        (by simp only [lacksButtonText, htest, Bool.and_false])
  · rename_i hmissing
    have hskipped : ∀ test, (wellFormedTexts conf && twoButtons test conf) = false := by
      intro test
      refine Bool.eq_false_iff.mpr fun hboth => ?_
      simp only [wellFormedTexts, Bool.and_eq_true, isString_iff] at hboth
      obtain ⟨⟨⟨⟨⟨name, hname⟩, ⟨icon, hicon⟩⟩, ⟨title, htitle⟩⟩, ⟨text, htext⟩⟩, hbuttons⟩ := hboth
      cases hbutton : CJson.array? (conf.getObjectItemCaseSensitive "button") with
      | none => simp [twoButtons, hbutton] at hbuttons
      | some buttons => exact hmissing name icon title text buttons hname hicon htitle htext hbutton
    exact .Skipped (hskipped _) (hskipped _)

theorem notificationEntry_continue {conf : CJson} (hwell : wellFormed conf = false)
    (hends : lacksButtonText conf = false) : notificationEntry conf = .Continue := by
  have hcase := notificationEntry_case conf
  generalize notificationEntry conf = entry at hcase
  cases hcase with
  | Skipped => rfl
  | Ended _ hlacks =>
      rw [hlacks] at hends
      cases hends
  | Saved _ hsaved =>
      rw [hsaved] at hwell
      cases hwell

theorem notificationEntry_return {conf : CJson} (hends : lacksButtonText conf = true) :
    notificationEntry conf = .Return ∧ wellFormed conf = false := by
  have hcase := notificationEntry_case conf
  generalize notificationEntry conf = entry at hcase
  cases hcase with
  | Ended hwell => exact ⟨rfl, hwell⟩
  | Skipped _ hlacks =>
      rw [hlacks] at hends
      cases hends
  | Saved _ _ hlacks =>
      rw [hlacks] at hends
      cases hends

theorem notificationEntry_save {conf : CJson} (hwell : wellFormed conf = true) :
    ∃ entry, notificationEntry conf = .Save entry ∧ lacksButtonText conf = false ∧
      nameOf conf = some entry.name := by
  have hcase := notificationEntry_case conf
  generalize notificationEntry conf = entry at hcase
  cases hcase with
  | Saved entry _ hlacks hname => exact ⟨entry, rfl, hlacks, hname⟩
  | Skipped hskipped =>
      rw [hskipped] at hwell
      cases hwell
  | Ended hended =>
      rw [hended] at hwell
      cases hwell

theorem notificationButtons_not_save (buttons : List CJson) (entry : NotificationConf) :
    notificationButtons buttons ≠ .error (.Save entry) := by
  unfold notificationButtons
  split
  · split <;> simp
  · simp

theorem notificationButtons_describes {first second : CJson} {pairs : (String × String) × (String × String)}
    (hpairs : notificationButtons [first, second] = .ok pairs) :
    DescribesButton first pairs.1 ∧ DescribesButton second pairs.2 := by
  unfold notificationButtons at hpairs
  split at hpairs
  · rename_i hsame
    split at hpairs
    · rename_i hfirstName hfirstAction hsecondName hsecondAction
      cases hsame
      cases hpairs
      rw [string?_eq_some] at hfirstName hfirstAction hsecondName hsecondAction
      exact ⟨⟨hfirstName, hfirstAction⟩, hsecondName, hsecondAction⟩
    · cases hpairs
  · cases hpairs

theorem numberOr_zero (item : Option CJson) :
    (∀ flags, item = some (.Number flags) →
      ((CJson.number? item).map UInt32.ofInt).getD 0 = UInt32.ofInt flags) ∧
    ((∀ flags, item ≠ some (.Number flags)) → ((CJson.number? item).map UInt32.ofInt).getD 0 = 0) := by
  unfold CJson.number?
  constructor
  · rintro flags rfl
    rfl
  · intro hnone
    split
    · rename_i flags
      exact absurd rfl (hnone flags)
    · rfl

theorem boolOr_false (item : Option CJson) :
    (CJson.bool? item).getD false = true ↔ item = some (.Boolean true) := by
  unfold CJson.bool?
  split
  · simp
  · rename_i hother
    exact iff_of_false (by simp) (hother true)

-- What is saved of an entry is what the entry describes.
theorem notificationEntry_describes {conf : CJson} {entry : NotificationConf}
    (hentry : notificationEntry conf = .Save entry) : DescribesEntry conf entry := by
  unfold notificationEntry at hentry
  split at hentry
  · rename_i name icon title text buttons hname hicon htitle htext hbutton
    rw [string?_eq_some] at hname hicon htitle htext
    split at hentry
    · rename_i other hresult
      subst hentry
      exact absurd hresult (notificationButtons_not_save buttons entry)
    · rename_i firstButton secondButton hpairs
      cases hentry
      have hflags := numberOr_zero (conf.getObjectItemCaseSensitive "bannerFlags")
      refine ⟨hname, hicon, htitle, htext, hflags.1, hflags.2, boolOr_false _, boolOr_false _, ?_⟩
      obtain ⟨first, second, rfl⟩ : ∃ first second, buttons = [first, second] := by
        by_contra hlength
        rw [notificationButtons_length fun first second hsame => hlength ⟨first, second, hsame⟩] at hpairs
        cases hpairs
      refine ⟨first, second, ?_, notificationButtons_describes hpairs⟩
      exact array?_eq_some.mp hbutton
  · cases hentry

theorem DescribesButton.unique {button : CJson} {pair other : String × String}
    (hpair : DescribesButton button pair) (hother : DescribesButton button other) : pair = other := by
  have hname := hpair.name.symm.trans hother.name
  have haction := hpair.action.symm.trans hother.action
  simp only [Option.some.injEq, CJson.Text.injEq] at hname haction
  exact Prod.ext hname haction

-- An entry describes one configuration at most.
theorem DescribesEntry.unique {conf : CJson} {entry other : NotificationConf} (hentry : DescribesEntry conf entry)
    (hother : DescribesEntry conf other) : entry = other := by
  have hname := hentry.name.symm.trans hother.name
  have hicon := hentry.icon.symm.trans hother.icon
  have htitle := hentry.title.symm.trans hother.title
  have htext := hentry.text.symm.trans hother.text
  simp only [Option.some.injEq, CJson.Text.injEq] at hname hicon htitle htext
  have hflags : entry.bannerFlags = other.bannerFlags := by
    by_cases hnumber : ∃ flags, conf.getObjectItemCaseSensitive "bannerFlags" = some (.Number flags)
    · obtain ⟨flags, hnumber⟩ := hnumber
      rw [hentry.bannerFlags flags hnumber, hother.bannerFlags flags hnumber]
    · have hnone := not_exists.mp hnumber
      rw [hentry.noBannerFlags hnone, hother.noBannerFlags hnone]
  have hprogress := Bool.eq_iff_iff.mpr (hentry.inProgress.trans hother.inProgress.symm)
  have hremovable := Bool.eq_iff_iff.mpr (hentry.unRemovable.trans hother.unRemovable.symm)
  obtain ⟨first, second, hbuttons, hfirst, hsecond⟩ := hentry.buttons
  obtain ⟨first', second', hbuttons', hfirst', hsecond'⟩ := hother.buttons
  rw [hbuttons] at hbuttons'
  cases hbuttons'
  have hfirsts := hfirst.unique hfirst'
  have hseconds := hsecond.unique hsecond'
  cases entry
  cases other
  simp_all only

-- What the map has to hold is what is saved of the entries.
theorem holdsFirst_iff (nConf : List CJson) (map : Table NotificationConf) :
    HoldsFirst nConf map ↔ map = firstWellFormed nConf := by
  unfold HoldsFirst
  rw [funext_iff]
  refine forall_congr' fun name => ?_
  rw [firstWellFormed]
  cases hfind : nConf.find? fun conf => wellFormed conf && nameOf conf == some name with
  | none => cases map name <;> simp
  | some conf =>
      have hfound := List.find?_some hfind
      rw [Bool.and_eq_true] at hfound
      obtain ⟨entry, hentry, -⟩ := notificationEntry_save hfound.1
      have hdescribes := notificationEntry_describes hentry
      have hsaved : savedConf conf = some entry := by simp [savedConf, hentry]
      rw [Option.bind_some, hsaved]
      cases map name with
      | none => exact iff_of_false (fun hrel => nomatch hrel) (fun hsome => nomatch hsome)
      | some held =>
          rw [Option.rel_some_some, Option.some.injEq]
          constructor
          · intro hheld
            exact hheld.unique hdescribes
          · rintro rfl
            exact hdescribes

theorem firstWellFormed_append (before after : List CJson) (name : String) :
    firstWellFormed (before ++ after) name =
      ((before.find? fun conf => wellFormed conf && nameOf conf == some name).or
        (after.find? fun conf => wellFormed conf && nameOf conf == some name)).bind savedConf := by
  simp only [firstWellFormed, List.find?_append]

-- The loop reads up to the first entry that ends it.
theorem saveNotificationConfToMap_read (nConf : List CJson) :
    saveNotificationConfToMap nConf Table.empty =
      firstWellFormed (nConf.takeWhile fun conf => !lacksButtonText conf) := by
  induction nConf with
  | nil => rfl
  | cons conf rest ih =>
      funext name
      unfold saveNotificationConfToMap
      cases hends : lacksButtonText conf with
      | true =>
          rw [(notificationEntry_return hends).1, List.takeWhile_cons_of_neg (by simp [hends])]
          rfl
      | false =>
          rw [List.takeWhile_cons_of_pos (by simp [hends])]
          cases hwell : wellFormed conf with
          | false =>
              rw [notificationEntry_continue hwell hends]
              simp only [ih, firstWellFormed]
              rw [List.find?_cons_of_neg (by simp [hwell])]
          | true =>
              obtain ⟨entry, hentry, -, hname⟩ := notificationEntry_save hwell
              rw [hentry]
              dsimp only
              rw [saveNotificationConfToMap_apply, ih]
              unfold firstWellFormed Table.emplace
              by_cases hsame : name = entry.name
              · rw [List.find?_cons_of_pos (by simp [hwell, hname, hsame])]
                simp [hsame, savedConf, hentry]
              · have hother : ¬entry.name = name := fun h => hsame h.symm
                rw [List.find?_cons_of_neg (by simp [hwell, hname, hother])]
                simp [hsame]

theorem firstWellFormed_filter (nConf : List CJson) :
    firstWellFormed (nConf.filter wellFormed) = firstWellFormed nConf := by
  funext name
  have hsame : (fun conf => decide (wellFormed conf = true ∧
      (wellFormed conf && nameOf conf == some name) = true)) =
        fun conf => wellFormed conf && nameOf conf == some name := by
    funext conf
    by_cases hname : nameOf conf = some name <;> cases wellFormed conf <;> simp [hname]
  unfold firstWellFormed
  rw [List.find?_filter, hsame]

theorem saveNotificationConfToMap_filter (nConf : List CJson) :
    saveNotificationConfToMap (nConf.filter wellFormed) Table.empty = firstWellFormed nConf := by
  have hall : (nConf.filter wellFormed).takeWhile (fun conf => !lacksButtonText conf) =
      nConf.filter wellFormed := by
    refine List.takeWhile_eq_self_iff.mpr fun conf hconf => ?_
    obtain ⟨_, _, hends, _⟩ := notificationEntry_save (List.mem_filter.mp hconf).2
    simp [hends]
  rw [saveNotificationConfToMap_read, hall, firstWellFormed_filter]

theorem malformedIgnored_iff_first (nConf : List CJson) :
    MalformedIgnored nConf ↔ saveNotificationConfToMap nConf Table.empty = firstWellFormed nConf := by
  rw [← holdsFirst_iff]
  constructor
  · exact MalformedIgnored.first
  · intro hfirst
    exact ⟨hfirst, by rw [(holdsFirst_iff _ _).mp hfirst, saveNotificationConfToMap_filter]⟩

theorem firstWellFormed_eq_none (nConf : List CJson) (name : String) :
    firstWellFormed nConf name = none ↔
      ∀ conf ∈ nConf, wellFormed conf = true → nameOf conf ≠ some name := by
  unfold firstWellFormed
  cases hfind : nConf.find? fun conf => wellFormed conf && nameOf conf == some name with
  | none =>
      refine iff_of_true rfl fun conf hconf hwell hname => ?_
      have hnot := List.find?_eq_none.mp hfind conf hconf
      simp [hwell, hname] at hnot
  | some found =>
      have hfound := List.find?_some hfind
      rw [Bool.and_eq_true, beq_iff_eq] at hfound
      obtain ⟨entry, hentry, -⟩ := notificationEntry_save hfound.1
      refine iff_of_false (by simp [savedConf, hentry]) fun hall => ?_
      exact hall found (List.mem_of_find?_eq_some hfind) hfound.1 hfound.2

-- Every well-formed entry after one that lacks a text of a button has the name
-- of a well-formed entry before that one.
def LaterNamesTaken (nConf : List CJson) : Prop :=
  ∀ before conf after, nConf = before ++ conf :: after → lacksButtonText conf = true →
    ∀ later ∈ after, wellFormed later = true →
      ∃ earlier ∈ before, wellFormed earlier = true ∧ nameOf earlier = nameOf later

-- What is read is the same for a name unless the name is only found later.
theorem read_eq_iff (nConf : List CJson) :
    firstWellFormed (nConf.takeWhile fun conf => !lacksButtonText conf) = firstWellFormed nConf ↔
      ∀ name, firstWellFormed (nConf.takeWhile fun conf => !lacksButtonText conf) name = none →
        firstWellFormed (nConf.dropWhile fun conf => !lacksButtonText conf) name = none := by
  have hsplit := List.takeWhile_append_dropWhile (p := fun conf => !lacksButtonText conf) (l := nConf)
  generalize nConf.takeWhile (fun conf => !lacksButtonText conf) = taken at hsplit ⊢
  generalize nConf.dropWhile (fun conf => !lacksButtonText conf) = dropped at hsplit ⊢
  subst hsplit
  constructor
  · intro hsame name hnone
    have hall := congrFun hsame name
    rw [hnone] at hall
    rw [firstWellFormed_eq_none]
    intro conf hconf
    exact (firstWellFormed_eq_none _ name).mp hall.symm conf (by simp [hconf])
  · intro hlater
    funext name
    cases hfind : taken.find? fun conf => wellFormed conf && nameOf conf == some name with
    | some found =>
        rw [firstWellFormed_append, hfind]
        simp [firstWellFormed, hfind]
    | none =>
        have hnone : firstWellFormed taken name = none := by simp [firstWellFormed, hfind]
        rw [hnone, firstWellFormed_append, hfind, Option.none_or]
        exact (hlater name hnone).symm

theorem saveNotificationConfToMap_malformed_iff (nConf : List CJson) :
    MalformedIgnored nConf ↔ LaterNamesTaken nConf := by
  rw [malformedIgnored_iff_first, saveNotificationConfToMap_read, read_eq_iff]
  constructor
  · rintro hnames before conf after rfl hends later hlater hwell
    obtain ⟨entry, -, -, hname⟩ := notificationEntry_save hwell
    by_contra hnew
    have hstops : (before ++ conf :: after).takeWhile (fun conf => !lacksButtonText conf) =
        before.takeWhile fun conf => !lacksButtonText conf := by
      rw [List.takeWhile_append]
      split
      · rename_i hall
        rw [List.takeWhile_cons_of_neg (by simp [hends]), List.append_nil]
        exact ((List.takeWhile_prefix _).eq_of_length hall).symm
      · rfl
    have hunread : ∀ earlier ∈ before, wellFormed earlier = true → nameOf earlier ≠ some entry.name := by
      intro earlier hearlier hgood hsame
      exact hnew ⟨earlier, hearlier, hgood, hsame.trans hname.symm⟩
    have htaken : ∀ earlier ∈ (before ++ conf :: after).takeWhile (fun conf => !lacksButtonText conf),
        wellFormed earlier = true → nameOf earlier ≠ some entry.name := by
      intro earlier hearlier
      rw [hstops] at hearlier
      exact hunread earlier ((List.takeWhile_prefix _).subset hearlier)
    have hdropped := (firstWellFormed_eq_none _ _).mp
      (hnames entry.name ((firstWellFormed_eq_none _ _).mpr htaken))
    have hwhole : later ∈ (before ++ conf :: after).takeWhile (fun conf => !lacksButtonText conf) ++
        (before ++ conf :: after).dropWhile (fun conf => !lacksButtonText conf) := by
      rw [List.takeWhile_append_dropWhile]
      simp [hlater]
    rcases List.mem_append.mp hwhole with hin | hin
    · exact htaken later hin hwell hname
    · exact hdropped later hin hwell hname
  · intro hnames name hnone
    rw [firstWellFormed_eq_none] at hnone ⊢
    intro later hlater hwell hname
    have hsplit := List.takeWhile_append_dropWhile (p := fun conf => !lacksButtonText conf) (l := nConf)
    cases hdrop : nConf.dropWhile fun conf => !lacksButtonText conf with
    | nil =>
        rw [hdrop] at hlater
        cases hlater
    | cons conf after =>
        have hends : lacksButtonText conf = true := by
          have hne : nConf.dropWhile (fun conf => !lacksButtonText conf) ≠ [] := by simp [hdrop]
          have hhead := List.head_dropWhile_not (fun conf => !lacksButtonText conf) hne
          simpa [hdrop] using hhead
        rw [hdrop] at hlater hsplit
        rcases List.mem_cons.mp hlater with rfl | hafter
        · rw [(notificationEntry_return hends).2] at hwell
          cases hwell
        · obtain ⟨earlier, hearlier, hgood, hsame⟩ :=
            hnames _ conf after hsplit.symm hends later hafter hwell
          exact hnone earlier hearlier hgood (hsame.trans hname)

-- The button of the first entry has no action, and the second entry is lost.
theorem not_malformedIgnored_button : ¬∀ nConf, MalformedIgnored nConf := by
  let button : CJson := .Object [("name", .Text "ok"), ("action", .Text "close")]
  let entry (name : String) (first : CJson) : CJson := .Object [("name", .Text name),
    ("icon", .Text "i"), ("title", .Text "t"), ("text", .Text "x"), ("button", .Array [first, button])]
  intro hignored
  have hfirst := (hignored [entry "a" (.Object [("name", .Text "ok")]), entry "b" button]).first
  have hfound := congrArg Option.isSome (congrFun ((holdsFirst_iff _ _).mp hfirst) "b")
  revert hfound
  decide

end BatteryManager
