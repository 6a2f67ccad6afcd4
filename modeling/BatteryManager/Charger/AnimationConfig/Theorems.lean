import BatteryManager.Charger.AnimationConfig

namespace BatteryManager.Charger

open Library

section Parser

-- The number of images that one component gives.
def imageCount (component : CJson) : Option Int :=
  if componentType component = some ANIMATION_COM_IMAGEVIEW then
    CJson.number? (component.getObjectItemCaseSensitive "imgCnt")
  else none

theorem parseAnimationComponent_imgCnt (info : ImageComponentInfo × LabelComponentInfo)
    (component : CJson) :
    (parseAnimationComponent info component).1.imgCnt =
      ((imageCount component).map UInt32.ofInt).getD info.1.imgCnt := by
  unfold parseAnimationComponent imageCount
  cases htype : componentType component with
  | none => simp
  | some type =>
      by_cases himage : type = ANIMATION_COM_IMAGEVIEW
      · simp [himage, parseAnimationImage, readNumber]
      · by_cases hlabel : type = ANIMATION_COM_LABEL
        · simp [hlabel, show ANIMATION_COM_LABEL ≠ ANIMATION_COM_IMAGEVIEW by decide]
        · simp [himage, hlabel]

-- A later component overwrites what it gives.
theorem foldl_imgCnt (info : ImageComponentInfo × LabelComponentInfo) (components : List CJson) :
    (components.foldl parseAnimationComponent info).1.imgCnt =
      ((latest imageCount components).map UInt32.ofInt).getD info.1.imgCnt := by
  induction components using List.reverseRecOn with
  | nil => rfl
  | append_singleton rest component ih =>
      rw [List.foldl_append, List.foldl_cons, List.foldl_nil, parseAnimationComponent_imgCnt, ih,
        latest_concat]
      cases imageCount component <;> rfl

-- What the components of the animation tell.
def animationImageCount (json : CJson) : Option Int :=
  latest imageCount (animationComponents (json.getObjectItemCaseSensitive CHARGER_ANIMATION_NAME))

-- A document is accepted for being one, and the prompts do not touch the image.
theorem parseConfig_imgCnt {file : ConfigFile} {config : AnimationConfig}
    (hparsed : ({} : AnimationConfig).parseConfig file = (true, config)) :
    ∃ json, file = .Document json ∧
      config.animationInfo.1.imgCnt = ((animationImageCount json).map UInt32.ofInt).getD 0 := by
  unfold AnimationConfig.parseConfig at hparsed
  split at hparsed
  · cases hparsed
  · cases hparsed
  · rename_i json
    split at hparsed
    · cases hparsed
    · cases hparsed
      exact ⟨json, rfl, foldl_imgCnt _ _⟩

theorem uint32OfInt_eq_zero_iff (value : Int) : UInt32.ofInt value = 0 ↔ value % 4294967296 = 0 := by
  have hvalue : (UInt32.ofInt value).toNat = (value % 4294967296).toNat := by
    unfold UInt32.ofInt
    rw [UInt32.toNat_ofNat']
    omega
  rw [← UInt32.toNat_inj, hvalue, UInt32.toNat_zero]
  omega

end Parser

section Animator

namespace ChargerAnimatorCallback

-- The calls take no input.
def animate (callback : ChargerAnimatorCallback) (_ : Unit) :
    Option (ChargerAnimatorCallback × List AnimatorEffect) :=
  callback.showNextImage

end ChargerAnimatorCallback

namespace ImageComponentInfo

variable {info : ImageComponentInfo}

-- What a call does with the image of a number.
def frame (info : ImageComponentInfo) (number : UInt32) : List AnimatorEffect :=
  [.SetSrc (info.imagePath number), .SetResizeModeFill,
    .UsSleep (info.updInterval * MICROSECONDS_PER_MILLISECOND)]

-- Any number of calls goes through, and they show the images in turn.
def ShowsInTurn (info : ImageComponentInfo) : Prop :=
  ∀ calls, ∃ callback log,
    exec ChargerAnimatorCallback.animate { info := info } (List.replicate calls ()) =
        some (callback, log) ∧
      callback.currId < info.imgCnt ∧
      log = (List.range calls).flatMap fun i => info.frame (UInt32.ofNat (i % info.imgCnt.toNat))

-- The number of an image fits in 32 bits.
theorem toNat_number (hcnt : info.imgCnt ≠ 0) (calls : Nat) :
    calls % info.imgCnt.toNat < info.imgCnt.toNat ∧
      (UInt32.ofNat (calls % info.imgCnt.toNat)).toNat = calls % info.imgCnt.toNat := by
  have hne : info.imgCnt.toNat ≠ 0 := fun hzero => hcnt (UInt32.toNat_inj.mp hzero)
  have hnumber : calls % info.imgCnt.toNat < info.imgCnt.toNat := Nat.mod_lt _ (Nat.pos_of_ne_zero hne)
  exact ⟨hnumber, UInt32.toNat_ofNat_of_lt' (Nat.lt_trans hnumber info.imgCnt.toNat_lt)⟩

-- The sum does not overflow, for it is at most the number of images.
theorem next_number (hcnt : info.imgCnt ≠ 0) (calls : Nat) :
    (UInt32.ofNat (calls % info.imgCnt.toNat) + 1) % info.imgCnt =
      UInt32.ofNat ((calls + 1) % info.imgCnt.toNat) := by
  obtain ⟨hcurrent, hnumber⟩ := toNat_number hcnt calls
  obtain ⟨-, hnext⟩ := toNat_number hcnt (calls + 1)
  have hsize : info.imgCnt.toNat < 4294967296 := info.imgCnt.toNat_lt
  have hsum : (UInt32.ofNat (calls % info.imgCnt.toNat) + 1).toNat = calls % info.imgCnt.toNat + 1 := by
    rw [UInt32.toNat_add, hnumber, UInt32.toNat_one]
    omega
  rw [← UInt32.toNat_inj, UInt32.toNat_mod, hsum, hnext, Nat.mod_add_mod]

theorem animate_run (hcnt : info.imgCnt ≠ 0) (calls : Nat) :
    ∃ path, exec ChargerAnimatorCallback.animate { info := info } (List.replicate calls ()) =
      some ({ currPath := path, currId := UInt32.ofNat (calls % info.imgCnt.toNat), info := info },
        (List.range calls).flatMap fun i => info.frame (UInt32.ofNat (i % info.imgCnt.toNat))) := by
  induction calls with
  | zero => exact ⟨"", by rw [Nat.zero_mod]; rfl⟩
  | succ calls ih =>
      obtain ⟨path, hrun⟩ := ih
      refine ⟨info.imagePath (UInt32.ofNat (calls % info.imgCnt.toNat)), ?_⟩
      rw [List.replicate_succ', exec_concat, hrun, Option.bind_some, ChargerAnimatorCallback.animate,
        ChargerAnimatorCallback.showNextImage, if_neg hcnt, Option.map_some, next_number hcnt,
        List.range_succ, List.flatMap_append, List.flatMap_singleton]
      rfl

theorem showsInTurn_iff : info.ShowsInTurn ↔ info.imgCnt ≠ 0 := by
  constructor
  · intro hshows hzero
    obtain ⟨callback, log, hrun, -⟩ := hshows 1
    have hdivides : exec ChargerAnimatorCallback.animate { info := info } (List.replicate 1 ()) = none := by
      simp [exec, ChargerAnimatorCallback.animate, ChargerAnimatorCallback.showNextImage, hzero]
    cases hdivides.symm.trans hrun
  · intro hcnt calls
    obtain ⟨path, hrun⟩ := animate_run hcnt calls
    refine ⟨_, _, hrun, ?_, rfl⟩
    obtain ⟨hcurrent, hnumber⟩ := toNat_number hcnt calls
    rw [UInt32.lt_iff_toNat_lt, hnumber]
    exact hcurrent

end ImageComponentInfo

end Animator

-- For every file that is accepted.
theorem parseConfig_showsInTurn_iff (file : ConfigFile) (config : AnimationConfig)
    (hparsed : ({} : AnimationConfig).parseConfig file = (true, config)) :
    config.animationInfo.1.ShowsInTurn ↔
      ∃ json count, file = .Document json ∧ animationImageCount json = some count ∧
        count % 4294967296 ≠ 0 := by
  obtain ⟨json, rfl, hcnt⟩ := parseConfig_imgCnt hparsed
  rw [ImageComponentInfo.showsInTurn_iff, hcnt]
  cases hcount : animationImageCount json with
  | none =>
      constructor
      · intro hne
        exact absurd rfl hne
      · rintro ⟨other, count, hjson, hother, -⟩
        cases hjson
        cases hcount.symm.trans hother
  | some count =>
      rw [Option.map_some, Option.getD_some, ne_eq, uint32OfInt_eq_zero_iff]
      constructor
      · intro hne
        exact ⟨json, count, rfl, hcount, hne⟩
      · rintro ⟨other, value, hjson, hother, hne⟩
        cases hjson
        cases hcount.symm.trans hother
        exact hne

-- An animation of three images.
def threeImages : CJson :=
  .Object [(CHARGER_ANIMATION_NAME, .Object [(ANIMATION_COM,
    .Array [.Object [("type", .Text ANIMATION_COM_IMAGEVIEW), ("imgCnt", .Number 3)]])])]

theorem parseConfig_showsInTurn_iff_threeImages :
    let config := (({} : AnimationConfig).parseConfig (.Document threeImages)).2
    config.animationInfo.1.ShowsInTurn ↔
      ∃ json count, ConfigFile.Document threeImages = .Document json ∧
        animationImageCount json = some count ∧ count % 4294967296 ≠ 0 :=
  parseConfig_showsInTurn_iff (.Document threeImages) _ rfl

-- A document with only a prompt is accepted, and its animation divides by zero.
theorem parseConfig_not_showsInTurn :
    let file := ConfigFile.Document (.Object [(LACKPOWER_CHARGING_NAME, .Object [])])
    (({} : AnimationConfig).parseConfig file).1 = true ∧
      ¬(({} : AnimationConfig).parseConfig file).2.animationInfo.1.ShowsInTurn := by
  refine ⟨rfl, ?_⟩
  intro hshows
  exact ImageComponentInfo.showsInTurn_iff.mp hshows rfl

end BatteryManager.Charger
