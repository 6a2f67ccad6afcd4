import BatteryManager.Startup.Race

namespace BatteryManager

open Library

theorem raceInvariant_start (config : BatteryConfig) (env : RaceEnv) :
    RaceInvariant config env [] { notify := .create config } [] where
  arrived := by simp
  known := by simp [BatteryNotify.create]
  ready := by simp
  done := by simp
  notify := .inl (fresh_create config)
  hdi := ⟨rfl, by simp⟩
  ces := ⟨rfl, by simp⟩
  quiet := fun _ _ => rfl

section Keep

variable {config : BatteryConfig} {env : RaceEnv} {history : List Access} {race next : Race}
  {log out : List Effect} {access : Access}

-- A step of the other thread.
theorem HdiPhase.keep {pc : HdiPc} (hphase : HdiPhase config env history race log pc)
    (haccess : access ≠ .HdiCheckService) (hinfo : next.batteryInfo = race.batteryInfo)
    (hexists : race.serviceExists = true → next.serviceExists = true) :
    HdiPhase config env (history ++ [access]) next (log ++ out) pc := by
  have hcheck : .HdiCheckService ∉ history → .HdiCheckService ∉ history ++ [access] := by
    intro hm
    simp [hm, Ne.symm haccess]
  have hprecedes : Precedes .ServiceArrives .HdiCheckService (history ++ [access]) ↔
      Precedes .ServiceArrives .HdiCheckService history := by
    simp [precedes_concat, haccess]
  cases pc with
  | Register | Write | CheckService => exact ⟨hinfo ▸ hphase.1, hcheck hphase.2⟩
  | Publish => exact ⟨hinfo ▸ hphase.1, hexists hphase.2.1, hprecedes.mpr hphase.2.2⟩
  | StoreReady | Done =>
      refine ⟨hinfo ▸ hphase.1, fun h => ?_⟩
      exact (hphase.2 (hprecedes.mp h)).mono (List.subset_append_left _ _)

theorem CesPhase.keep {pc : CesPc} (hphase : CesPhase config env history race log pc)
    (haccess : access ≠ .CesTestHdiReady) (hready : next.isCommonEventReady = race.isCommonEventReady)
    (hhdi : race.isBatteryHdiReady = true → next.isBatteryHdiReady = true)
    (hexists : race.serviceExists = true → next.serviceExists = true) :
    CesPhase config env (history ++ [access]) next (log ++ out) pc := by
  have htest : .CesTestHdiReady ∉ history → .CesTestHdiReady ∉ history ++ [access] := by
    intro hm
    simp [hm, Ne.symm haccess]
  have hprecedes : Precedes .HdiStoreReady .CesTestHdiReady (history ++ [access]) ↔
      Precedes .HdiStoreReady .CesTestHdiReady history := by
    simp [precedes_concat, haccess]
  cases pc with
  | TestCommonEventReady => exact ⟨hready ▸ hphase.1, htest hphase.2⟩
  | TestHdiReady => exact ⟨hexists hphase.1, htest hphase.2⟩
  | Copy => exact ⟨hexists hphase.1, hhdi hphase.2.1, hprecedes.mpr hphase.2.2⟩
  | CheckService | Publish => exact ⟨hphase.1, hexists hphase.2.1, hprecedes.mpr hphase.2.2⟩
  | StoreReady | Done =>
      intro h
      exact (hphase (hprecedes.mp h)).mono (List.subset_append_left _ _)

theorem hdiPhase_fill {writes : List (BatteryInfo → BatteryInfo)}
    (hinfo : writes.foldl (fun info write => write info) race.batteryInfo = env.reader.fillInfo {})
    (hcheck : .HdiCheckService ∉ history) :
    HdiPhase config env history race log (.fill writes) := by
  cases writes with
  | nil => exact ⟨hinfo, hcheck⟩
  | cons => exact ⟨hinfo, hcheck⟩

namespace RaceInvariant

theorem known_eq (hinv : RaceInvariant config env history race log) :
    race.known = race.serviceExists := by
  have hknown := hinv.known
  unfold Race.known
  cases hinit : race.notify.commonEventInitSuccess
  · rfl
  · simp [hknown hinit]

-- Only the last access of the START task raises the flag.
theorem not_ready (hinv : RaceInvariant config env history race log) {pc : HdiPc}
    (hpc : race.hdi = pc) (hrunning : pc ≠ .Done) : race.isBatteryHdiReady ≠ true :=
  fun hready => hrunning (hpc ▸ hinv.done hready)

theorem quiet_keep (hinv : RaceInvariant config env history race log) (access : Access)
    (hservice : ¬Precedes .ServiceArrives .HdiCheckService (history ++ [access]))
    (hready : ¬Precedes .HdiStoreReady .CesTestHdiReady (history ++ [access])) :
    log ++ [] = [] := by
  rw [precedes_concat, not_or] at hservice hready
  rw [hinv.quiet hservice.1 hready.1, List.append_nil]

theorem notify_keep (hinv : RaceInvariant config env history race log) (out : List Effect) :
    Fresh (config.getInt "soc.low" 20) race.notify ∨ RaceAnnounced config env (log ++ out) :=
  hinv.notify.imp_right fun hannounced => hannounced.mono (List.subset_append_left _ _)

-- The initial information is published while the service is there, either with
-- the uevent it was read with or with a cleared one.
theorem publish_announced (hinv : RaceInvariant config env history race log)
    (hexists : race.serviceExists = true) (level : BatteryCapacityLevel) (info : BatteryInfo)
    (hinfo : info = { env.reader.fillInfo {} with uevent := info.uevent })
    (hordinary : OrdinaryUevent info) :
    RaceAnnounced config env
      (log ++ (publishKnown (race.publishEnv level) race.notify info).effects) := by
  rcases hinv.notify with hfresh | hannounced
  · have hpublished := announced_of_fresh hfresh (race.publishEnv level) (fun _ => hexists) info
    rw [← publishKnown_ordinary hordinary] at hpublished
    generalize (publishKnown (race.publishEnv level) race.notify info).effects = out at hpublished
    rw [hinfo] at hpublished
    exact hpublished.of_uevent.mono (List.subset_append_right _ _)
  · exact hannounced.mono (List.subset_append_left _ _)

end RaceInvariant

end Keep

section Step

variable {config : BatteryConfig} {env : RaceEnv} {history : List Access} {race : Race}
  {log : List Effect}

theorem raceInvariant_serviceArrives (hinv : RaceInvariant config env history race log) :
    RaceInvariant config env (history ++ [.ServiceArrives]) { race with serviceExists := true }
      (log ++ []) where
  arrived := by simp
  known := fun _ => rfl
  ready := by simpa using hinv.ready
  done := hinv.done
  notify := hinv.notify_keep []
  hdi := hinv.hdi.keep (by decide) rfl (fun _ => rfl)
  ces := hinv.ces.keep (by decide) rfl id (fun _ => rfl)
  quiet := hinv.quiet_keep _

theorem raceInvariant_hdiRegister (hinv : RaceInvariant config env history race log)
    (hpc : race.hdi = .Register) :
    RaceInvariant config env (history ++ [.HdiRegister])
      { race with hdi := .fill env.reader.initWrites } (log ++ []) where
  arrived := by simpa using hinv.arrived
  known := hinv.known
  ready := by simpa using hinv.ready
  done := fun hready => absurd hready (hinv.not_ready hpc nofun)
  notify := hinv.notify_keep []
  hdi := by
    obtain ⟨hinfo, hcheck⟩ : HdiPhase config env history race log .Register := hpc ▸ hinv.hdi
    show HdiPhase config env _ _ _ (.fill env.reader.initWrites)
    apply hdiPhase_fill
    · rw [hinfo]
      rfl
    · simpa using hcheck
  ces := hinv.ces.keep (by decide) rfl id id
  quiet := hinv.quiet_keep _

theorem raceInvariant_hdiWrite (hinv : RaceInvariant config env history race log)
    {write : BatteryInfo → BatteryInfo} {rest : List (BatteryInfo → BatteryInfo)}
    (hpc : race.hdi = .Write write rest) :
    RaceInvariant config env (history ++ [.HdiWrite])
      { race with batteryInfo := write race.batteryInfo, hdi := .fill rest } (log ++ []) where
  arrived := by simpa using hinv.arrived
  known := hinv.known
  ready := by simpa using hinv.ready
  done := fun hready => absurd hready (hinv.not_ready hpc nofun)
  notify := hinv.notify_keep []
  hdi := by
    obtain ⟨hinfo, hcheck⟩ : HdiPhase config env history race log (.Write write rest) := hpc ▸ hinv.hdi
    exact hdiPhase_fill hinfo (by simpa using hcheck)
  ces := hinv.ces.keep (by decide) rfl id id
  quiet := hinv.quiet_keep _

theorem raceInvariant_hdiFound (hinv : RaceInvariant config env history race log)
    (hpc : race.hdi = .CheckService) (hexists : race.serviceExists = true) :
    RaceInvariant config env (history ++ [.HdiCheckService])
      { race with notify := race.notify.known, hdi := .Publish } (log ++ []) where
  arrived := by simpa using hinv.arrived
  known := fun _ => hexists
  ready := by simpa using hinv.ready
  done := fun hready => absurd hready (hinv.not_ready hpc nofun)
  notify := (hinv.notify_keep []).imp_left Fresh.known
  hdi := by
    obtain ⟨hinfo, -⟩ : HdiPhase config env history race log .CheckService := hpc ▸ hinv.hdi
    exact ⟨hinfo, hexists, (precedes_concat _ _ _ _).mpr (.inr ⟨rfl, hinv.arrived.mp hexists⟩)⟩
  ces := hinv.ces.keep (by decide) rfl id id
  quiet := hinv.quiet_keep _

-- The START task gives up, and will not look for the service again.
theorem raceInvariant_hdiMissed (hinv : RaceInvariant config env history race log)
    (hpc : race.hdi = .CheckService) (hexists : race.serviceExists = false) :
    RaceInvariant config env (history ++ [.HdiCheckService]) { race with hdi := .StoreReady }
      (log ++ []) where
  arrived := by simpa using hinv.arrived
  known := hinv.known
  ready := by simpa using hinv.ready
  done := fun hready => absurd hready (hinv.not_ready hpc nofun)
  notify := hinv.notify_keep []
  hdi := by
    obtain ⟨hinfo, hcheck⟩ : HdiPhase config env history race log .CheckService := hpc ▸ hinv.hdi
    refine ⟨hinfo, fun hprecedes => ?_⟩
    rcases (precedes_concat _ _ _ _).mp hprecedes with hprecedes | ⟨-, harrived⟩
    · exact absurd hprecedes.second_mem hcheck
    · rw [hinv.arrived.mpr harrived] at hexists
      cases hexists
  ces := hinv.ces.keep (by decide) rfl id id
  quiet := hinv.quiet_keep _

theorem raceInvariant_hdiPublish (hinv : RaceInvariant config env history race log)
    (hpc : race.hdi = .Publish) :
    let published := publishKnown (race.publishEnv env.hdiLevel) race.notify race.batteryInfo
    RaceInvariant config env (history ++ [.HdiPublish])
      { race with notify := published.notify, batteryInfo := published.info, hdi := .StoreReady }
      (log ++ published.effects) := by
  obtain ⟨hinfo, hexists, hprecedes⟩ : HdiPhase config env history race log .Publish :=
    hpc ▸ hinv.hdi
  have hordinary : OrdinaryUevent race.batteryInfo := by
    rw [hinfo]
    exact .inr (.inr rfl)
  have hannounced := hinv.publish_announced hexists env.hdiLevel race.batteryInfo
    (by rw [hinfo]) hordinary
  have hsame : (publishKnown (race.publishEnv env.hdiLevel) race.notify race.batteryInfo).info =
      race.batteryInfo := by
    rw [publishKnown_ordinary hordinary, publishOrdinary_info]
  exact {
    arrived := by simpa using hinv.arrived
    known := fun _ => hexists
    ready := by simpa using hinv.ready
    done := fun hready => absurd hready (hinv.not_ready hpc nofun)
    notify := .inr hannounced
    hdi := ⟨hsame.trans hinfo, fun _ => hannounced⟩
    ces := hinv.ces.keep (by decide) rfl id id
    quiet := fun hservice _ => absurd ((precedes_concat _ _ _ _).mpr (.inl hprecedes)) hservice }

theorem raceInvariant_hdiStoreReady (hinv : RaceInvariant config env history race log)
    (hpc : race.hdi = .StoreReady) :
    RaceInvariant config env (history ++ [.HdiStoreReady])
      { race with isBatteryHdiReady := true, hdi := .Done } (log ++ []) where
  arrived := by simpa using hinv.arrived
  known := hinv.known
  ready := by simp
  done := fun _ => rfl
  notify := hinv.notify_keep []
  hdi := by
    have hphase : HdiPhase config env history race log .StoreReady := hpc ▸ hinv.hdi
    exact hphase.keep (by decide) rfl id
  ces := hinv.ces.keep (by decide) rfl (fun _ => rfl) id
  quiet := hinv.quiet_keep _

-- A step of the callback that publishes nothing is known by its phase.
theorem raceInvariant_ces (hinv : RaceInvariant config env history race log) (access : Access)
    (commonEventReady : Bool) (pc : CesPc) (harrives : access ≠ .ServiceArrives)
    (hstores : access ≠ .HdiStoreReady) (hchecks : access ≠ .HdiCheckService)
    (hces : CesPhase config env (history ++ [access])
      { race with isCommonEventReady := commonEventReady, ces := pc } (log ++ []) pc) :
    RaceInvariant config env (history ++ [access])
      { race with isCommonEventReady := commonEventReady, ces := pc } (log ++ []) where
  arrived := by simpa [Ne.symm harrives] using hinv.arrived
  known := hinv.known
  ready := by simpa [Ne.symm hstores] using hinv.ready
  done := hinv.done
  notify := hinv.notify_keep []
  hdi := hinv.hdi.keep hchecks rfl id
  ces := hces
  quiet := hinv.quiet_keep _

theorem raceInvariant_cesTestCommonEventReady (hinv : RaceInvariant config env history race log)
    (hpc : race.ces = .TestCommonEventReady) (hexists : race.serviceExists = true) :
    RaceInvariant config env (history ++ [.CesTestCommonEventReady])
      { race with ces := if race.isCommonEventReady then .Done else .TestHdiReady } (log ++ []) := by
  obtain ⟨hready, htest⟩ : CesPhase config env history race log .TestCommonEventReady :=
    hpc ▸ hinv.ces
  rw [if_neg (by simp [hready])]
  exact raceInvariant_ces hinv .CesTestCommonEventReady race.isCommonEventReady .TestHdiReady
    nofun nofun nofun ⟨hexists, by simpa using htest⟩

theorem raceInvariant_cesReady (hinv : RaceInvariant config env history race log)
    (hpc : race.ces = .TestHdiReady) (hready : race.isBatteryHdiReady = true) :
    RaceInvariant config env (history ++ [.CesTestHdiReady]) { race with ces := .Copy }
      (log ++ []) := by
  obtain ⟨hexists, -⟩ : CesPhase config env history race log .TestHdiReady := hpc ▸ hinv.ces
  exact raceInvariant_ces hinv .CesTestHdiReady race.isCommonEventReady .Copy nofun nofun nofun
    ⟨hexists, hready, (precedes_concat _ _ _ _).mpr (.inr ⟨rfl, hinv.ready.mp hready⟩)⟩

-- The callback gives up as well, and leaves the publication to the START task.
theorem raceInvariant_cesMissed (hinv : RaceInvariant config env history race log)
    (hpc : race.ces = .TestHdiReady) (hready : race.isBatteryHdiReady = false) :
    RaceInvariant config env (history ++ [.CesTestHdiReady]) { race with ces := .Done }
      (log ++ []) := by
  obtain ⟨-, htest⟩ : CesPhase config env history race log .TestHdiReady := hpc ▸ hinv.ces
  refine raceInvariant_ces hinv .CesTestHdiReady race.isCommonEventReady .Done nofun nofun nofun ?_
  intro hprecedes
  rcases (precedes_concat _ _ _ _).mp hprecedes with hprecedes | ⟨-, hstored⟩
  · exact absurd hprecedes.second_mem htest
  · rw [hinv.ready.mpr hstored] at hready
    cases hready

-- Once the flag is up the START task writes no more.
theorem raceInvariant_cesCopy (hinv : RaceInvariant config env history race log)
    (hpc : race.ces = .Copy) :
    RaceInvariant config env (history ++ [.CesCopy])
      { race with ces := .CheckService { race.batteryInfo with uevent := "" } } (log ++ []) := by
  obtain ⟨hexists, hready, hprecedes⟩ : CesPhase config env history race log .Copy :=
    hpc ▸ hinv.ces
  obtain ⟨hinfo, -⟩ : HdiPhase config env history race log .Done := hinv.done hready ▸ hinv.hdi
  exact raceInvariant_ces hinv .CesCopy race.isCommonEventReady (.CheckService _) nofun nofun nofun
    ⟨by rw [hinfo], hexists, (precedes_concat _ _ _ _).mpr (.inl hprecedes)⟩

theorem raceInvariant_cesFound (hinv : RaceInvariant config env history race log)
    {info : BatteryInfo} (hpc : race.ces = .CheckService info) :
    RaceInvariant config env (history ++ [.CesCheckService])
      { race with notify := race.notify.known, ces := .Publish info } (log ++ []) := by
  obtain ⟨hinfo, hexists, hprecedes⟩ : CesPhase config env history race log (.CheckService info) :=
    hpc ▸ hinv.ces
  exact {
    arrived := by simpa using hinv.arrived
    known := fun _ => hexists
    ready := by simpa using hinv.ready
    done := hinv.done
    notify := (hinv.notify_keep []).imp_left Fresh.known
    hdi := hinv.hdi.keep (by decide) rfl id
    ces := ⟨hinfo, hexists, (precedes_concat _ _ _ _).mpr (.inl hprecedes)⟩
    quiet := hinv.quiet_keep _ }

theorem raceInvariant_cesPublish (hinv : RaceInvariant config env history race log)
    {info : BatteryInfo} (hpc : race.ces = .Publish info) :
    let published := publishKnown (race.publishEnv env.cesLevel) race.notify info
    RaceInvariant config env (history ++ [.CesPublish])
      { race with notify := published.notify, ces := .StoreReady } (log ++ published.effects) := by
  obtain ⟨hinfo, hexists, hprecedes⟩ : CesPhase config env history race log (.Publish info) :=
    hpc ▸ hinv.ces
  have hordinary : OrdinaryUevent info := by
    rw [hinfo]
    exact .inr (.inl rfl)
  have hannounced := hinv.publish_announced hexists env.cesLevel info (by rw [hinfo]) hordinary
  exact {
    arrived := by simpa using hinv.arrived
    known := fun _ => hexists
    ready := by simpa using hinv.ready
    done := hinv.done
    notify := .inr hannounced
    hdi := hinv.hdi.keep (by decide) rfl id
    ces := fun _ => hannounced
    quiet := fun _ hready => absurd ((precedes_concat _ _ _ _).mpr (.inl hprecedes)) hready }

theorem raceInvariant_cesStoreReady (hinv : RaceInvariant config env history race log)
    (hpc : race.ces = .StoreReady) :
    RaceInvariant config env (history ++ [.CesStoreReady])
      { race with isCommonEventReady := true, ces := .Done } (log ++ []) := by
  have hphase : CesPhase config env history race log .StoreReady := hpc ▸ hinv.ces
  refine raceInvariant_ces hinv .CesStoreReady true .Done nofun nofun nofun ?_
  intro hprecedes
  rcases (precedes_concat _ _ _ _).mp hprecedes with hprecedes | ⟨haccess, -⟩
  · exact (hphase hprecedes).mono (List.subset_append_left _ _)
  · cases haccess

theorem raceInvariant_step (hinv : RaceInvariant config env history race log) {access : Access}
    {next : Race} {out : List Effect} (hstep : raceStep env race access = some (next, out)) :
    RaceInvariant config env (history ++ [access]) next (log ++ out) := by
  cases access with
  | ServiceArrives =>
      simp only [raceStep] at hstep
      split at hstep
      · cases hstep
      · cases hstep
        exact raceInvariant_serviceArrives hinv
  | HdiRegister =>
      simp only [raceStep] at hstep
      split at hstep
      · rename_i hpc
        cases hstep
        exact raceInvariant_hdiRegister hinv hpc
      · cases hstep
  | HdiWrite =>
      simp only [raceStep] at hstep
      split at hstep
      · rename_i write rest hpc
        cases hstep
        exact raceInvariant_hdiWrite hinv hpc
      · cases hstep
  | HdiCheckService =>
      simp only [raceStep, hinv.known_eq] at hstep
      split at hstep
      · rename_i hpc
        split at hstep
        · rename_i hexists
          cases hstep
          exact raceInvariant_hdiFound hinv hpc hexists
        · rename_i hexists
          cases hstep
          exact raceInvariant_hdiMissed hinv hpc (Bool.eq_false_iff.mpr hexists)
      · cases hstep
  | HdiPublish =>
      simp only [raceStep] at hstep
      split at hstep
      · rename_i hpc
        cases hstep
        exact raceInvariant_hdiPublish hinv hpc
      · cases hstep
  | HdiStoreReady =>
      simp only [raceStep] at hstep
      split at hstep
      · rename_i hpc
        cases hstep
        exact raceInvariant_hdiStoreReady hinv hpc
      · cases hstep
  | CesTestCommonEventReady =>
      simp only [raceStep] at hstep
      split at hstep
      · rename_i hpc
        split at hstep
        · rename_i hexists
          cases hstep
          exact raceInvariant_cesTestCommonEventReady hinv hpc hexists
        · cases hstep
      · cases hstep
  | CesTestHdiReady =>
      simp only [raceStep] at hstep
      split at hstep
      · rename_i hpc
        by_cases hready : race.isBatteryHdiReady = true
        · rw [if_pos hready] at hstep
          cases hstep
          exact raceInvariant_cesReady hinv hpc hready
        · rw [if_neg hready] at hstep
          cases hstep
          exact raceInvariant_cesMissed hinv hpc (Bool.eq_false_iff.mpr hready)
      · cases hstep
  | CesCopy =>
      simp only [raceStep] at hstep
      split at hstep
      · rename_i hpc
        cases hstep
        exact raceInvariant_cesCopy hinv hpc
      · cases hstep
  | CesCheckService =>
      simp only [raceStep, hinv.known_eq] at hstep
      split at hstep
      · rename_i info hpc
        obtain ⟨-, hexists, -⟩ : CesPhase config env history race log (.CheckService info) :=
          hpc ▸ hinv.ces
        rw [if_pos hexists] at hstep
        cases hstep
        exact raceInvariant_cesFound hinv hpc
      · cases hstep
  | CesPublish =>
      simp only [raceStep] at hstep
      split at hstep
      · rename_i info hpc
        cases hstep
        exact raceInvariant_cesPublish hinv hpc
      · cases hstep
  | CesStoreReady =>
      simp only [raceStep] at hstep
      split at hstep
      · rename_i hpc
        cases hstep
        exact raceInvariant_cesStoreReady hinv hpc
      · cases hstep

theorem raceInvariant_run (hrun : RaceRun config env history race log) :
    RaceInvariant config env history race log :=
  hrun.history_invariant (RaceInvariant config env) (raceInvariant_start config env)
    fun _ _ _ _ _ _ _ hinv hstep => raceInvariant_step hinv hstep

end Step

end BatteryManager
