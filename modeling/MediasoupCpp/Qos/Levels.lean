import MediasoupCpp.Lib.Run
import MediasoupCpp.Qos.PublisherController

/-!
# The levels of a controller

Without overrides and policies a controller only processes samples.  A plan goes one level up or
down, a probe under way keeps the level, and a failed probe puts back the one it has recorded.

Main result: `levels_kept`.

Source: `src/client/lib/qos/controller.js`, `src/client/lib/qos/planner.js`.
-/

namespace MediasoupCpp

open Option

namespace PublisherControl

/-- A sample, the time it is processed at, and the outcomes of the actions it leads to. -/
structure Sample where
  snapshot : RawSenderSnapshot
  nowMs : ℤ
  outcomes : ℕ → ExecutorOutcome

variable (c : PublisherControl)

def takeSample (s : Sample) : PublisherControl :=
  c.processSample s.snapshot s.nowMs s.outcomes

def InRange (level : ℤ) : Prop := 0 ≤ level ∧ level ≤ c.maxLevel

/-- No override holds, and the level and the one a probe would restore are levels of the profile. -/
structure Plain : Prop where
  level : c.InRange c.currentLevel
  activeOverrides : c.activeOverrides = ∅
  coordinationOverride : c.coordinationOverride = none
  previousLevel : ∀ probe ∈ c.probeContext, c.InRange probe.previousLevel

/-- What a sample does to the level, by the verdict on the probe that runs. -/
structure LevelKept (s : Sample) (c' : PublisherControl) : Prop where
  level : c.InRange c'.currentLevel
  change : c.verdict s.snapshot s.nowMs ≠ some .failed →
    |c'.currentLevel - c.currentLevel| ≤ 1
  restored : c.verdict s.snapshot s.nowMs = some .failed →
    c'.currentLevel = c.currentLevel ∨ ∃ probe ∈ c.probing, c'.currentLevel = probe.previousLevel
  probing : c.verdict s.snapshot s.nowMs = some .inconclusive → c'.currentLevel = c.currentLevel

variable {c : PublisherControl} {s : Sample} {signals : DerivedQosSignals} {nowMs : ℤ}

theorem abs_plannedLevel_sub_le {input : PlannerInput} (hcl : input.overrideClampLevel = none)
    (hlow : 0 ≤ input.currentLevel) (hhigh : input.currentLevel ≤ resolveMaxLevel input.profile) :
    |plannedLevel input - input.currentLevel| ≤ 1 := by
  have hcur := clampLevel_of_mem hlow hhigh
  unfold plannedLevel
  split
  next hrepl =>
    rw [← hrepl.2.1, hcur]
    simp
  · simp only [resolveTargetLevel, hcl, stateTargetLevel, clampLevel]
    rw [abs_le]
    cases input.state <;> simp only <;> split_ifs <;> omega

/-- The levels the planned actions lead to.  While a probe runs, there is only the current one. -/
def Reaches (c : PublisherControl) (level : ℤ) : Prop :=
  c.InRange level ∧ |level - c.currentLevel| ≤ 1 ∧
    (c.probeContext.any ProbeContext.active = true → level = c.currentLevel)

section

variable (h : c.Plain)
include h

theorem Plain.reaches : c.Reaches c.currentLevel :=
  ⟨h.level, by simp, fun _ => rfl⟩

theorem Plain.reaches_plannedActions : ∀ a ∈ c.plannedActions none nowMs, c.Reaches a.level := by
  have hplan : ∀ state, ∀ a ∈ planActions (c.plannerInput state none),
      c.InRange a.level ∧ |a.level - c.currentLevel| ≤ 1 := by
    intro state a ha
    rw [level_of_mem_planActions ha]
    exact ⟨plannedLevel_mem _, abs_plannedLevel_sub_le rfl h.level.1 h.level.2⟩
  intro a ha
  simp only [plannedActions, h.coordinationOverride, combinedClampLevel, bind_none] at ha
  split at ha
  · obtain rfl := List.mem_singleton.mp ha
    exact h.reaches
  rename_i hidle
  have hlev : c.InRange a.level ∧ |a.level - c.currentLevel| ≤ 1 := by
    split at ha
    · exact hplan .recovering a ha
    · exact hplan _ a ha
  exact ⟨hlev.1, hlev.2, fun hprob => absurd hprob hidle⟩

theorem Plain.executeActions {actions : List QosAction}
    (hactions : ∀ a ∈ actions, c.Reaches a.level) (outcomes : ℕ → ExecutorOutcome) :
    let c' := c.executeActions actions signals nowMs outcomes
    c'.Plain ∧ c'.profile = c.profile ∧ c.Reaches c'.currentLevel := by
  obtain ⟨level, _, hlev, heq⟩ := executeEach_spec actions outcomes c h.reaches hactions
  simp only [PublisherControl.executeActions, heq]
  split
  · refine ⟨⟨hlev.1, h.activeOverrides, h.coordinationOverride, ?_⟩, rfl, hlev⟩
    -- the probe records the level before
    rintro probe ⟨⟩
    exact h.level
  · exact ⟨⟨hlev.1, h.activeOverrides, h.coordinationOverride, h.previousLevel⟩, rfl, hlev⟩

theorem Plain.act (snapshot : RawSenderSnapshot) (signals : DerivedQosSignals) (nowMs : ℤ)
    (outcomes : ℕ → ExecutorOutcome) : let c' := c.act snapshot signals none nowMs outcomes
    c'.Plain ∧ c'.profile = c.profile ∧ c.Reaches c'.currentLevel := by
  -- the streak of successful probes plays no part
  have hrun : ∀ streak, let c₁ := { c with recoveryProbeSuccessStreak := streak }
      let c' := c₁.executeActions (c₁.filterActions (c₁.plannedActions none nowMs) none) signals
        nowMs outcomes
      c'.Plain ∧ c'.profile = c.profile ∧ c.Reaches c'.currentLevel := by
    intro streak c₁
    have hpl : c₁.Plain :=
      ⟨h.level, h.activeOverrides, h.coordinationOverride, h.previousLevel⟩
    exact hpl.executeActions
      (level_of_mem_filterActions hpl.reaches hpl.reaches_plannedActions) outcomes
  have hnext : ∀ {c' : PublisherControl}, c'.Plain →
      ({ c' with previousSnapshot := some snapshot
                 previousSignals := some signals } : PublisherControl).Plain :=
    fun h => ⟨h.level, h.activeOverrides, h.coordinationOverride, h.previousLevel⟩
  unfold PublisherControl.act
  dsimp only
  split
  · exact ⟨hnext (hrun 0).1, (hrun 0).2⟩
  · have hsame := hrun c.recoveryProbeSuccessStreak
    exact ⟨hnext hsame.1, hsame.2⟩

theorem Plain.observe (snapshot : RawSenderSnapshot) (nowMs : ℤ) :
    (c.observe snapshot nowMs).Plain := by
  refine ⟨h.level, ?_, h.coordinationOverride, h.previousLevel⟩
  simp only [PublisherControl.observe, h.activeOverrides]
  rfl

theorem Plain.noProbe : Plain { c with probeContext := none } :=
  { h with previousLevel := fun probe hnone => absurd hnone (not_mem_none probe) }

theorem Plain.overrideAt (nowMs : ℤ) : c.overrideAt nowMs = none := by
  rw [PublisherControl.overrideAt, h.activeOverrides]
  rfl

theorem Plain.rollbackProbe {probe : ProbeContext} (hpr : c.InRange probe.previousLevel)
    (nowMs : ℤ) (outcomes : ℕ → ExecutorOutcome) : let c' := c.rollbackProbe probe nowMs outcomes
    c'.Plain ∧ c'.profile = c.profile ∧
      (c'.currentLevel = c.currentLevel ∨ c'.currentLevel = probe.previousLevel) := by
  have hrevert : ∀ a ∈ c.revertActions probe, a.level = probe.previousLevel := by
    intro a ha
    exact (level_of_mem_actionsForLevel ha).trans (clampLevel_of_mem hpr.1 hpr.2)
  obtain ⟨level, _, hlev, heq⟩ := rollbackEach_spec
    (p := fun level => level = c.currentLevel ∨ level = probe.previousLevel) _ outcomes c (.inl rfl)
    fun a ha => .inr (hrevert a ha)
  have hrng : c.InRange level := by
    rcases hlev with rfl | rfl
    · exact h.level
    · exact hpr
  unfold PublisherControl.rollbackProbe
  generalize rollbackEach outcomes (c.revertActions probe) c = rolled at heq
  obtain ⟨c', completed⟩ := rolled
  obtain rfl : c' = _ := heq
  cases completed with
  | false =>
    exact ⟨⟨hrng, h.activeOverrides, h.coordinationOverride, h.previousLevel⟩, rfl, hlev⟩
  | true => exact ⟨⟨hrng, h.activeOverrides, h.coordinationOverride, nofun⟩, rfl, hlev⟩

theorem Plain.takeSample (s : Sample) :
    (c.takeSample s).Plain ∧ (c.takeSample s).profile = c.profile ∧
      c.LevelKept s (c.takeSample s) := by
  have hobs := h.observe s.snapshot s.nowMs
  have hacts : ∀ d : PublisherControl, d.Plain → d.profile = c.profile →
      d.currentLevel = c.currentLevel → c.verdict s.snapshot s.nowMs ≠ some .failed →
      (c.verdict s.snapshot s.nowMs = some .inconclusive → d.probeContext.any ProbeContext.active) →
      let c' := d.act s.snapshot (c.signalsOf s.snapshot s.nowMs) none s.nowMs s.outcomes
      c'.Plain ∧ c'.profile = c.profile ∧ c.LevelKept s c' := by
    intro d hd hprof hsame hverd hprob
    obtain ⟨hpl, hprof', hrng, hchange, hkeep⟩ :=
      hd.act s.snapshot (c.signalsOf s.snapshot s.nowMs) s.nowMs s.outcomes
    rw [InRange, maxLevel, hprof] at hrng
    rw [hsame] at hchange hkeep
    exact ⟨hpl, hprof'.trans hprof, hrng, fun _ => hchange, fun hfail =>
      absurd hfail hverd, fun hinc => hkeep (hprob hinc)⟩
  unfold PublisherControl.takeSample
  cases hprob : c.probing with
  | none =>
    have hverd : c.verdict s.snapshot s.nowMs = none := by
      rw [verdict, hprob]
      rfl
    rw [processSample_of_idle hprob, h.overrideAt]
    exact hacts _ hobs.noProbe rfl rfl (by simp [hverd]) (by simp [hverd])
  | some probe =>
    have hprev := h.previousLevel probe (probing_eq_some.mp hprob).1
    have hverd := @verdict_of_probing c s.snapshot s.nowMs probe hprob
    cases hres : (evaluateProbe probe (c.signalsOf s.snapshot s.nowMs) c.profile).2 with
    | failed =>
      rw [hres] at hverd
      rw [processSample_of_probing hprob hverd]
      obtain ⟨hpl, hprof, hlev⟩ := hobs.rollbackProbe hprev s.nowMs s.outcomes
      have hrng := hpl.level
      rw [InRange, maxLevel, hprof] at hrng
      exact ⟨hpl, hprof, hrng, by simp [hverd],
        fun _ => hlev.imp id fun hlev => ⟨probe, hprob, hlev⟩, by simp [hverd]⟩
    | successful =>
      rw [hres] at hverd
      rw [processSample_of_probing hprob hverd, h.overrideAt]
      exact hacts _ { hobs.noProbe with } rfl rfl (by simp [hverd]) (by simp [hverd])
    | inconclusive =>
      rw [hres] at hverd
      rw [processSample_of_probing hprob hverd, h.overrideAt]
      refine hacts _ ⟨hobs.level, hobs.activeOverrides, hobs.coordinationOverride, ?_⟩
        rfl rfl (by simp [hverd]) fun _ => ?_
      · rintro _ ⟨⟩
        have hcnt := congrArg Prod.fst (probe.restorePoint_count
          (c.signalsOf s.snapshot s.nowMs) c.profile)
        dsimp only [ProbeContext.restorePoint] at hcnt
        rw [hcnt]
        exact hprev
      · rw [any_some, ProbeContext.active_count]
        exact (probing_eq_some.mp hprob).2

end

def limitedSample (nowMs : ℤ) (outcome : ExecutorOutcome) : Sample where
  snapshot := { qualityLimitationReason := some .bandwidth }
  nowMs := nowMs
  outcomes := fun _ => outcome

/-- A camera starts in the audio-only mode.  Its first actions fail, and the next ones lead out of
the mode and one level down at once. -/
def audioOnlyThenDown : PublisherControl :=
  Runs.runFrom takeSample
    (create
      { profile := getDefaultCameraProfile, trackId := "camera", initialAudioOnlyMode := true } 0)
    [limitedSample 1000 .notApplied, limitedSample 2000 .applied, limitedSample 3000 .applied]

def levelSeven : PublisherControl :=
  create { profile := getDefaultCameraProfile, trackId := "camera", initialLevel := 7 } 0

/-- The probe of that camera fails, and the camera goes back to its best level.  Another one starts
at a level its profile does not have. -/
theorem failed_probe_raises_quality :
    audioOnlyThenDown.currentLevel = 1 ∧ audioOnlyThenDown.probing.isSome = true ∧
      audioOnlyThenDown.verdict { qualityLimitationReason := some .bandwidth } 4000 =
        some .failed ∧
      (audioOnlyThenDown.takeSample (limitedSample 4000 .applied)).currentLevel = 0 ∧
    levelSeven.maxLevel = 4 ∧ levelSeven.currentLevel = 7 ∧
      (levelSeven.takeSample (limitedSample 1000 .applied)).currentLevel = 3 := by
  refine ⟨?_, ?_, ?_, ?_, ?_, ?_, ?_⟩ <;> decide +kernel

/-- **Levels stay in the range of the profile, change by one at most unless a failed probe restores
its level, and do not get better while a probe is under way**, if no failed probe has recorded a
better level than the one it has tried. -/
theorem levels_kept (options : ControllerOptions) (nowMs : ℤ)
    (hinitial : options.initialLevel < resolveMaxLevel options.profile.toQosProfile + 1)
    (samples : List Sample) (s : Sample) :
    let c := Runs.runFrom takeSample (create options nowMs) samples
    let c' := c.takeSample s
    c.InRange c.currentLevel ∧ c.LevelKept s c' ∧
      ((∀ probe ∈ c.probing, c.verdict s.snapshot s.nowMs = some .failed →
          c.currentLevel ≤ probe.previousLevel) →
        c.probing.isSome = true → c.verdict s.snapshot s.nowMs ≠ some .successful →
          c.currentLevel ≤ c'.currentLevel) := by
  have hst : (create options nowMs).Plain := by
    refine ⟨⟨le_max_left _ _, max_le (resolveMaxLevel_nonneg _) ?_⟩, rfl, rfl, nofun⟩
    exact Int.lt_add_one_iff.mp (Rat.floor_lt_iff.mpr (by exact_mod_cast hinitial))
  intro c c'
  have hpl : c.Plain :=
    Runs.runFrom_inv Plain (fun c s h => (h.takeSample s).1) samples _ hst
  have hkept := (hpl.takeSample s).2.2
  refine ⟨hpl.level, hkept, fun hrec hprob hnot => ?_⟩
  obtain ⟨probe, hpr⟩ := isSome_iff_exists.mp hprob
  have hverd := @verdict_of_probing c s.snapshot s.nowMs probe hpr
  cases hres : (evaluateProbe probe (c.signalsOf s.snapshot s.nowMs) c.profile).2 with
  | successful => exact absurd (hverd.trans (congrArg some hres)) hnot
  | inconclusive => exact (hkept.probing (hverd.trans (congrArg some hres))).ge
  | failed =>
    rw [hres] at hverd
    rcases hkept.restored hverd with hsame | ⟨probe', hpr', hlev⟩
    · exact hsame.ge
    · rw [hlev]
      exact hrec probe' hpr' hverd

theorem levels_kept_camera :
    (0 : ℚ) < resolveMaxLevel defaultCameraProfile + 1 ∧
      let c := create { profile := getDefaultCameraProfile, trackId := "camera" } 0
      let s := limitedSample 1000 .applied
      c.InRange c.currentLevel ∧ c.LevelKept s (c.takeSample s) := by
  have hinit : (0 : ℚ) < resolveMaxLevel defaultCameraProfile + 1 := by decide +kernel
  have hkept := levels_kept { profile := getDefaultCameraProfile, trackId := "camera" } 0 hinit
    [] (limitedSample 1000 .applied)
  exact ⟨hinit, hkept.1, hkept.2.1⟩

end PublisherControl

end MediasoupCpp
