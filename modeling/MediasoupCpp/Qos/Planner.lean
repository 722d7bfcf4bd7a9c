import MediasoupCpp.Qos.OverrideClient

/-!
# The levels a publisher plans

The client adapts what it publishes along a ladder of levels.  Level 0 is the best; the higher a
level, the less is sent.

Main results: `planActions_level_iff`, `plannedBitrate_addClamp_iff`.

Source: `src/client/lib/qos/profiles.js`, `src/client/lib/qos/planner.js`,
`src/client/lib/qos/controller.js`.
-/

namespace MediasoupCpp

open Option

/-! ### Profiles -/

inductive QosSource
  | camera
  | screenShare
  | audio
  deriving DecidableEq

inductive QosState
  | stable
  | earlyWarning
  | congested
  | recovering
  deriving DecidableEq

structure EncodingParameters where
  maxBitrateBps : Option ℚ := none
  maxFramerate : Option ℚ := none
  scaleResolutionDownBy : Option ℚ := none
  adaptivePtime : Option Bool := none
  deriving DecidableEq

/-- What a level sets.  What it does not mention stays as it is. -/
structure LadderStep where
  level : ℤ
  encodingParameters : Option EncodingParameters := none
  spatialLayer : Option ℤ := none
  enterAudioOnly : Bool := false
  pauseUpstream : Bool := false
  resumeUpstream : Bool := false

structure QosProfile where
  source : QosSource
  levelCount : ℤ
  ladder : List LadderStep

def defaultCameraProfile : QosProfile where
  source := .camera
  levelCount := 5
  ladder :=
    [{ level := 0
       encodingParameters := some
        { maxBitrateBps := some 900000, maxFramerate := some 30,
          scaleResolutionDownBy := some 1 } },
     { level := 1
       encodingParameters := some
        { maxBitrateBps := some 850000, maxFramerate := some 24,
          scaleResolutionDownBy := some 1 } },
     { level := 2
       encodingParameters := some
        { maxBitrateBps := some 700000, maxFramerate := some 20,
          scaleResolutionDownBy := some (3 / 2) } },
     { level := 3
       encodingParameters := some
        { maxBitrateBps := some 450000, maxFramerate := some 12, scaleResolutionDownBy := some 2 }
       spatialLayer := some 0 },
     { level := 4, enterAudioOnly := true }]

def defaultScreenShareProfile : QosProfile where
  source := .screenShare
  levelCount := 5
  ladder :=
    [{ level := 0
       encodingParameters := some
        { maxBitrateBps := some 1800000, maxFramerate := some 15,
          scaleResolutionDownBy := some 1 } },
     { level := 1
       encodingParameters := some
        { maxBitrateBps := some 1800000, maxFramerate := some 10,
          scaleResolutionDownBy := some 1 } },
     { level := 2
       encodingParameters := some
        { maxBitrateBps := some 1350000, maxFramerate := some 5,
          scaleResolutionDownBy := some 1 } },
     { level := 3
       encodingParameters := some
        { maxBitrateBps := some 990000, maxFramerate := some 3,
          scaleResolutionDownBy := some (5 / 4) }
       resumeUpstream := true },
     { level := 4, pauseUpstream := true }]

def defaultAudioProfile : QosProfile where
  source := .audio
  levelCount := 5
  ladder :=
    [{ level := 0, encodingParameters := some { maxBitrateBps := some 510000 } },
     { level := 1
       encodingParameters := some { maxBitrateBps := some 32000, adaptivePtime := some true } },
     { level := 2, encodingParameters := some { maxBitrateBps := some 24000 } },
     { level := 3, encodingParameters := some { maxBitrateBps := some 16000 } },
     { level := 4
       encodingParameters := some { maxBitrateBps := some 16000, adaptivePtime := some true } }]

def conservativeCameraProfile : QosProfile :=
  { defaultCameraProfile with
    ladder := defaultCameraProfile.ladder.set 2
      { level := 2
        encodingParameters := some
          { maxBitrateBps := some 550000, maxFramerate := some 15,
            scaleResolutionDownBy := some (3 / 2) } } }

/-! ### The planner -/

inductive QosAction
  | setEncodingParameters (level : ℤ) (encodingParameters : EncodingParameters)
  | setMaxSpatialLayer (level : ℤ) (spatialLayer : ℤ)
  | enterAudioOnly (level : ℤ)
  | exitAudioOnly (level : ℤ)
  | pauseUpstream (level : ℤ)
  | resumeUpstream (level : ℤ)
  | noop (level : ℤ) (reason : Option String)
  deriving DecidableEq

def QosAction.level : QosAction → ℤ
  | .setEncodingParameters level _ => level
  | .setMaxSpatialLayer level _ => level
  | .enterAudioOnly level => level
  | .exitAudioOnly level => level
  | .pauseUpstream level => level
  | .resumeUpstream level => level
  | .noop level _ => level

/-- What the planner goes by.  (It does not read the signals it is given, too.) -/
structure PlannerInput where
  source : QosSource
  profile : QosProfile
  state : QosState
  currentLevel : ℤ
  overrideClampLevel : Option ℤ := none
  inAudioOnlyMode : Bool := false

def clampLevel (level maxLevel : ℤ) : ℤ :=
  if level < 0 then 0 else if maxLevel < level then maxLevel else level

variable (profile : QosProfile)

def resolveMaxLevel : ℤ := max 0 (profile.levelCount - 1)

variable (input : PlannerInput)

def stateTargetLevel : ℤ :=
  let maxLevel := resolveMaxLevel input.profile
  let currentLevel := clampLevel input.currentLevel maxLevel
  let targetLevel :=
    match input.state with
    | .stable => if 0 < currentLevel then currentLevel - 1 else 0
    | .earlyWarning => if currentLevel < 1 then 1 else currentLevel
    | .congested => currentLevel + 1
    | .recovering => if 0 < currentLevel then currentLevel - 1 else 0
  clampLevel targetLevel maxLevel

def resolveTargetLevel : ℤ :=
  match input.overrideClampLevel with
  | some clamp => min (stateTargetLevel input) (clampLevel clamp (resolveMaxLevel input.profile))
  | none => stateTargetLevel input

variable (step : LadderStep)

/-- The actions of a step.  A camera that goes down leaves the audio-only mode first. -/
def LadderStep.actions (source : QosSource) (currentLevel : ℤ) (inAudioOnlyMode : Bool) :
    List QosAction :=
  (if source = .camera ∧ step.level < currentLevel ∧ inAudioOnlyMode = true then
      [.exitAudioOnly step.level] else []) ++
    (if step.resumeUpstream then [.resumeUpstream step.level] else []) ++
    (match step.encodingParameters with
      | some params => [.setEncodingParameters step.level params]
      | none => []) ++
    (match step.spatialLayer with
      | some spatialLayer => [.setMaxSpatialLayer step.level spatialLayer]
      | none => []) ++
    (if step.enterAudioOnly then [.enterAudioOnly step.level] else []) ++
    (if step.pauseUpstream then [.pauseUpstream step.level] else [])

def stepToActions (source : QosSource) (currentLevel : ℤ) (inAudioOnlyMode : Bool) :
    List QosAction :=
  let actions := step.actions source currentLevel inAudioOnlyMode
  if actions.isEmpty then [.noop step.level (some "empty-ladder-step")] else actions

def QosProfile.stepAt (level : ℤ) : Option LadderStep :=
  profile.ladder.find? fun entry => entry.level = level

def actionsForLevel (targetLevel : ℤ) : List QosAction :=
  match input.profile.stepAt targetLevel with
  | none => [.noop targetLevel (some "unknown-level")]
  | some step => stepToActions step input.source input.currentLevel input.inAudioOnlyMode

def planActionsForLevel (targetLevel : ℤ) : List QosAction :=
  let maxLevel := resolveMaxLevel input.profile
  actionsForLevel { input with currentLevel := clampLevel input.currentLevel maxLevel }
    (clampLevel targetLevel maxLevel)

def PlannerInput.replans : Prop :=
  input.source = .camera ∧
    clampLevel input.currentLevel (resolveMaxLevel input.profile) =
      resolveMaxLevel input.profile ∧
    input.state = .congested ∧ input.inAudioOnlyMode = false

instance (input : PlannerInput) : Decidable input.replans :=
  inferInstanceAs (Decidable (_ ∧ _))

def planActions : List QosAction :=
  let maxLevel := resolveMaxLevel input.profile
  let currentLevel := clampLevel input.currentLevel maxLevel
  let targetLevel := clampLevel (resolveTargetLevel input) maxLevel
  if input.replans then
    planActionsForLevel { input with currentLevel := currentLevel } maxLevel
  else if targetLevel = currentLevel then [.noop currentLevel none]
  else planActionsForLevel { input with currentLevel := currentLevel } targetLevel

def planRecovery : List QosAction :=
  planActions { input with state := .recovering }

/-! ### Where a plan leads -/

theorem resolveMaxLevel_nonneg : 0 ≤ resolveMaxLevel profile :=
  le_max_left _ _

section Clamp

variable {level level' maxLevel : ℤ}

theorem clampLevel_nonneg (hmax : 0 ≤ maxLevel) : 0 ≤ clampLevel level maxLevel := by
  unfold clampLevel
  split_ifs <;> omega

theorem clampLevel_le (hmax : 0 ≤ maxLevel) : clampLevel level maxLevel ≤ maxLevel := by
  unfold clampLevel
  split_ifs <;> omega

theorem clampLevel_of_mem (hlow : 0 ≤ level) (hhigh : level ≤ maxLevel) :
    clampLevel level maxLevel = level := by
  rw [clampLevel, if_neg (not_lt.mpr hlow), if_neg (not_lt.mpr hhigh)]

theorem clampLevel_min (hmax : 0 ≤ maxLevel) : clampLevel (min level level') maxLevel =
      min (clampLevel level maxLevel) (clampLevel level' maxLevel) := by
  unfold clampLevel
  split_ifs <;> omega

end Clamp

section Planned

variable {input : PlannerInput}

theorem resolveTargetLevel_mem (input : PlannerInput) :
    0 ≤ resolveTargetLevel input ∧ resolveTargetLevel input ≤ resolveMaxLevel input.profile := by
  have hmax := resolveMaxLevel_nonneg input.profile
  unfold resolveTargetLevel stateTargetLevel
  split
  · exact ⟨le_min (clampLevel_nonneg hmax) (clampLevel_nonneg hmax),
      (min_le_left _ _).trans (clampLevel_le hmax)⟩
  · exact ⟨clampLevel_nonneg hmax, clampLevel_le hmax⟩

def plannedLevel (input : PlannerInput) : ℤ :=
  if input.replans then resolveMaxLevel input.profile else resolveTargetLevel input

theorem plannedLevel_mem (input : PlannerInput) :
    0 ≤ plannedLevel input ∧ plannedLevel input ≤ resolveMaxLevel input.profile := by
  unfold plannedLevel
  split
  · exact ⟨resolveMaxLevel_nonneg _, le_rfl⟩
  · exact resolveTargetLevel_mem input

theorem planActions_eq (input : PlannerInput) : (planActions input =
        [.noop (clampLevel input.currentLevel (resolveMaxLevel input.profile)) none] ∧
      plannedLevel input = clampLevel input.currentLevel (resolveMaxLevel input.profile)) ∨
    planActions input = actionsForLevel
      { input with currentLevel := clampLevel input.currentLevel (resolveMaxLevel input.profile) }
      (plannedLevel input) := by
  have hmax := resolveMaxLevel_nonneg input.profile
  have hcur : ∀ level, clampLevel (clampLevel level (resolveMaxLevel input.profile))
      (resolveMaxLevel input.profile) = clampLevel level (resolveMaxLevel input.profile) :=
    fun level => clampLevel_of_mem (clampLevel_nonneg hmax) (clampLevel_le hmax)
  have htarg :=
    clampLevel_of_mem (resolveTargetLevel_mem input).1 (resolveTargetLevel_mem input).2
  unfold planActions plannedLevel planActionsForLevel
  dsimp only
  rw [htarg, hcur]
  split
  · rw [clampLevel_of_mem hmax le_rfl]
    exact .inr rfl
  split
  next hstay =>
    exact .inl ⟨rfl, hstay⟩
  · rw [htarg]
    exact .inr rfl

theorem level_of_stepAt {profile : QosProfile} {level : ℤ} {step : LadderStep}
    (h : profile.stepAt level = some step) : step.level = level := by
  simpa using List.find?_some h

theorem level_of_mem_stepToActions {step : LadderStep} {source : QosSource} {currentLevel : ℤ}
    {inAudioOnlyMode : Bool} {a : QosAction}
    (h : a ∈ stepToActions step source currentLevel inAudioOnlyMode) : a.level = step.level := by
  unfold stepToActions at h
  dsimp only at h
  split at h
  · obtain rfl := List.mem_singleton.mp h
    rfl
  simp only [LadderStep.actions, List.mem_append] at h
  rcases h with ((((h | h) | h) | h) | h) | h
  all_goals
    split at h
    · obtain rfl := List.mem_singleton.mp h
      rfl
    · cases h

theorem level_of_mem_planActions {a : QosAction} (h : a ∈ planActions input) :
    a.level = plannedLevel input := by
  rcases planActions_eq input with ⟨hplan, hlev⟩ | hplan
  · rw [hplan, List.mem_singleton] at h
    rw [h, hlev]
    rfl
  rw [hplan, actionsForLevel] at h
  split at h
  · obtain rfl := List.mem_singleton.mp h
    rfl
  next hstep =>
    rw [level_of_mem_stepToActions h, level_of_stepAt hstep]

theorem stepToActions_ne_nil (step : LadderStep) (source : QosSource) (currentLevel : ℤ)
    (inAudioOnlyMode : Bool) : stepToActions step source currentLevel inAudioOnlyMode ≠ [] := by
  unfold stepToActions
  dsimp only
  split
  · simp
  next h =>
    simpa using h

theorem actionsForLevel_ne_nil (input : PlannerInput) (targetLevel : ℤ) :
    actionsForLevel input targetLevel ≠ [] := by
  unfold actionsForLevel
  split
  · simp
  · exact stepToActions_ne_nil _ _ _ _

theorem planActions_ne_nil (input : PlannerInput) : planActions input ≠ [] := by
  rcases planActions_eq input with ⟨hplan, -⟩ | hplan
  · simp [hplan]
  · rw [hplan]
    exact actionsForLevel_ne_nil _ _

end Planned

def cameraAt (state : QosState) (level : ℤ) : PlannerInput where
  source := .camera
  profile := defaultCameraProfile
  state := state
  currentLevel := level

/-! ### The level of a plan and the clamp -/

def PlannerInput.WithinClamp (input : PlannerInput) : Prop :=
  ∀ clamp ∈ input.overrideClampLevel,
    0 ≤ clamp ∧ (input.replans → resolveMaxLevel input.profile ≤ clamp)

instance (input : PlannerInput) : Decidable input.WithinClamp :=
  inferInstanceAs (Decidable (∀ clamp ∈ input.overrideClampLevel, _))

theorem clampLevel_le_self {level maxLevel : ℤ} (hlow : 0 ≤ level) :
    clampLevel level maxLevel ≤ level := by
  unfold clampLevel
  split_ifs <;> omega

theorem plannedLevel_le_clamp_iff {input : PlannerInput} {clamp : ℤ}
    (hcl : input.overrideClampLevel = some clamp) : plannedLevel input ≤ clamp ↔
      0 ≤ clamp ∧ (input.replans → resolveMaxLevel input.profile ≤ clamp) := by
  have hmem := plannedLevel_mem input
  constructor
  · intro hle
    refine ⟨hmem.1.trans hle, ?_⟩
    intro hrepl
    rwa [plannedLevel, if_pos hrepl] at hle
  rintro ⟨hlow, hreplanned⟩
  unfold plannedLevel
  split
  next hrepl =>
    exact hreplanned hrepl
  -- what the state asks for is cut at the clamp, itself brought into the ladder
  rw [resolveTargetLevel, hcl]
  exact (min_le_right _ _).trans (clampLevel_le_self hlow)

/-- **The level of a plan obeys the clamp unless a congested camera plans its highest level
again.**  All actions of a plan are for one level of the ladder; it is at most the clamp, if one is
given, exactly when the clamp is not negative and no congested camera that is not in the audio-only
mode is at the highest level, above the clamp. -/
theorem planActions_level_iff (input : PlannerInput) :
    (∃ level, planActions input ≠ [] ∧ (∀ a ∈ planActions input, a.level = level) ∧
        0 ≤ level ∧ level ≤ resolveMaxLevel input.profile ∧
        ∀ clamp ∈ input.overrideClampLevel, level ≤ clamp) ↔
      input.WithinClamp := by
  have hmem := plannedLevel_mem input
  constructor
  · rintro ⟨level, hne, hlev, -, -, hle⟩ clamp hcl
    -- the level is that of the first action
    obtain ⟨a, ha⟩ := List.exists_mem_of_ne_nil _ hne
    have heq : plannedLevel input = level := by
      rw [← level_of_mem_planActions ha, hlev a ha]
    apply (plannedLevel_le_clamp_iff hcl).mp
    rw [heq]
    exact hle clamp hcl
  · intro hwith
    refine ⟨plannedLevel input, planActions_ne_nil input, ?_, hmem.1, hmem.2, ?_⟩
    · intro a ha
      exact level_of_mem_planActions ha
    · intro clamp hcl
      exact (plannedLevel_le_clamp_iff hcl).mpr (hwith clamp hcl)

/-- A congested camera at level 4 that could not enter the audio-only mode, and the clamp of a
room under pressure: it is level 4 again that is planned. -/
theorem congested_camera_ignores_clamp :
    planActions { cameraAt .congested 4 with overrideClampLevel := some 1 } = [.enterAudioOnly 4] ∧
      ¬(QosAction.enterAudioOnly 4).level ≤ 1 := by
  decide +kernel

/-! ### Clamps -/

def LadderStep.bitrate : Option ℚ :=
  if step.enterAudioOnly ∨ step.pauseUpstream then some 0
  else step.encodingParameters.bind EncodingParameters.maxBitrateBps

def QosProfile.bitrateAt (level : ℤ) : Option ℚ :=
  (profile.stepAt level).bind LadderStep.bitrate

def QosProfile.NonIncreasing : Prop :=
  ∀ step ∈ profile.ladder, ∀ step' ∈ profile.ladder, step.level < step'.level →
    ∀ b ∈ step.bitrate, ∀ b' ∈ step'.bitrate, b' ≤ b

instance (profile : QosProfile) : Decidable profile.NonIncreasing :=
  inferInstanceAs (Decidable (∀ step ∈ profile.ladder, ∀ step' ∈ profile.ladder, _ → _))

theorem QosProfile.NonIncreasing.bitrateAt_le {profile : QosProfile} (h : profile.NonIncreasing)
    {level level' : ℤ} (hle : level ≤ level') {b b' : ℚ} (hb : profile.bitrateAt level = some b)
    (hb' : profile.bitrateAt level' = some b') : b' ≤ b := by
  obtain ⟨step, hstep, hrate⟩ := bind_eq_some_iff.mp hb
  obtain ⟨step', hstep', hrate'⟩ := bind_eq_some_iff.mp hb'
  rcases hle.eq_or_lt with rfl | _
  · rw [hb] at hb'
    exact (some.inj hb').ge
  refine h step (List.mem_of_find?_eq_some hstep) step' (List.mem_of_find?_eq_some hstep') ?_
    b hrate b' hrate'
  rwa [level_of_stepAt hstep, level_of_stepAt hstep']

def plannedBitrate (input : PlannerInput) : Option ℚ :=
  input.profile.bitrateAt (plannedLevel input)

def NotHigher (bitrate bitrate' : Option ℚ) : Prop :=
  ∀ b ∈ bitrate, ∀ b' ∈ bitrate', b ≤ b'

instance (bitrate bitrate' : Option ℚ) : Decidable (NotHigher bitrate bitrate') :=
  inferInstanceAs (Decidable (∀ b ∈ bitrate, ∀ b' ∈ bitrate', _))

def lowerClamp (clamp : Option ℤ) (clamp' : ℤ) : ℤ :=
  match clamp with
  | some clamp => min clamp clamp'
  | none => clamp'

def PlannerInput.addClamp (input : PlannerInput) (clamp : ℤ) : PlannerInput :=
  { input with overrideClampLevel := some (lowerClamp input.overrideClampLevel clamp) }

theorem resolveTargetLevel_addClamp (input : PlannerInput) (clamp : ℤ) :
    resolveTargetLevel (input.addClamp clamp) =
      min (resolveTargetLevel input) (clampLevel clamp (resolveMaxLevel input.profile)) := by
  have hmax := resolveMaxLevel_nonneg input.profile
  change min (stateTargetLevel input) (clampLevel _ (resolveMaxLevel input.profile)) = _
  unfold resolveTargetLevel lowerClamp
  cases input.overrideClampLevel with
  | none => rfl
  | some clamp' => rw [clampLevel_min hmax, min_assoc]

def PlannerInput.Harmless (input : PlannerInput) (clamp : ℤ) : Prop :=
  input.replans ∨
    resolveTargetLevel input ≤ clampLevel clamp (resolveMaxLevel input.profile) ∨
    ∀ b ∈ input.profile.bitrateAt (clampLevel clamp (resolveMaxLevel input.profile)),
      ∀ b' ∈ input.profile.bitrateAt (resolveTargetLevel input), b = b'

theorem notHigher_self (bitrate : Option ℚ) : NotHigher bitrate bitrate := by
  intro b hb b' hb'
  rw [mem_def.mp hb] at hb'
  exact (some.inj hb').le

theorem notHigher_addClamp_iff {input : PlannerInput} (hlad : input.profile.NonIncreasing)
    (clamp : ℤ) : NotHigher (plannedBitrate (input.addClamp clamp)) (plannedBitrate input) ↔
      input.Harmless clamp := by
  unfold plannedBitrate plannedLevel PlannerInput.Harmless
  by_cases hrepl : input.replans
  · rw [if_pos hrepl, if_pos (show (input.addClamp clamp).replans from hrepl)]
    exact iff_of_true (notHigher_self _) (.inl hrepl)
  rw [if_neg hrepl, if_neg (show ¬(input.addClamp clamp).replans from hrepl),
    resolveTargetLevel_addClamp, or_iff_right hrepl]
  rcases le_or_gt (resolveTargetLevel input)
    (clampLevel clamp (resolveMaxLevel input.profile)) with hle | hlt
  · rw [min_eq_left hle]
    exact iff_of_true (notHigher_self _) (.inl hle)
  rw [min_eq_right hlt.le, or_iff_right (not_le.mpr hlt)]
  -- the ladder leaves only that the bitrates are the same
  exact ⟨fun h b hb b' hb' => (h b hb b' hb').antisymm (hlad.bitrateAt_le hlt.le hb hb'),
    fun h b hb b' hb' => (h b hb b' hb').le⟩

def combinedClampLevel (override : Option ClientOverride) (coordinationClamp : Option ℕ) :
    Option ℤ :=
  match override.bind ClientOverride.maxLevelClamp, coordinationClamp with
  | some clamp, some clamp' => some (min clamp clamp')
  | some clamp, none => some clamp
  | none, some clamp => some clamp
  | none, none => none

theorem combinedClampLevel_set {active : ActiveOverrides} {nowMs : ℤ} {key : String}
    {entry : ActiveOverride} {clamp : ℕ}
    (hnew : ∀ old, active.lookup key = some old → old.expiresAtMs ≤ nowMs)
    (hexp : nowMs < entry.expiresAtMs) (hcl : entry.data.maxLevelClamp = some clamp)
    (coordinationClamp : Option ℕ) :
    combinedClampLevel (ActiveOverrides.getActiveOverride (active.set key entry) nowMs)
        coordinationClamp =
      some (lowerClamp (combinedClampLevel (active.getActiveOverride nowMs) coordinationClamp)
        clamp) := by
  have hset := ActiveOverrides.clampInForce_set hnew hexp hcl
  unfold ActiveOverrides.clampInForce at hset
  unfold combinedClampLevel
  rw [hset]
  cases (active.getActiveOverride nowMs).bind ClientOverride.maxLevelClamp with
  | none => cases coordinationClamp <;> simp [lowerClamp, min_comm]
  | some clamp' =>
    cases coordinationClamp <;>
      simp [lowerClamp, min_assoc, min_comm]

/-- **A clamp is a restriction exactly when it is harmless.**  On a ladder whose bitrates do
not rise with the level, one more clamp does not make the planner choose more bitrate if and
only if the level planned without it is not above the clamp, or there is no more bitrate at
the clamp; and the same holds of one more override that carries a clamp. -/
theorem plannedBitrate_addClamp_iff (input : PlannerInput)
    (hladder : input.profile.NonIncreasing) :
    (∀ clamp, NotHigher (plannedBitrate (input.addClamp clamp)) (plannedBitrate input) ↔
        input.Harmless clamp) ∧
      ∀ (active : ActiveOverrides) nowMs coordinationClamp key entry (clamp : ℕ),
        input.overrideClampLevel =
          combinedClampLevel (active.getActiveOverride nowMs) coordinationClamp →
        (∀ old, active.lookup key = some old → old.expiresAtMs ≤ nowMs) →
        nowMs < entry.expiresAtMs → entry.data.maxLevelClamp = some clamp →
          (NotHigher
              (plannedBitrate { input with
                overrideClampLevel := combinedClampLevel
                  (ActiveOverrides.getActiveOverride (active.set key entry) nowMs)
                  coordinationClamp })
              (plannedBitrate input) ↔
            input.Harmless clamp) := by
  refine ⟨notHigher_addClamp_iff hladder, ?_⟩
  intro active nowMs coordinationClamp key entry clamp hin hnew hexp hcl
  rw [combinedClampLevel_set hnew hexp hcl, ← hin]
  exact notHigher_addClamp_iff hladder clamp

theorem plannedBitrate_camera_clamped :
    defaultCameraProfile.NonIncreasing ∧
      NotHigher (plannedBitrate ((cameraAt .stable 2).addClamp 3))
        (plannedBitrate (cameraAt .stable 2)) :=
  ⟨by decide +kernel, ((plannedBitrate_addClamp_iff (cameraAt .stable 2) (by decide +kernel)).1
    3).mpr (.inr (.inl (by decide)))⟩

/-- A congested camera at level 2 goes on to level 3.  While nobody sees it, the server
clamps it to 0, and it goes back to the best level instead, with twice the bitrate. -/
theorem clamped_camera_sends_more :
    defaultCameraProfile.NonIncreasing ∧
      plannedBitrate (cameraAt .congested 2) = some 450000 ∧
      plannedBitrate ((cameraAt .congested 2).addClamp 0) = some 900000 := by
  decide +kernel

end MediasoupCpp
