import MediasoupCpp.Qos.OverrideEffect
import MediasoupCpp.Qos.Sender
import MediasoupCpp.Qos.StateMachine

/-!
# The controller of a published track

With every sample the controller lets the state machine move, evaluates the probe that is under
way, plans, and executes what it has planned.  When it goes to a better level, or leaves the
audio-only mode, it starts a probe and notes where it came from.

Main result: `probes_kept_iff`.

Source: `src/client/lib/qos/controller.js`, `src/client/lib/qos/probe.js`,
`src/client/lib/qos/profiles.js`.
-/

namespace MediasoupCpp

open List Runs Option

/-! ### Probes -/

structure ProbeContext where
  active : Bool
  startedAtMs : ℤ
  previousLevel : ℤ
  targetLevel : ℤ
  previousAudioOnlyMode : Bool
  targetAudioOnlyMode : Bool
  healthySamples : ℕ
  badSamples : ℕ
  requiredHealthySamples : ℕ
  requiredBadSamples : ℕ
  deriving DecidableEq

open ProbeContext

def beginProbe (previousLevel targetLevel startedAtMs : ℤ)
    (previousAudioOnlyMode targetAudioOnlyMode : Bool) (requiredHealthySamples : ℕ := 3)
    (requiredBadSamples : ℕ := 2) : ProbeContext where
  active := true
  startedAtMs := startedAtMs
  previousLevel := previousLevel
  targetLevel := targetLevel
  previousAudioOnlyMode := previousAudioOnlyMode
  targetAudioOnlyMode := targetAudioOnlyMode
  healthySamples := 0
  badSamples := 0
  requiredHealthySamples := max 1 requiredHealthySamples
  requiredBadSamples := max 1 requiredBadSamples

variable (signals : DerivedQosSignals) (profile : PublishProfile)

def isProbeHealthy : Bool :=
  isNetworkRecovered signals profile

def isProbeBad : Bool :=
  signals.bandwidthLimited ||
    profile.thresholds.congestedLossRate ≤ signals.lossEwma ||
    profile.thresholds.congestedRttMs ≤ signals.rttEwma ||
    signals.cpuLimited

inductive ProbeResult
  | successful
  | failed
  | inconclusive
  deriving DecidableEq

/-- The probe after a sample.  What is neither healthy nor bad leaves it as it is. -/
def ProbeContext.count (context : ProbeContext) (signals : DerivedQosSignals)
    (profile : PublishProfile) : ProbeContext :=
  if isProbeHealthy signals profile then
    { context with healthySamples := context.healthySamples + 1, badSamples := 0 }
  else if isProbeBad signals profile then
    { context with healthySamples := 0, badSamples := context.badSamples + 1 }
  else context

def evaluateProbe (context : ProbeContext) (signals : DerivedQosSignals)
    (profile : PublishProfile) : Option ProbeContext × ProbeResult :=
  if context.active then
    let nextContext := context.count signals profile
    if max 1 nextContext.requiredBadSamples ≤ nextContext.badSamples then
      (some nextContext, .failed)
    else if max 1 nextContext.requiredHealthySamples ≤ nextContext.healthySamples then
      (some nextContext, .successful)
    else (some nextContext, .inconclusive)
  else (none, .inconclusive)

def isStrongRecoverySignal : Bool :=
  isFastRecoveryHealthy signals profile

/-! ### The controller -/

structure CoordinationOverride where
  maxLevelClamp : Option ℕ := none
  disableRecovery : Bool := false
  forceAudioOnly : Bool := false
  pauseUpstream : Bool := false
  resumeUpstream : Bool := false
  deriving DecidableEq

def CoordinationOverride.flag (override : CoordinationOverride) : OverrideFlag → Bool
  | .forceAudioOnly => override.forceAudioOnly
  | .disableRecovery => override.disableRecovery
  | .pauseUpstream => override.pauseUpstream
  | .resumeUpstream => override.resumeUpstream

structure CoordinationRequest where
  maxLevelClamp : Option ℚ := none
  disableRecovery : Bool := false
  forceAudioOnly : Bool := false
  pauseUpstream : Bool := false
  resumeUpstream : Bool := false

structure QosPolicy where
  sampleIntervalMs : ℤ
  snapshotIntervalMs : ℤ
  allowAudioOnly : Bool
  allowVideoPause : Bool
  /-- The name of the profile for each source. -/
  profiles : Option (QosSource → String) := none

def resolveProfileByName (source : QosSource) (name : String) : Option PublishProfile :=
  match source with
  | .camera =>
    if name = "default" then some getDefaultCameraProfile
    else if name = "conservative" then some getConservativeCameraProfile
    else none
  | .screenShare =>
    if name = "default" ∨ name = "clarity-first" then some getDefaultScreenShareProfile else none
  | .audio =>
    if name = "default" ∨ name = "speech-first" then some getDefaultAudioProfile else none

structure PublisherControl where
  profile : PublishProfile
  trackId : String
  currentLevel : ℤ := 0
  inAudioOnlyMode : Bool := false
  sampleIntervalMs : ℤ
  snapshotIntervalMs : ℤ
  allowAudioOnly : Bool := true
  allowVideoPause : Bool := true
  stateContext : QosStateMachineContext
  probeContext : Option ProbeContext := none
  activeOverrides : ActiveOverrides := ∅
  coordinationOverride : Option CoordinationOverride := none
  recoveryProbeSuccessStreak : ℕ := 0
  recoveryProbeGraceUntilMs : Option ℤ := none
  recoverySuppressedUntilMs : Option ℤ := none
  cpuSampleCount : ℕ := 0
  previousSnapshot : Option RawSenderSnapshot := none
  previousSignals : Option DerivedQosSignals := none

structure ControllerOptions where
  profile : PublishProfile
  trackId : String
  initialLevel : ℚ := 0
  initialAudioOnlyMode : Bool := false
  sampleIntervalMs : Option ℤ := none
  snapshotIntervalMs : Option ℤ := none
  allowAudioOnly : Bool := true
  allowVideoPause : Bool := true

inductive ExecutorOutcome
  | applied
  | notApplied
  | threw
  deriving DecidableEq

namespace PublisherControl

def create (options : ControllerOptions) (nowMs : ℤ) : PublisherControl where
  profile := options.profile
  trackId := options.trackId
  currentLevel := max 0 options.initialLevel.floor
  inAudioOnlyMode := options.initialAudioOnlyMode
  sampleIntervalMs := options.sampleIntervalMs.getD options.profile.sampleIntervalMs
  snapshotIntervalMs := options.snapshotIntervalMs.getD options.profile.snapshotIntervalMs
  allowAudioOnly := options.allowAudioOnly
  allowVideoPause := options.allowVideoPause
  stateContext := createInitialQosStateMachineContext nowMs

variable (c : PublisherControl)

/-! ### Overrides, policies and coordination -/

def handleOverride (nowMs : ℤ) (override : ClientOverride) : PublisherControl :=
  { c with activeOverrides := c.activeOverrides.handleOverride nowMs c.trackId override }

def setCoordinationOverride (request : Option CoordinationRequest) : PublisherControl :=
  match request with
  | none => { c with coordinationOverride := none }
  | some request =>
    let normalized : CoordinationOverride :=
      { maxLevelClamp := request.maxLevelClamp.map fun clamp => clamp.floor.toNat
        disableRecovery := request.disableRecovery
        forceAudioOnly := request.forceAudioOnly
        pauseUpstream := request.pauseUpstream
        resumeUpstream := request.resumeUpstream }
    -- an override that wants nothing is none
    { c with coordinationOverride := if normalized = {} then none else some normalized }

/-- A policy comes in.  The sampler does not take an interval that is not positive: it throws, and
the profile stays. -/
def handlePolicy (policy : QosPolicy) : PublisherControl :=
  let c :=
    { c with
      sampleIntervalMs := policy.sampleIntervalMs
      snapshotIntervalMs := policy.snapshotIntervalMs
      allowAudioOnly := policy.allowAudioOnly
      allowVideoPause := policy.allowVideoPause }
  if policy.sampleIntervalMs ≤ 0 then c
  else
    match policy.profiles with
    | none => c
    | some profiles =>
      let profileName := profiles c.profile.source
      if profileName = "" ∨ profileName = c.profile.name then c
      else
        match resolveProfileByName c.profile.source profileName with
        | none => c
        | some resolved => { c with profile := resolved }

variable (override : Option ClientOverride)

def flagActive (flag : OverrideFlag) : Bool :=
  (override.any fun override => override.flag flag = some true) ||
    c.coordinationOverride.any fun override => override.flag flag

/-! ### The signals of a sample -/

def capJitter (signals : DerivedQosSignals) : DerivedQosSignals :=
  { signals with
    jitterEwma :=
      match c.profile.thresholds.stableJitterMs with
      | some stable => min signals.jitterEwma (max 0 (stable - 1 / 1000))
      | none => signals.jitterEwma }

def getTransitionSignals (signals : DerivedQosSignals) (override : Option ClientOverride)
    (nowMs : ℤ) : DerivedQosSignals :=
  let networkRecovered := isNetworkRecovered signals c.profile
  let probing := c.probeContext.any ProbeContext.active
  let graceActive := c.recoveryProbeGraceUntilMs.any fun untilMs => nowMs < untilMs
  let transitionSignals :=
    if (probing || graceActive) && networkRecovered then c.capJitter signals else signals
  if !c.inAudioOnlyMode || c.stateContext.state ≠ .congested then transitionSignals
  else if c.flagActive override .forceAudioOnly then transitionSignals
  else if !networkRecovered then transitionSignals
  else
    { c.capJitter transitionSignals with
      bitrateUtilization :=
        max transitionSignals.bitrateUtilization c.profile.thresholds.stableBitrateUtilization }

def overrideAt (nowMs : ℤ) : Option ClientOverride := c.activeOverrides.getActiveOverride nowMs

variable (snapshot : RawSenderSnapshot)

def countCpu : ℕ :=
  if snapshot.qualityLimitationReason = some .cpu then c.cpuSampleCount + 1 else 0

def signalsOf (nowMs : ℤ) : DerivedQosSignals :=
  deriveSignals snapshot c.previousSnapshot c.previousSignals
    { activeOverride := (c.overrideAt nowMs).isSome, cpuSampleCount := c.countCpu snapshot }

def observe (nowMs : ℤ) : PublisherControl :=
  let transitionSignals :=
    c.getTransitionSignals (c.signalsOf snapshot nowMs) (c.overrideAt nowMs) nowMs
  { c with
    activeOverrides := c.activeOverrides.purge nowMs
    cpuSampleCount := c.countCpu snapshot
    stateContext :=
      (evaluateStateTransition c.stateContext transitionSignals c.profile nowMs).context }

/-! ### Planning -/

def audioOnlyAllowed : Bool := c.allowAudioOnly && c.allowVideoPause

def maxLevel : ℤ := resolveMaxLevel c.profile.toQosProfile

def plannerInput (state : QosState) (overrideClampLevel : Option ℤ) : PlannerInput where
  source := c.profile.source
  profile := c.profile.toQosProfile
  state := state
  currentLevel := c.currentLevel
  overrideClampLevel := overrideClampLevel
  inAudioOnlyMode := c.inAudioOnlyMode

def recoveryDisabled (nowMs : ℤ) : Bool :=
  c.flagActive override .disableRecovery ||
    c.recoverySuppressedUntilMs.any fun untilMs => nowMs < untilMs

def plannedActions (nowMs : ℤ) : List QosAction :=
  let clamp := combinedClampLevel override
    (c.coordinationOverride.bind CoordinationOverride.maxLevelClamp)
  if c.probeContext.any ProbeContext.active then
    [.noop c.currentLevel (some "probe-in-progress")]
  else if c.stateContext.state = .recovering ∧ c.recoveryDisabled override nowMs = false then
    planRecovery (c.plannerInput c.stateContext.state clamp)
  else
    planActions (c.plannerInput
      (if c.stateContext.state = .recovering then .earlyWarning else c.stateContext.state) clamp)

end PublisherControl

def QosAction.switchesMode : QosAction → Bool
  | .enterAudioOnly _ | .exitAudioOnly _ => true
  | _ => false

open QosAction

def QosAction.isExit : QosAction → Bool
  | .exitAudioOnly _ => true
  | _ => false

namespace PublisherControl

variable (c : PublisherControl)

def filterActions (actions : List QosAction) (override : Option ClientOverride) :
    List QosAction :=
  let camera := decide (c.profile.source = .camera)
  let pauseUpstreamActive := c.flagActive override .pauseUpstream
  let resumeUpstreamActive := c.flagActive override .resumeUpstream
  let forceAudioOnlyActive := c.flagActive override .forceAudioOnly
  let filtered := actions.filter fun a => !(a.switchesMode && !c.audioOnlyAllowed)
  let filtered :=
    if pauseUpstreamActive && !c.inAudioOnlyMode && camera && c.audioOnlyAllowed then
      .enterAudioOnly c.currentLevel :: filtered else filtered
  let filtered :=
    if resumeUpstreamActive && c.inAudioOnlyMode && camera && c.audioOnlyAllowed &&
        !pauseUpstreamActive then
      .exitAudioOnly c.currentLevel :: filtered else filtered
  let filtered :=
    if c.audioOnlyAllowed && (override.any fun o => o.forceAudioOnly = some true) &&
        !c.inAudioOnlyMode && camera then
      .enterAudioOnly c.currentLevel :: filtered else filtered
  let filtered :=
    if c.audioOnlyAllowed && (c.coordinationOverride.any CoordinationOverride.forceAudioOnly) &&
        !c.inAudioOnlyMode && camera then
      .enterAudioOnly c.currentLevel :: filtered else filtered
  let overrideDrivenAudioOnly := camera && c.inAudioOnlyMode && decide (c.currentLevel < c.maxLevel)
  let filtered :=
    if c.audioOnlyAllowed && overrideDrivenAudioOnly && !forceAudioOnlyActive &&
        !pauseUpstreamActive && !filtered.any QosAction.isExit then
      .exitAudioOnly c.currentLevel :: filtered else filtered
  if filtered.isEmpty then [.noop c.currentLevel (some "filtered-by-policy")] else filtered

/-! ### Executing -/

def applied (a : QosAction) : PublisherControl :=
  { c with currentLevel := a.level, inAudioOnlyMode := a.modeAfter c.inAudioOnlyMode }

def executeEach (outcomes : ℕ → ExecutorOutcome) :
    List QosAction → PublisherControl → PublisherControl
  | [], c => c
  | a :: actions, c =>
    executeEach (fun i => outcomes (i + 1)) actions
      (if a.isNoop || outcomes 0 = .applied then c.applied a else c)

def improved (before after : PublisherControl) (actions : List QosAction) : Bool :=
  (actions.any fun a => !a.isNoop) &&
    (after.currentLevel < before.currentLevel ||
      (before.inAudioOnlyMode && !after.inAudioOnlyMode))

def executeActions (actions : List QosAction) (signals : DerivedQosSignals) (nowMs : ℤ)
    (outcomes : ℕ → ExecutorOutcome) : PublisherControl :=
  let after := executeEach outcomes actions c
  if improved c after actions then
    let requiredHealthySamples :=
      if 0 < after.recoveryProbeSuccessStreak && isStrongRecoverySignal signals after.profile
      then 2 else 3
    { after with
      probeContext := some (beginProbe c.currentLevel after.currentLevel nowMs c.inAudioOnlyMode
        after.inAudioOnlyMode requiredHealthySamples) }
  else after

def act (snapshot : RawSenderSnapshot) (signals : DerivedQosSignals)
    (override : Option ClientOverride) (nowMs : ℤ) (outcomes : ℕ → ExecutorOutcome) :
    PublisherControl :=
  let c :=
    if !c.probeContext.any ProbeContext.active &&
        (c.stateContext.state = .congested || c.currentLevel = 0) then
      { c with recoveryProbeSuccessStreak := 0 }
    else c
  let actions := c.filterActions (c.plannedActions override nowMs) override
  let c := c.executeActions actions signals nowMs outcomes
  { c with previousSnapshot := some snapshot, previousSignals := some signals }

/-! ### Rolling back -/

def revertActions (probe : ProbeContext) : List QosAction :=
  planActionsForLevel (c.plannerInput .congested none) probe.previousLevel

def rollbackEach (outcomes : ℕ → ExecutorOutcome) :
    List QosAction → PublisherControl → PublisherControl × Bool
  | [], c => (c, true)
  | a :: actions, c =>
    match outcomes 0 with
    | .threw => (c, false)
    | .applied => rollbackEach (fun i => outcomes (i + 1)) actions (c.applied a)
    | .notApplied => rollbackEach (fun i => outcomes (i + 1)) actions c

/-- A failed probe is rolled back.  An exception of the executor leaves the sample: the probe stays
under way. -/
def rollbackProbe (probe : ProbeContext) (nowMs : ℤ) (outcomes : ℕ → ExecutorOutcome) :
    PublisherControl :=
  match rollbackEach outcomes (c.revertActions probe) c with
  | (c, false) => c
  | (c, true) =>
    { c with
      stateContext :=
        { c.stateContext with
          state := .congested
          enteredAtMs := nowMs
          lastCongestedAtMs := some nowMs }
      probeContext := none
      recoveryProbeSuccessStreak := 0
      recoveryProbeGraceUntilMs := none
      recoverySuppressedUntilMs := some (nowMs + c.profile.recoveryCooldownMs) }

def completeProbe (stateBefore : QosState) (signals : DerivedQosSignals)
    (context : Option ProbeContext) (nowMs : ℤ) : PublisherControl :=
  let strongRecoveryProbe :=
    isStrongRecoverySignal signals c.profile && context.all (fun probe => probe.badSamples = 0) &&
      (stateBefore = .recovering || c.stateContext.state = .recovering ||
        0 < c.recoveryProbeSuccessStreak) &&
      0 < c.currentLevel
  { c with
    recoveryProbeSuccessStreak :=
      if strongRecoveryProbe then c.recoveryProbeSuccessStreak + 1 else 0
    recoveryProbeGraceUntilMs :=
      if strongRecoveryProbe then some (nowMs + c.sampleIntervalMs * 3) else none
    probeContext := none }

def processSample (snapshot : RawSenderSnapshot) (nowMs : ℤ) (outcomes : ℕ → ExecutorOutcome) :
    PublisherControl :=
  let override := c.overrideAt nowMs
  let signals := c.signalsOf snapshot nowMs
  let observed := c.observe snapshot nowMs
  match c.probeContext with
  | none => observed.act snapshot signals override nowMs outcomes
  | some probe =>
    match evaluateProbe probe signals c.profile with
    | (_, .failed) => observed.rollbackProbe probe nowMs outcomes
    | (context, .successful) =>
      (observed.completeProbe c.stateContext.state signals context nowMs).act snapshot signals
        override nowMs outcomes
    | (context, .inconclusive) =>
      { observed with probeContext := context }.act snapshot signals override nowMs outcomes

end PublisherControl

/-! ### Runs -/

inductive PublisherEvent
  | sample (snapshot : RawSenderSnapshot) (nowMs : ℤ) (outcomes : ℕ → ExecutorOutcome)
  | override (nowMs : ℤ) (override : ClientOverride)
  | policy (policy : QosPolicy)
  | coordination (request : Option CoordinationRequest)

namespace PublisherControl

variable (c : PublisherControl)

def step : PublisherEvent → PublisherControl
  | .sample snapshot nowMs outcomes => c.processSample snapshot nowMs outcomes
  | .override nowMs override => c.handleOverride nowMs override
  | .policy policy => c.handlePolicy policy
  | .coordination request => c.setCoordinationOverride request

/-! ### Restore points -/

def restorePoint : ℤ × Bool := (c.currentLevel, c.inAudioOnlyMode)

def probing : Option ProbeContext :=
  c.probeContext.filter ProbeContext.active

def verdict (snapshot : RawSenderSnapshot) (nowMs : ℤ) :
    Option ProbeResult :=
  c.probing.map fun probe => (evaluateProbe probe (c.signalsOf snapshot nowMs) c.profile).2

end PublisherControl

def ProbeContext.restorePoint (probe : ProbeContext) : ℤ × Bool :=
  (probe.previousLevel, probe.previousAudioOnlyMode)

namespace PublisherControl

variable (c : PublisherControl)

def RollbackSucceeds (probe : ProbeContext)
    (outcomes : ℕ → ExecutorOutcome) : Prop :=
  ∀ i < (c.revertActions probe).length, outcomes i = .applied

instance (c : PublisherControl) (probe : ProbeContext) (outcomes : ℕ → ExecutorOutcome) :
    Decidable (c.RollbackSucceeds probe outcomes) :=
  inferInstanceAs (Decidable (∀ i < _, _))

/-- What is wanted of a sample: a probe that starts notes where the controller was, a probe that
fails leads back to what it has noted, and what is noted stays while the probe is under way. -/
structure SampleKept (snapshot : RawSenderSnapshot) (nowMs : ℤ)
    (outcomes : ℕ → ExecutorOutcome) : Prop where
  records : c.verdict snapshot nowMs = none ∨ c.verdict snapshot nowMs = some .successful →
    ∀ probe ∈ (c.processSample snapshot nowMs outcomes).probing,
      probe.restorePoint = c.restorePoint
  restores : ∀ probe ∈ c.probing, c.verdict snapshot nowMs = some .failed →
    c.RollbackSucceeds probe outcomes →
      (c.processSample snapshot nowMs outcomes).restorePoint = probe.restorePoint
  keeps : ∀ probe ∈ c.probing, c.verdict snapshot nowMs ≠ some .successful →
    ∀ probe' ∈ (c.processSample snapshot nowMs outcomes).probing,
      probe'.restorePoint = probe.restorePoint

/-- What is wanted of a step.  Only samples touch the probe, the level and the mode. -/
def ProbeKept : PublisherEvent → Prop
  | .sample snapshot nowMs outcomes => c.SampleKept snapshot nowMs outcomes
  | e => (c.step e).probeContext = c.probeContext ∧ (c.step e).restorePoint = c.restorePoint

def modeAtLevel (level : ℤ) : Bool :=
  match c.profile.stepAt level with
  | none => c.inAudioOnlyMode
  | some step =>
    if step.enterAudioOnly then true
    else if c.profile.source = .camera ∧ level < clampLevel c.currentLevel c.maxLevel then false
    else c.inAudioOnlyMode

def LeavesAudioOnly (override : Option ClientOverride) : Prop :=
  c.inAudioOnlyMode = true ∧ c.profile.source = .camera ∧ c.audioOnlyAllowed = true ∧
    c.flagActive override .pauseUpstream = false ∧
    (c.flagActive override .resumeUpstream = true ∨
      c.currentLevel < c.maxLevel ∧ c.flagActive override .forceAudioOnly = false)

instance (c : PublisherControl) (override : Option ClientOverride) :
    Decidable (c.LeavesAudioOnly override) :=
  inferInstanceAs (Decidable (_ ∧ _))

/-- A sample that can be gone back from: a failed probe came from a level of the ladder whose
actions lead to the mode it came from, and the audio-only mode is left during a probe only if
that is where the probe came from. -/
structure SampleReversible (snapshot : RawSenderSnapshot)
    (nowMs : ℤ) (outcomes : ℕ → ExecutorOutcome) : Prop where
  rollback : ∀ probe ∈ c.probing, c.verdict snapshot nowMs = some .failed →
    c.RollbackSucceeds probe outcomes →
      0 ≤ probe.previousLevel ∧ probe.previousLevel ≤ c.maxLevel ∧
        c.modeAtLevel probe.previousLevel = probe.previousAudioOnlyMode
  exit : ∀ probe ∈ c.probing, c.verdict snapshot nowMs = some .inconclusive →
    c.LeavesAudioOnly (c.overrideAt nowMs) → outcomes 0 = .applied →
      probe.restorePoint = c.restorePoint

def Reversible : PublisherEvent → Prop
  | .sample snapshot nowMs outcomes => c.SampleReversible snapshot nowMs outcomes
  | _ => True

end PublisherControl

/-! ### The mode after the actions of a level -/

theorem foldl_modeAfter_actions (step : LadderStep) (source : QosSource) (level : ℤ) (mode : Bool) :
    (step.actions source level mode).foldl QosAction.modeAfter mode =
      if step.enterAudioOnly then true else if source = .camera ∧ step.level < level then false
      else mode := by
  have hexit :
      (if source = .camera ∧ step.level < level ∧ mode = true then
          [exitAudioOnly step.level] else []).foldl modeAfter mode =
        if source = .camera ∧ step.level < level then false else mode := by
    by_cases hdown : source = .camera ∧ step.level < level
    · cases mode <;> simp [hdown.1, hdown.2, modeAfter]
    · rw [if_neg (fun h => hdown ⟨h.1, h.2.1⟩), if_neg hdown]
      rfl
  simp only [LadderStep.actions, foldl_append, hexit]
  -- what stands between leaving and entering does not touch the mode
  have hres : ∀ m : Bool, (if step.resumeUpstream then
      [resumeUpstream step.level] else []).foldl modeAfter m = m := by
    intro m
    split <;> rfl
  have hpau : ∀ m : Bool, (if step.pauseUpstream then
      [pauseUpstream step.level] else []).foldl modeAfter m = m := by
    intro m
    split <;> rfl
  rw [hres, hpau]
  cases step.encodingParameters <;> cases step.spatialLayer <;> cases step.enterAudioOnly <;>
    simp [modeAfter]

theorem foldl_modeAfter_stepToActions (step : LadderStep) (source : QosSource) (level : ℤ)
    (mode : Bool) : (stepToActions step source level mode).foldl QosAction.modeAfter mode =
      if step.enterAudioOnly then true else if source = .camera ∧ step.level < level then false
      else mode := by
  rw [← foldl_modeAfter_actions]
  unfold stepToActions
  dsimp only
  split
  next hemp =>
    rw [isEmpty_iff.mp hemp]
    rfl
  · rfl

theorem level_of_mem_actionsForLevel {input : PlannerInput} {targetLevel : ℤ} {a : QosAction}
    (h : a ∈ actionsForLevel input targetLevel) : a.level = targetLevel := by
  rw [actionsForLevel] at h
  split at h
  · obtain rfl := mem_singleton.mp h
    rfl
  next hstep =>
    rw [level_of_mem_stepToActions h, level_of_stepAt hstep]

/-! ### Evaluating a probe -/

theorem ProbeContext.restorePoint_count (probe : ProbeContext) (signals : DerivedQosSignals)
    (profile : PublishProfile) :
    (probe.count signals profile).restorePoint = probe.restorePoint := by
  unfold count
  split_ifs <;> rfl

theorem ProbeContext.active_count (probe : ProbeContext) (signals : DerivedQosSignals)
    (profile : PublishProfile) : (probe.count signals profile).active = probe.active := by
  unfold count
  split_ifs <;> rfl

theorem evaluateProbe_fst {probe : ProbeContext} (hactive : probe.active)
    (signals : DerivedQosSignals) (profile : PublishProfile) :
    (evaluateProbe probe signals profile).1 = some (probe.count signals profile) := by
  simp only [evaluateProbe, hactive, if_true]
  split_ifs <;> rfl

namespace PublisherControl

variable {c : PublisherControl} {snapshot : RawSenderSnapshot}
  {signals : DerivedQosSignals} {override : Option ClientOverride} {nowMs : ℤ}
  {outcomes : ℕ → ExecutorOutcome} {probe : ProbeContext}

theorem probing_eq_some : c.probing = some probe ↔ c.probeContext = some probe ∧ probe.active := by
  simp [probing, filter_eq_some_iff]

theorem verdict_of_probing (h : c.probing = some probe) : c.verdict snapshot nowMs =
      some (evaluateProbe probe (c.signalsOf snapshot nowMs) c.profile).2 := by
  rw [verdict, h]
  rfl

theorem processSample_of_idle (h : c.probing = none) : c.processSample snapshot nowMs outcomes =
      { c.observe snapshot nowMs with probeContext := none }.act snapshot
        (c.signalsOf snapshot nowMs) (c.overrideAt nowMs) nowMs outcomes := by
  unfold processSample
  cases hpr : c.probeContext with
  | none =>
    have hsame : { c.observe snapshot nowMs with probeContext := none } =
        c.observe snapshot nowMs := by
      simp [observe, hpr]
    simp only [hsame]
  | some probe =>
    -- a probe that is not active is dropped
    have hinactive : probe.active = false := by
      simpa [probing, hpr, Option.filter] using h
    simp [evaluateProbe, hinactive]

theorem processSample_of_probing {result : ProbeResult} (h : c.probing = some probe)
    (hverd : c.verdict snapshot nowMs = some result) (outcomes : ℕ → ExecutorOutcome) :
    c.processSample snapshot nowMs outcomes = let signals := c.signalsOf snapshot nowMs
      let counted := some (probe.count signals c.profile)
      match result with
      | .failed => (c.observe snapshot nowMs).rollbackProbe probe nowMs outcomes
      | .successful =>
        ((c.observe snapshot nowMs).completeProbe c.stateContext.state signals counted nowMs).act
          snapshot signals (c.overrideAt nowMs) nowMs outcomes
      | .inconclusive =>
        { c.observe snapshot nowMs with probeContext := counted }.act snapshot signals
          (c.overrideAt nowMs) nowMs outcomes := by
  have hctx := evaluateProbe_fst (probing_eq_some.mp h).2 (c.signalsOf snapshot nowMs)
    c.profile
  rw [verdict_of_probing h, some_inj] at hverd
  unfold processSample
  rw [(probing_eq_some.mp h).1]
  dsimp only
  generalize evaluateProbe probe (c.signalsOf snapshot nowMs) c.profile = evaluation
    at hverd hctx
  obtain ⟨context, result'⟩ := evaluation
  obtain rfl : result' = result := hverd
  obtain rfl : context = _ := hctx
  cases result' <;> rfl

/-! ### Rolling back -/

variable {p : ℤ → Prop}

section

variable (actions : List QosAction) (outcomes : ℕ → ExecutorOutcome) (c : PublisherControl)

theorem rollbackEach_of_applied (h : ∀ i < actions.length, outcomes i = .applied) :
    rollbackEach outcomes actions c = (actions.foldl applied c, true) := by
  induction actions generalizing outcomes c with
  | nil => rfl
  | cons a actions ih =>
    have hfst : outcomes 0 = .applied := h 0 (by simp)
    have hrest : ∀ i < actions.length, outcomes (i + 1) = .applied := by
      intro i hi
      exact h (i + 1) (by simpa using hi)
    rw [rollbackEach, hfst]
    exact ih _ _ hrest

variable (hc : p c.currentLevel) (hlev : ∀ a ∈ actions, p a.level)
include hc hlev

theorem rollbackEach_spec : ∃ level mode, p level ∧ (rollbackEach outcomes actions c).1 =
    { c with currentLevel := level, inAudioOnlyMode := mode } := by
  induction actions generalizing outcomes c with
  | nil => exact ⟨_, c.inAudioOnlyMode, hc, rfl⟩
  | cons a actions ih =>
    rw [forall_mem_cons] at hlev
    rw [rollbackEach]
    split
    · exact ⟨_, c.inAudioOnlyMode, hc, rfl⟩
    · obtain ⟨level, mode, hp, heq⟩ := ih _ (c.applied a) hlev.1 hlev.2
      exact ⟨level, mode, hp, heq⟩
    · exact ih _ c hc hlev.2

theorem executeEach_spec : ∃ level mode, p level ∧ executeEach outcomes actions c =
    { c with currentLevel := level, inAudioOnlyMode := mode } := by
  induction actions generalizing outcomes c with
  | nil => exact ⟨_, c.inAudioOnlyMode, hc, rfl⟩
  | cons a actions ih =>
    rw [forall_mem_cons] at hlev
    rw [executeEach]
    split
    · obtain ⟨level, mode, hp, heq⟩ := ih _ (c.applied a) hlev.1 hlev.2
      exact ⟨level, mode, hp, heq⟩
    · exact ih _ c hc hlev.2

end

theorem restorePoint_foldl_applied {level : ℤ} (actions : List QosAction) (c : PublisherControl)
    (hne : actions ≠ []) (hlev : ∀ a ∈ actions, a.level = level) :
    (actions.foldl applied c).restorePoint =
      (level, actions.foldl QosAction.modeAfter c.inAudioOnlyMode) := by
  induction actions generalizing c with
  | nil => exact absurd rfl hne
  | cons a actions ih =>
    rw [foldl_cons, foldl_cons]
    cases actions with
    | nil => rw [foldl_nil, foldl_nil, ← hlev a mem_cons_self]; rfl
    | cons b actions =>
      exact ih _ (cons_ne_nil _ _) fun a' ha' => hlev a' (mem_cons_of_mem _ ha')

theorem foldl_modeAfter_revertActions :
    (c.revertActions probe).foldl QosAction.modeAfter c.inAudioOnlyMode =
      c.modeAtLevel (clampLevel probe.previousLevel c.maxLevel) := by
  unfold revertActions planActionsForLevel actionsForLevel modeAtLevel
  dsimp only [plannerInput]
  change (match c.profile.stepAt (clampLevel probe.previousLevel c.maxLevel) with
    | none => _
    | some step => _ : List QosAction).foldl _ _ = _
  cases hstep : c.profile.stepAt (clampLevel probe.previousLevel c.maxLevel) with
  | none => rfl
  | some step =>
    rw [foldl_modeAfter_stepToActions, level_of_stepAt hstep]
    rfl

theorem restorePoint_rollbackProbe (h : c.RollbackSucceeds probe outcomes) :
    (c.rollbackProbe probe nowMs outcomes).restorePoint =
      (clampLevel probe.previousLevel c.maxLevel,
        c.modeAtLevel (clampLevel probe.previousLevel c.maxLevel)) := by
  have hpoint : ((c.revertActions probe).foldl applied c).restorePoint =
      (clampLevel probe.previousLevel c.maxLevel,
        (c.revertActions probe).foldl modeAfter c.inAudioOnlyMode) := by
    apply restorePoint_foldl_applied
    · exact actionsForLevel_ne_nil _ _
    · intro a ha
      exact level_of_mem_actionsForLevel ha
  rw [foldl_modeAfter_revertActions] at hpoint
  rw [rollbackProbe, rollbackEach_of_applied _ _ _ h, ← hpoint]
  rfl

theorem probeContext_rollbackProbe : (c.rollbackProbe probe nowMs outcomes).probeContext = none ∨
      (c.rollbackProbe probe nowMs outcomes).probeContext = c.probeContext := by
  have hctx : (rollbackEach outcomes (c.revertActions probe) c).1.probeContext =
      c.probeContext := by
    obtain ⟨_, _, -, heq⟩ := rollbackEach_spec (p := fun _ => True) (c.revertActions probe) outcomes
      c trivial fun _ _ => trivial
    rw [heq]
  unfold rollbackProbe
  generalize rollbackEach outcomes (c.revertActions probe) c = rolled at hctx
  obtain ⟨_, completed⟩ := rolled
  cases completed with
  | false => exact .inr hctx
  | true => exact .inl rfl

/-! ### Acting -/

theorem probing_executeActions (actions : List QosAction) :
    ((c.executeActions actions signals nowMs outcomes).probing).map ProbeContext.restorePoint =
      if improved c (executeEach outcomes actions c) actions then some c.restorePoint
      else c.probing.map ProbeContext.restorePoint := by
  unfold executeActions
  dsimp only
  split
  · rfl
  obtain ⟨_, _, -, heq⟩ := executeEach_spec (p := fun _ => True) actions outcomes c trivial
    fun _ _ => trivial
  rw [heq]
  rfl

theorem filterActions_noop (hmode : c.inAudioOnlyMode) (reason : Option String) :
    c.filterActions [.noop c.currentLevel reason] override = if c.LeavesAudioOnly override then
        [.exitAudioOnly c.currentLevel, .noop c.currentLevel reason]
      else [.noop c.currentLevel reason] := by
  rcases eq_or_ne c.profile.source .camera with hcamera | hcamera
  · rcases Bool.eq_false_or_eq_true c.audioOnlyAllowed with hallow | hallow
    · rcases Bool.eq_false_or_eq_true (c.flagActive override .pauseUpstream) with hpau | hpau
      · simp [filterActions, LeavesAudioOnly, hmode, hpau, switchesMode]
      -- a camera that may leave the mode does so once, for one reason or the other
      rcases Bool.eq_false_or_eq_true (c.flagActive override .resumeUpstream) with
          hres | hres <;>
        rcases Bool.eq_false_or_eq_true (c.flagActive override .forceAudioOnly) with
          hfrc | hfrc <;>
        by_cases hlev : c.currentLevel < c.maxLevel <;>
        simp [filterActions, LeavesAudioOnly, hmode, hcamera, hallow, hpau, hres, hfrc,
          hlev, switchesMode, isExit]
    · simp [filterActions, LeavesAudioOnly, hallow, switchesMode]
  · simp [filterActions, LeavesAudioOnly, hcamera, switchesMode]

theorem forall_level_ite_cons {q : Prop} [Decidable q] {a : QosAction}
    {actions : List QosAction} (ha : p a.level) (h : ∀ b ∈ actions, p b.level) :
    ∀ b ∈ (if q then a :: actions else actions), p b.level := by
  split
  · exact forall_mem_cons.mpr ⟨ha, h⟩
  · exact h

theorem level_of_mem_filterActions {actions : List QosAction}
    (hc : p c.currentLevel) (h : ∀ a ∈ actions, p a.level) :
    ∀ a ∈ c.filterActions actions override, p a.level := by
  have hdefault : ∀ actions : List QosAction, (∀ a ∈ actions, p a.level) →
      ∀ a ∈ (if actions.isEmpty then [.noop c.currentLevel (some "filtered-by-policy")]
        else actions), p a.level := by
    intro actions h a ha
    split at ha
    · obtain rfl := mem_singleton.mp ha
      exact hc
    · exact h a ha
  -- the five places where something is put in front, from the last to the first
  apply hdefault
  iterate 5 refine forall_level_ite_cons (p := p) hc ?_
  exact fun a ha => h a (mem_of_mem_filter ha)

theorem improved_noop (reason : Option String) : improved c (executeEach outcomes
        (c.filterActions [.noop c.currentLevel reason] override) c)
        (c.filterActions [.noop c.currentLevel reason] override) ↔
      c.LeavesAudioOnly override ∧ outcomes 0 = .applied := by
  have hlev : (executeEach outcomes (c.filterActions [.noop c.currentLevel reason] override)
      c).currentLevel = c.currentLevel := by
    have hnoop : ∀ a ∈ [noop c.currentLevel reason], a.level = c.currentLevel := by
      simp [level]
    obtain ⟨level, _, hlev, heq⟩ := executeEach_spec (p := (· = c.currentLevel))
      (c.filterActions [.noop c.currentLevel reason] override) outcomes c rfl
      (level_of_mem_filterActions (p := (· = c.currentLevel)) rfl hnoop)
    rw [heq]
    exact hlev
  unfold improved
  rw [hlev]
  cases hmode : c.inAudioOnlyMode with
  | false =>
    have hstay : ¬c.LeavesAudioOnly override := by
      intro hleav
      exact absurd hleav.1 (by simp [hmode])
    simp [hstay]
  | true =>
    rw [filterActions_noop hmode]
    by_cases hleav : c.LeavesAudioOnly override
    · by_cases hout : outcomes 0 = .applied <;>
        simp [hleav, hout, executeEach, isNoop, applied, modeAfter, hmode]
    · simp [hleav, isNoop]

theorem restorePoint_act_of_idle (h : c.probeContext = none) :
    ∀ probe ∈ (c.act snapshot signals override nowMs outcomes).probing,
      probe.restorePoint = c.restorePoint := by
  intro probe hpr
  unfold act at hpr
  -- forgetting the streak touches neither the probe nor the restore point
  generalize hreset : (if (!c.probeContext.any ProbeContext.active &&
      (decide (c.stateContext.state = .congested) || decide (c.currentLevel = 0))) = true then
      { c with recoveryProbeSuccessStreak := 0 } else c) = c' at hpr
  have hctx : c'.probing = none := by
    rw [← hreset]
    split <;> simp [probing, h]
  have hpoint : c'.restorePoint = c.restorePoint := by
    rw [← hreset]
    split <;> rfl
  have hmap := @probing_executeActions c' signals nowMs outcomes
    (c'.filterActions (c'.plannedActions override nowMs) override)
  rw [hctx, hpoint] at hmap
  have hnew : ((c'.executeActions (c'.filterActions (c'.plannedActions override nowMs) override)
      signals nowMs outcomes).probing).map ProbeContext.restorePoint = some probe.restorePoint := by
    rw [mem_def] at hpr
    exact congrArg (Option.map ProbeContext.restorePoint) hpr
  rw [hnew] at hmap
  split at hmap
  · exact some_inj.mp hmap
  · cases hmap

theorem restorePoint_act_of_probing (h : c.probing = some probe) :
    ((c.act snapshot signals override nowMs outcomes).probing).map ProbeContext.restorePoint =
      some (if c.LeavesAudioOnly override ∧ outcomes 0 = .applied then c.restorePoint
        else probe.restorePoint) := by
  obtain ⟨hctx, hactive⟩ := probing_eq_some.mp h
  have hany : c.probeContext.any active := by
    rw [hctx]
    exact hactive
  have hplan : c.plannedActions override nowMs =
      [.noop c.currentLevel (some "probe-in-progress")] := by
    unfold plannedActions
    rw [if_pos hany]
  have hact : (c.act snapshot signals override nowMs outcomes).probing =
      (c.executeActions (c.filterActions [.noop c.currentLevel (some "probe-in-progress")] override)
        signals nowMs outcomes).probing := by
    unfold act
    simp only [hany, Bool.not_true, Bool.false_and, Bool.false_eq_true, if_false, hplan]
    rfl
  rw [hact, probing_executeActions, h]
  by_cases hleav : c.LeavesAudioOnly override ∧ outcomes 0 = .applied
  · rw [if_pos ((improved_noop _).mpr hleav), if_pos hleav]
  · rw [if_neg (fun himp => hleav ((improved_noop _).mp himp)), if_neg hleav]
    rfl

/-! ### Samples and runs -/

theorem clampLevel_eq_self_iff {level maxLevel : ℤ} (hmax : 0 ≤ maxLevel) :
    clampLevel level maxLevel = level ↔ 0 ≤ level ∧ level ≤ maxLevel := by
  constructor
  · intro h
    rw [← h]
    exact ⟨clampLevel_nonneg hmax, clampLevel_le hmax⟩
  · intro h
    exact clampLevel_of_mem h.1 h.2

theorem records_of_idle
    (h : c.verdict snapshot nowMs = none ∨ c.verdict snapshot nowMs = some .successful) :
    ∀ probe ∈ (c.processSample snapshot nowMs outcomes).probing,
      probe.restorePoint = c.restorePoint := by
  cases hprob : c.probing with
  | none =>
    rw [processSample_of_idle hprob]
    exact restorePoint_act_of_idle rfl
  | some probe =>
    rcases h with h | h
    · rw [verdict_of_probing hprob] at h
      cases h
    · rw [processSample_of_probing hprob h]
      exact restorePoint_act_of_idle rfl

section

variable (hprob : c.probing = some probe)
include hprob

theorem restores_iff (hverd : c.verdict snapshot nowMs = some .failed)
    (hsucc : c.RollbackSucceeds probe outcomes) :
    (c.processSample snapshot nowMs outcomes).restorePoint = probe.restorePoint ↔
      0 ≤ probe.previousLevel ∧ probe.previousLevel ≤ c.maxLevel ∧
        c.modeAtLevel probe.previousLevel = probe.previousAudioOnlyMode := by
  -- observing the sample has touched neither the level nor the mode nor the profile
  have hpoint : (c.processSample snapshot nowMs outcomes).restorePoint =
      (clampLevel probe.previousLevel c.maxLevel,
        c.modeAtLevel (clampLevel probe.previousLevel c.maxLevel)) := by
    rw [processSample_of_probing hprob hverd]
    exact @restorePoint_rollbackProbe (c.observe snapshot nowMs) nowMs outcomes probe hsucc
  have hmax : 0 ≤ c.maxLevel := resolveMaxLevel_nonneg _
  rw [hpoint, ProbeContext.restorePoint, Prod.mk_inj, ← and_assoc, ← clampLevel_eq_self_iff hmax]
  constructor
  · rintro ⟨hlev, hmode⟩
    rw [hlev] at hmode
    exact ⟨hlev, hmode⟩
  · rintro ⟨hlev, hmode⟩
    rw [hlev]
    exact ⟨rfl, hmode⟩

theorem keeps_of_failed (hverd : c.verdict snapshot nowMs = some .failed) :
    ∀ probe' ∈ (c.processSample snapshot nowMs outcomes).probing,
      probe'.restorePoint = probe.restorePoint := by
  intro probe' hpr'
  rw [processSample_of_probing hprob hverd, mem_def, probing_eq_some] at hpr'
  rcases @probeContext_rollbackProbe (c.observe snapshot nowMs) nowMs outcomes probe with
    hended | hsame
  · rw [hended] at hpr'
    cases hpr'.1
  rw [hsame] at hpr'
  have hold : c.probeContext = some probe' := hpr'.1
  rw [(probing_eq_some.mp hprob).1, some_inj] at hold
  rw [hold]

theorem keeps_iff_of_inconclusive (hverd : c.verdict snapshot nowMs = some .inconclusive) :
    (∀ probe' ∈ (c.processSample snapshot nowMs outcomes).probing,
        probe'.restorePoint = probe.restorePoint) ↔
      (c.LeavesAudioOnly (c.overrideAt nowMs) → outcomes 0 = .applied →
        probe.restorePoint = c.restorePoint) := by
  have hcnt : ({ c.observe snapshot nowMs with
      probeContext := some (probe.count (c.signalsOf snapshot nowMs) c.profile) } :
        PublisherControl).probing = some (probe.count (c.signalsOf snapshot nowMs) c.profile) := by
    rw [probing_eq_some, ProbeContext.active_count]
    exact ⟨rfl, (probing_eq_some.mp hprob).2⟩
  have hact : (c.processSample snapshot nowMs outcomes).probing.map ProbeContext.restorePoint =
      some (if c.LeavesAudioOnly (c.overrideAt nowMs) ∧ outcomes 0 = .applied then c.restorePoint
        else probe.restorePoint) := by
    rw [processSample_of_probing hprob hverd]
    rw [restorePoint_act_of_probing hcnt, ProbeContext.restorePoint_count]
    rfl
  obtain ⟨probe', hpr', hpoint⟩ := map_eq_some_iff.mp hact
  have hforall : (∀ probe' ∈ (c.processSample snapshot nowMs outcomes).probing,
      probe'.restorePoint = probe.restorePoint) ↔ probe'.restorePoint = probe.restorePoint := by
    simp [hpr']
  rw [hforall, hpoint]
  by_cases hleav : c.LeavesAudioOnly (c.overrideAt nowMs) ∧ outcomes 0 = .applied
  · rw [if_pos hleav]
    constructor
    · intro h _ _
      exact h.symm
    · intro h
      exact (h hleav.1 hleav.2).symm
  · rw [if_neg hleav]
    exact ⟨fun _ hleave hout => absurd ⟨hleave, hout⟩ hleav, fun _ => rfl⟩

end

theorem sampleKept_iff :
    c.SampleKept snapshot nowMs outcomes ↔ c.SampleReversible snapshot nowMs outcomes := by
  constructor
  · intro hkept
    constructor
    · intro probe hpr hverd hsucc
      exact (restores_iff hpr hverd hsucc).mp
        (hkept.restores probe hpr hverd hsucc)
    intro probe hpr hverd
    refine (keeps_iff_of_inconclusive hpr hverd).mp (hkept.keeps probe hpr ?_)
    rw [hverd]
    exact nofun
  · intro hrev
    refine ⟨records_of_idle, ?_, ?_⟩
    · intro probe hpr hverd hsucc
      exact (restores_iff hpr hverd hsucc).mpr
        (hrev.rollback probe hpr hverd hsucc)
    intro probe hpr hnot
    cases hresult : (evaluateProbe probe (c.signalsOf snapshot nowMs) c.profile).2 with
    | successful =>
      rw [verdict_of_probing hpr, hresult] at hnot
      exact absurd rfl hnot
    | failed =>
      have hverd : c.verdict snapshot nowMs = some .failed := by
        rw [verdict_of_probing hpr, hresult]
      exact keeps_of_failed hpr hverd
    | inconclusive =>
      have hverd : c.verdict snapshot nowMs = some .inconclusive := by
        rw [verdict_of_probing hpr, hresult]
      exact (keeps_iff_of_inconclusive hpr hverd).mpr
        (hrev.exit probe hpr hverd)

theorem handlePolicy_frame (policy : QosPolicy) :
    (c.handlePolicy policy).probeContext = c.probeContext ∧
      (c.handlePolicy policy).restorePoint = c.restorePoint := by
  unfold handlePolicy
  dsimp only
  split
  · exact ⟨rfl, rfl⟩
  split
  · exact ⟨rfl, rfl⟩
  split
  · exact ⟨rfl, rfl⟩
  · split <;> exact ⟨rfl, rfl⟩

theorem setCoordinationOverride_frame (request : Option CoordinationRequest) :
    (c.setCoordinationOverride request).probeContext = c.probeContext ∧
      (c.setCoordinationOverride request).restorePoint = c.restorePoint := by
  cases request <;> exact ⟨rfl, rfl⟩

theorem probeKept_iff (e : PublisherEvent) : c.ProbeKept e ↔ c.Reversible e := by
  cases e with
  | sample snapshot nowMs outcomes => exact sampleKept_iff
  | override nowMs override => exact iff_of_true ⟨rfl, rfl⟩ trivial
  | policy policy => exact iff_of_true (handlePolicy_frame policy) trivial
  | coordination request => exact iff_of_true (setCoordinationOverride_frame request) trivial

end PublisherControl

/-- **The probes of a run are kept exactly if every one of its samples can be gone back from.** -/
theorem probes_kept_iff (options : ControllerOptions) (nowMs : ℤ) (es : List PublisherEvent) :
    StepsMeet PublisherControl.step PublisherControl.ProbeKept
        (PublisherControl.create options nowMs) es ↔
      StepsMeet PublisherControl.step PublisherControl.Reversible
        (PublisherControl.create options nowMs) es :=
  stepsMeet_congr (fun _ => True) (fun _ _ _ => trivial)
    (fun _ e _ => PublisherControl.probeKept_iff e) es _ trivial

def idleSample (nowMs : ℤ) : PublisherEvent := .sample {} nowMs fun _ => .applied

def cpuSample (nowMs : ℤ) : PublisherEvent :=
  .sample { qualityLimitationReason := some .cpu } nowMs fun _ => .applied

def lostOverride : ClientOverride where
  scope := .peer
  trackId := some none
  maxLevelClamp := none
  forceAudioOnly := some true
  disableRecovery := some true
  pauseUpstream := none
  resumeUpstream := none
  ttlMs := 15000
  reason := "server_auto_lost"

def defaultCamera : PublisherControl :=
  .create { profile := getDefaultCameraProfile, trackId := "camera" } 0

def lostThenBack : PublisherControl :=
  runFrom PublisherControl.step defaultCamera
    [.override 0 lostOverride, idleSample 1000, idleSample 16000, cpuSample 17000]

def lostWhileProbing : PublisherControl :=
  runFrom PublisherControl.step defaultCamera
    [cpuSample 1000, cpuSample 2000, idleSample 3000, idleSample 4000, idleSample 5000,
      .override 5500 lostOverride, idleSample 6000, .override 6500 (peerClear "server_auto_clear")]

/-- **A camera that does not get back to where it was.**  Its probe came from the audio-only mode
at level 0 and fails; the actions of level 0 succeed, and do not lead into the mode.  Another one
came from level 1; when the audio-only mode is left, it is taken to have come from level 0. -/
theorem failed_probe_not_rolled_back :
    (lostThenBack.probing =
        some { beginProbe 0 0 16000 true false with badSamples := 1 } ∧
      lostThenBack.verdict { qualityLimitationReason := some .cpu } 18000 = some .failed ∧
      lostThenBack.RollbackSucceeds { beginProbe 0 0 16000 true false with badSamples := 1 }
        (fun _ => .applied) ∧
      (lostThenBack.step (cpuSample 18000)).restorePoint = (0, false)) ∧
    lostWhileProbing.probing.map restorePoint = some (1, false) ∧
      lostWhileProbing.verdict {} 7000 = some .inconclusive ∧
      (lostWhileProbing.step (idleSample 7000)).probing.map restorePoint =
        some (0, true) := by
  refine ⟨⟨?_, ?_, ?_, ?_⟩, ?_, ?_, ?_⟩ <;> decide +kernel

end MediasoupCpp
