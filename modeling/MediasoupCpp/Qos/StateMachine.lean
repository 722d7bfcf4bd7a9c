import MediasoupCpp.Lib.Run
import MediasoupCpp.Lib.Streak
import MediasoupCpp.Qos.Signals

/-!
# The state machine of a track

A track is stable, in early warning, congested or recovering.  The machine takes one sample after
the other, counts how many in a row were healthy, good enough to recover, a warning or congested,
and moves when a count is reached; out of congestion it moves only after a cooldown.

Main results: `stateMachine_run`, `recovering_of_congested_iff`.

Source: `src/client/lib/qos/stateMachine.js`, `src/client/lib/qos/profiles.js`,
`docs/uplink-qos-blind-spot-scenario.md`.
-/

namespace MediasoupCpp

/-! ### Profiles -/

structure QosThresholds where
  warnLossRate : ℚ
  congestedLossRate : ℚ
  warnRttMs : ℚ
  congestedRttMs : ℚ
  warnJitterMs : Option ℚ := none
  congestedJitterMs : Option ℚ := none
  warnBitrateUtilization : ℚ
  congestedBitrateUtilization : ℚ
  stableLossRate : ℚ
  stableRttMs : ℚ
  stableJitterMs : Option ℚ := none
  stableBitrateUtilization : ℚ

def defaultThresholds : QosThresholds where
  warnLossRate := 4 / 100
  congestedLossRate := 8 / 100
  warnRttMs := 220
  congestedRttMs := 320
  warnJitterMs := some 30
  congestedJitterMs := some 60
  warnBitrateUtilization := 85 / 100
  congestedBitrateUtilization := 65 / 100
  stableLossRate := 3 / 100
  stableRttMs := 180
  stableJitterMs := some 20
  stableBitrateUtilization := 92 / 100

def conservativeThresholds : QosThresholds :=
  { defaultThresholds with
    warnLossRate := 3 / 100
    congestedLossRate := 6 / 100
    warnRttMs := 180
    congestedRttMs := 260 }

structure PublishProfile extends QosProfile where
  name : String
  sampleIntervalMs : ℤ := 1000
  snapshotIntervalMs : ℤ := 2000
  recoveryCooldownMs : ℤ := 8000
  thresholds : QosThresholds := defaultThresholds

def getDefaultCameraProfile : PublishProfile :=
  { defaultCameraProfile with name := "default-camera" }

def getDefaultScreenShareProfile : PublishProfile :=
  { defaultScreenShareProfile with name := "default-screenshare", recoveryCooldownMs := 10000 }

def getDefaultAudioProfile : PublishProfile :=
  { defaultAudioProfile with name := "default-audio" }

def getConservativeCameraProfile : PublishProfile :=
  { conservativeCameraProfile with
    name := "conservative"
    recoveryCooldownMs := 12000
    thresholds := conservativeThresholds }

/-! ### Judging a sample -/

section Judging

variable (signals : DerivedQosSignals) (profile : PublishProfile)

def reachesThreshold (value : ℚ) (threshold : Option ℚ) : Bool :=
  threshold.any fun limit => limit ≤ value

def belowThreshold (value : ℚ) (threshold : Option ℚ) : Bool :=
  threshold.all fun limit => value < limit

def isWarning : Bool :=
  let thresholds := profile.thresholds
  thresholds.warnLossRate ≤ signals.lossEwma ||
    thresholds.warnRttMs ≤ signals.rttEwma ||
    reachesThreshold signals.jitterEwma thresholds.warnJitterMs ||
    signals.bandwidthLimited || signals.cpuLimited

def isCongested : Bool :=
  let thresholds := profile.thresholds
  signals.bandwidthLimited ||
    thresholds.congestedLossRate ≤ signals.lossEwma ||
    thresholds.congestedRttMs ≤ signals.rttEwma ||
    reachesThreshold signals.jitterEwma thresholds.congestedJitterMs

def isNetworkRecovered : Bool :=
  signals.lossEwma < profile.thresholds.stableLossRate &&
    signals.rttEwma < profile.thresholds.stableRttMs &&
    !signals.bandwidthLimited && !signals.cpuLimited

def isHealthy : Bool :=
  isNetworkRecovered signals profile &&
    belowThreshold signals.jitterEwma profile.thresholds.stableJitterMs

def recoveryJitterMs (thresholds : QosThresholds) : Option ℚ :=
  thresholds.stableJitterMs.map fun stable => max stable (thresholds.warnJitterMs.getD stable)

def isRecoveryHealthy : Bool :=
  isNetworkRecovered signals profile &&
    belowThreshold signals.jitterEwma (recoveryJitterMs profile.thresholds)

def sendReady : Bool :=
  max 0 signals.targetBitrateBps ≤ 0 ||
    max 0 signals.targetBitrateBps * (85 / 100) ≤ signals.sendBitrateBps

def isFastRecoveryHealthy : Bool :=
  isNetworkRecovered signals profile &&
    belowThreshold (max 0 signals.jitterMs) (recoveryJitterMs profile.thresholds) &&
    sendReady signals

end Judging

/-! ### The machine -/

structure QosStateMachineContext where
  state : QosState
  enteredAtMs : ℤ
  lastCongestedAtMs : Option ℤ := none
  lastRecoveryAtMs : Option ℤ := none
  consecutiveHealthySamples : ℕ := 0
  consecutiveRecoverySamples : ℕ := 0
  consecutiveFastRecoverySamples : ℕ := 0
  consecutiveWarningSamples : ℕ := 0
  consecutiveCongestedSamples : ℕ := 0
  deriving DecidableEq

def createInitialQosStateMachineContext (nowMs : ℤ) : QosStateMachineContext where
  state := .stable
  enteredAtMs := nowMs

inductive QosQuality
  | excellent
  | good
  | poor
  | lost
  deriving DecidableEq

def mapStateToQuality (state : QosState) (signals : DerivedQosSignals) : QosQuality :=
  if state = .congested ∧ signals.sendBitrateBps ≤ 0 then .lost
  else
    match state with
    | .stable => .excellent
    | .earlyWarning => .good
    | .congested => .poor
    | .recovering => .good

def nextCounter (current : ℕ) (matched : Bool) : ℕ := Streak.next current matched

namespace QosStateMachineContext

variable (context : QosStateMachineContext)

def count (signals : DerivedQosSignals) (profile : PublishProfile) : QosStateMachineContext :=
  let recoveryHealthy := isRecoveryHealthy signals profile
  { context with
    consecutiveHealthySamples :=
      nextCounter context.consecutiveHealthySamples (isHealthy signals profile)
    consecutiveRecoverySamples := nextCounter context.consecutiveRecoverySamples recoveryHealthy
    consecutiveFastRecoverySamples :=
      nextCounter context.consecutiveFastRecoverySamples
        (!recoveryHealthy && isFastRecoveryHealthy signals profile)
    consecutiveWarningSamples :=
      nextCounter context.consecutiveWarningSamples (isWarning signals profile)
    consecutiveCongestedSamples :=
      nextCounter context.consecutiveCongestedSamples (isCongested signals profile) }

def cooldownElapsed (profile : PublishProfile) (nowMs : ℤ) : Bool :=
  profile.recoveryCooldownMs ≤ nowMs - context.lastCongestedAtMs.getD context.enteredAtMs

def nextState (profile : PublishProfile) (nowMs : ℤ) : QosState :=
  match context.state with
  | .stable => if 2 ≤ context.consecutiveWarningSamples then .earlyWarning else .stable
  | .earlyWarning =>
    if 2 ≤ context.consecutiveCongestedSamples then .congested
    else if 3 ≤ context.consecutiveHealthySamples then .stable
    else .earlyWarning
  | .congested =>
    if context.cooldownElapsed profile nowMs = true ∧
        (5 ≤ context.consecutiveRecoverySamples ∨ 2 ≤ context.consecutiveFastRecoverySamples) then
      .recovering
    else .congested
  | .recovering =>
    if 2 ≤ context.consecutiveCongestedSamples then .congested
    else if 5 ≤ context.consecutiveHealthySamples then .stable
    else .recovering

def enter (state : QosState) (nowMs : ℤ) : QosStateMachineContext :=
  { context with
    state := state
    enteredAtMs := nowMs
    lastCongestedAtMs := if state = .congested then some nowMs else context.lastCongestedAtMs
    lastRecoveryAtMs := if state = .recovering then some nowMs else context.lastRecoveryAtMs }

end QosStateMachineContext

open QosStateMachineContext Streak Runs

structure QosStateTransitionResult where
  context : QosStateMachineContext
  quality : QosQuality
  transitioned : Bool

def evaluateStateTransition (context : QosStateMachineContext) (signals : DerivedQosSignals)
    (profile : PublishProfile) (nowMs : ℤ) : QosStateTransitionResult :=
  let counted := context.count signals profile
  let nextState := counted.nextState profile nowMs
  let transitioned := decide (nextState ≠ context.state)
  let nextContext := if transitioned then counted.enter nextState nowMs else counted
  { context := nextContext
    quality := mapStateToQuality nextContext.state signals
    transitioned := transitioned }

theorem state_evaluateStateTransition (context : QosStateMachineContext)
    (signals : DerivedQosSignals) (profile : PublishProfile) (nowMs : ℤ) :
    (evaluateStateTransition context signals profile nowMs).context.state =
      (context.count signals profile).nextState profile nowMs := by
  simp only [evaluateStateTransition, decide_eq_true_eq]
  split
  · rfl
  next hsame =>
    exact (not_not.mp hsame).symm

/-! ### Runs -/

structure QosSample where
  signals : DerivedQosSignals
  nowMs : ℤ

section Runs

variable (profile : PublishProfile)

def stateMachineStep (context : QosStateMachineContext) (sample : QosSample) :
    QosStateMachineContext :=
  (evaluateStateTransition context sample.signals profile sample.nowMs).context

abbrev stateMachineRun (startMs : ℤ) (samples : List QosSample) : QosStateMachineContext :=
  Runs.runFrom (stateMachineStep profile) (createInitialQosStateMachineContext startMs) samples

structure Tracked (samples : List QosSample) (context : QosStateMachineContext) : Prop where
  healthy : Streak.EndsIn (fun s : QosSample => isHealthy s.signals profile)
    context.consecutiveHealthySamples samples
  congested : Streak.EndsIn (fun s : QosSample => isCongested s.signals profile)
    context.consecutiveCongestedSamples samples

variable {profile}

theorem counters_stateMachineStep (context : QosStateMachineContext) (sample : QosSample) :
    (stateMachineStep profile context sample).consecutiveHealthySamples =
        Streak.next context.consecutiveHealthySamples (isHealthy sample.signals profile) ∧
      (stateMachineStep profile context sample).consecutiveCongestedSamples =
        Streak.next context.consecutiveCongestedSamples (isCongested sample.signals profile) := by
  simp only [stateMachineStep, evaluateStateTransition]
  split <;> exact ⟨rfl, rfl⟩

variable {sample : QosSample} {context : QosStateMachineContext}

theorem Tracked.step {samples : List QosSample}
    (h : Tracked profile samples context) (sample : QosSample) :
    Tracked profile (samples ++ [sample]) (stateMachineStep profile context sample) := by
  obtain ⟨hok, hcong⟩ := @counters_stateMachineStep profile context sample
  constructor
  · rw [hok]
    exact endsIn_next h.healthy sample
  · rw [hcong]
    exact endsIn_next h.congested sample

theorem tracked_run (startMs : ℤ) (samples : List QosSample) :
    Tracked profile samples (stateMachineRun profile startMs samples) := by
  induction samples using List.reverseRecOn with
  | nil => exact ⟨endsIn_zero _ _, endsIn_zero _ _⟩
  | append_singleton samples sample ih =>
    rw [stateMachineRun, runFrom_concat]
    exact ih.step sample

/-! ### Moves -/

theorem state_stateMachineStep (context : QosStateMachineContext) (sample : QosSample) :
    (stateMachineStep profile context sample).state =
      (context.count sample.signals profile).nextState profile sample.nowMs :=
  state_evaluateStateTransition context sample.signals profile sample.nowMs

theorem lastCongestedAtMs_stateMachineStep (context : QosStateMachineContext) (sample : QosSample) :
    (stateMachineStep profile context sample).lastCongestedAtMs =
      if context.state ≠ .congested ∧ (stateMachineStep profile context sample).state = .congested
      then some sample.nowMs else context.lastCongestedAtMs := by
  rw [state_stateMachineStep]
  simp only [stateMachineStep, evaluateStateTransition, decide_eq_true_eq]
  by_cases hmove :
      (context.count sample.signals profile).nextState profile sample.nowMs = context.state
  · rw [if_neg (not_not.mpr hmove), hmove, if_neg (by tauto)]
    rfl
  rw [if_pos hmove]
  refine if_congr ?_ rfl rfl
  constructor
  · intro hcong
    exact ⟨fun h => hmove (hcong.trans h.symm), hcong⟩
  · exact And.right

theorem stateMachineStep_cases (context : QosStateMachineContext) (sample : QosSample) :
    let counted := context.count sample.signals profile
    let next := (stateMachineStep profile context sample).state
    next = context.state ∨ (context.state = .stable ∧ next = .earlyWarning) ∨
      (context.state = .earlyWarning ∧ next = .stable) ∨
      ((context.state = .earlyWarning ∨ context.state = .recovering) ∧ next = .congested ∧
        2 ≤ counted.consecutiveCongestedSamples) ∨
      (context.state = .congested ∧ next = .recovering ∧
        counted.cooldownElapsed profile sample.nowMs) ∨
      (context.state = .recovering ∧ next = .stable ∧ 5 ≤ counted.consecutiveHealthySamples) := by
  have hcnt : (context.count sample.signals profile).state = context.state := rfl
  dsimp only
  rw [state_stateMachineStep, nextState, hcnt]
  cases context.state with
  | stable =>
    dsimp only
    split <;> simp
  | earlyWarning =>
    dsimp only
    split
    · simp_all
    · split <;> simp
  | congested =>
    dsimp only
    split
    next hrdy =>
      simp [hrdy.1]
    · simp
  | recovering =>
    dsimp only
    split
    · simp_all
    · split <;> simp_all

def CongestedSince (t : ℤ) (context : QosStateMachineContext) : Prop :=
  context.state = .congested ∧ context.lastCongestedAtMs = some t

theorem CongestedSince.step {t : ℤ} (h : CongestedSince t context)
    (hcool : sample.nowMs < t + profile.recoveryCooldownMs) :
    CongestedSince t (stateMachineStep profile context sample) := by
  have hst : (stateMachineStep profile context sample).state = .congested := by
    have hcs := @stateMachineStep_cases profile context sample
    have hcnt : (context.count sample.signals profile).cooldownElapsed profile sample.nowMs =
        decide (profile.recoveryCooldownMs ≤ sample.nowMs - t) := by
      simp [cooldownElapsed, count, h.2]
    simp only [h.1, hcnt, decide_eq_true_eq, reduceCtorEq, false_and, false_or, true_and,
      or_false] at hcs
    rcases hcs with hstay | ⟨-, _⟩
    · exact hstay
    · omega
  refine ⟨hst, ?_⟩
  rw [lastCongestedAtMs_stateMachineStep, if_neg (by simp [h.1])]
  exact h.2

theorem congestedSince_of_enters (hbef : context.state ≠ .congested)
    (haft : (stateMachineStep profile context sample).state = .congested) :
    CongestedSince sample.nowMs (stateMachineStep profile context sample) := by
  refine ⟨haft, ?_⟩
  rw [lastCongestedAtMs_stateMachineStep, if_pos ⟨hbef, haft⟩]

theorem tracked_count (startMs : ℤ) (before : List QosSample) (sample : QosSample) :
    Tracked profile (before ++ [sample])
      ((stateMachineRun profile startMs before).count sample.signals profile) := by
  have h := @tracked_run profile startMs before
  exact ⟨endsIn_next h.healthy sample, endsIn_next h.congested sample⟩

theorem endsIn_congested_of_enters {startMs : ℤ} {before : List QosSample}
    (hold : (stateMachineRun profile startMs before).state ≠ .congested)
    (hnew : (stateMachineStep profile (stateMachineRun profile startMs before) sample).state =
      .congested) :
    Streak.EndsIn (fun s : QosSample => isCongested s.signals profile) 2 (before ++ [sample]) := by
  have hcs := @stateMachineStep_cases profile (stateMachineRun profile startMs before) sample
  have hcnt : 2 ≤ ((stateMachineRun profile startMs before).count sample.signals
      profile).consecutiveCongestedSamples := by
    rw [hnew] at hcs
    rcases hcs with hstay | h | h | h | h | h
    · exact absurd hstay.symm hold
    · cases h.2
    · cases h.2
    · exact h.2.2
    · cases h.2.1
    · cases h.2.1
  exact endsIn_of_le (tracked_count startMs before sample).congested hcnt

theorem endsIn_healthy_of_stable {startMs : ℤ} {before : List QosSample}
    (hold : (stateMachineRun profile startMs before).state = .recovering)
    (hnew : (stateMachineStep profile (stateMachineRun profile startMs before) sample).state =
      .stable) :
    Streak.EndsIn (fun s : QosSample => isHealthy s.signals profile) 5 (before ++ [sample]) := by
  have hcs := @stateMachineStep_cases profile (stateMachineRun profile startMs before) sample
  simp only [hold, hnew, reduceCtorEq, false_and, and_false, true_and, false_or] at hcs
  exact endsIn_of_le (tracked_count startMs before sample).healthy hcs

/-- **In every run the machine moves by its counts and stays congested for the cooldown.**  Take
samples with times that do not decrease, and one of them.  It does not move the machine between
stable and congested; it moves it into congestion only if it and the one before are congested, and
from recovering to stable only if the five up to it are healthy; and if it moves the machine into
congestion, the machine is neither recovering nor stable after any later sample before the cooldown
is over. -/
theorem stateMachine_run (profile : PublishProfile) (startMs : ℤ) (samples : List QosSample)
    (hclock : (samples.map QosSample.nowMs).Pairwise (· ≤ ·)) (before : List QosSample)
    (sample : QosSample) (after : List QosSample)
    (hsamples : samples = before ++ sample :: after) :
    let old := (stateMachineRun profile startMs before).state
    let new := (stateMachineRun profile startMs (before ++ [sample])).state
    ¬(old = .stable ∧ new = .congested) ∧ ¬(old = .congested ∧ new = .stable) ∧
      (old ≠ .congested → new = .congested →
        Streak.EndsIn (fun s : QosSample => isCongested s.signals profile) 2
          (before ++ [sample])) ∧
      (old = .recovering → new = .stable →
        Streak.EndsIn (fun s : QosSample => isHealthy s.signals profile) 5
          (before ++ [sample])) ∧
      (old ≠ .congested → new = .congested → ∀ later last rest, after = later ++ last :: rest →
        last.nowMs < sample.nowMs + profile.recoveryCooldownMs →
          (stateMachineRun profile startMs (before ++ sample :: (later ++ [last]))).state ≠
              .recovering ∧
            (stateMachineRun profile startMs (before ++ sample :: (later ++ [last]))).state ≠
              .stable) := by
  dsimp only
  have hcs := @stateMachineStep_cases profile (stateMachineRun profile startMs before) sample
  rw [show stateMachineRun profile startMs (before ++ [sample]) =
    stateMachineStep profile (stateMachineRun profile startMs before) sample from
      runFrom_concat _ before sample]
  refine ⟨?_, ?_, endsIn_congested_of_enters, endsIn_healthy_of_stable, ?_⟩
  · rintro ⟨hold, hnew⟩
    simp [hold, hnew] at hcs
  · rintro ⟨hold, hnew⟩
    simp [hold, hnew] at hcs
  intro hold hnew later last rest haft hlast
  -- all the samples up to the last one come before the cooldown is over
  have hearly : ∀ s ∈ later ++ [last],
      s.nowMs < sample.nowMs + profile.recoveryCooldownMs := by
    intro s hs
    rcases List.mem_append.mp hs with hs | hs
    · have hle : s.nowMs ≤ last.nowMs := by
        rw [hsamples, haft] at hclock
        simp only [List.map_append, List.map_cons, List.pairwise_append,
          List.pairwise_cons] at hclock
        exact hclock.2.1.2.2.2 _ (List.mem_map_of_mem hs) _ List.mem_cons_self
      omega
    · rw [List.mem_singleton.mp hs]
      exact hlast
  have hsince : CongestedSince sample.nowMs
      (stateMachineRun profile startMs (before ++ sample :: (later ++ [last]))) := by
    rw [stateMachineRun, runFrom_append, runFrom_cons]
    exact Runs.StepsMeet.inv _ (fun _ _ h hok => h.step hok) _ _
      (stepsMeet_of_forall hearly _) (congestedSince_of_enters hold hnew)
  rw [hsince.1]
  exact ⟨nofun, nofun⟩

end Runs

def lossySample (nowMs : ℤ) : QosSample := ⟨{ lossEwma := 1 / 2, sendBitrateBps := 1 }, nowMs⟩

def cleanSample (nowMs : ℤ) : QosSample := ⟨{ sendBitrateBps := 1 }, nowMs⟩

theorem stateMachine_run_lossy :
    (stateMachineRun getDefaultCameraProfile 0
        [lossySample 0, lossySample 1000, lossySample 2000]).state = .congested ∧
      (stateMachineRun getDefaultCameraProfile 0
        [lossySample 0, lossySample 1000, lossySample 2000, cleanSample 9000]).state ≠
          .recovering :=
  ⟨by decide +kernel, ((stateMachine_run getDefaultCameraProfile 0
      [lossySample 0, lossySample 1000, lossySample 2000, cleanSample 9000] (by decide)
      [lossySample 0, lossySample 1000] (lossySample 2000) [cleanSample 9000] rfl).2.2.2.2
        (by decide +kernel) (by decide +kernel) [] (cleanSample 9000) [] rfl (by decide)).1⟩

/-! ### Congested samples and recovery -/

/-- What is stable is not congested: the thresholds of a stable track are not above those of a
congested one, and a jitter that allows a recovery is not congested. -/
structure QosThresholds.Ordered (thresholds : QosThresholds) : Prop where
  lossRate : thresholds.stableLossRate ≤ thresholds.congestedLossRate
  rttMs : thresholds.stableRttMs ≤ thresholds.congestedRttMs
  jitterMs : ∀ congested ∈ thresholds.congestedJitterMs,
    ∃ recovery ∈ recoveryJitterMs thresholds, recovery ≤ congested

theorem defaultThresholds_ordered : defaultThresholds.Ordered := by
  refine ⟨by decide +kernel, by decide +kernel, ?_⟩
  intro congested hcong
  cases hcong
  exact ⟨30, by decide +kernel, by decide +kernel⟩

theorem conservativeThresholds_ordered : conservativeThresholds.Ordered := by
  refine ⟨by decide +kernel, by decide +kernel, ?_⟩
  intro congested hcong
  cases hcong
  exact ⟨30, by decide +kernel, by decide +kernel⟩

section Recovery

variable {signals : DerivedQosSignals} {profile : PublishProfile}

theorem reachesThreshold_of_isNetworkRecovered (hord : profile.thresholds.Ordered)
    (hcong : isCongested signals profile)
    (hrec : isNetworkRecovered signals profile) :
    reachesThreshold signals.jitterEwma profile.thresholds.congestedJitterMs := by
  have hloss := hord.lossRate
  have hrtt := hord.rttMs
  simp only [isCongested, isNetworkRecovered, Bool.or_eq_true, Bool.and_eq_true,
    decide_eq_true_eq, Bool.not_eq_true'] at hcong hrec
  obtain ⟨⟨⟨_, _⟩, hband⟩, -⟩ := hrec
  rcases hcong with ((h | h) | h) | h
  · rw [hband] at h
    cases h
  · linarith
  · linarith
  · exact h

theorem isRecoveryHealthy_of_isCongested (hord : profile.thresholds.Ordered)
    (hcong : isCongested signals profile) : isRecoveryHealthy signals profile = false := by
  by_contra hok
  rw [Bool.not_eq_false, isRecoveryHealthy, Bool.and_eq_true] at hok
  have hjitter := reachesThreshold_of_isNetworkRecovered hord hcong hok.1
  rw [reachesThreshold, Option.any_eq_true] at hjitter
  obtain ⟨congested, hmem, hreached⟩ := hjitter
  obtain ⟨_, hrecovery, _⟩ := hord.jitterMs congested hmem
  have hbelow := hok.2
  rw [belowThreshold, Option.mem_def.mp hrecovery, Option.all_some, decide_eq_true_eq] at hbelow
  rw [decide_eq_true_eq] at hreached
  linarith

end Recovery

/-- **A congested sample starts a recovery on the fast path only.**  If what is stable is not
congested, a congested sample moves a congested track to recovering exactly when the cooldown is
over, the sample before and this one are good enough for the fast path and not for the regular one;
it is then congested by its smoothed jitter alone, neither by the bandwidth, nor by its loss, nor
by its round trip time. -/
theorem recovering_of_congested_iff (context : QosStateMachineContext)
    (signals : DerivedQosSignals) (profile : PublishProfile) (nowMs : ℤ)
    (hord : profile.thresholds.Ordered) (hst : context.state = .congested)
    (hcong : isCongested signals profile = true) :
    ((evaluateStateTransition context signals profile nowMs).context.state = .recovering ↔
        context.cooldownElapsed profile nowMs = true ∧
          1 ≤ context.consecutiveFastRecoverySamples ∧
          isFastRecoveryHealthy signals profile = true) ∧
      ((evaluateStateTransition context signals profile nowMs).context.state = .recovering →
        signals.bandwidthLimited = false ∧
          signals.lossEwma < profile.thresholds.congestedLossRate ∧
          signals.rttEwma < profile.thresholds.congestedRttMs ∧
          reachesThreshold signals.jitterEwma profile.thresholds.congestedJitterMs = true) := by
  have hreg := isRecoveryHealthy_of_isCongested hord hcong
  have hiff : (evaluateStateTransition context signals profile nowMs).context.state =
      .recovering ↔ context.cooldownElapsed profile nowMs ∧
        1 ≤ context.consecutiveFastRecoverySamples ∧ isFastRecoveryHealthy signals profile := by
    have hcount : (context.count signals profile).state = .congested := hst
    have helapsed : (context.count signals profile).cooldownElapsed profile nowMs =
        context.cooldownElapsed profile nowMs := rfl
    rw [state_evaluateStateTransition, nextState, hcount]
    dsimp only
    -- the regular count is back at zero, the fast one goes up or back
    have hzero : (context.count signals profile).consecutiveRecoverySamples = 0 := by
      simp [count, nextCounter, hreg]
    have hfast : 2 ≤ (context.count signals profile).consecutiveFastRecoverySamples ↔
        1 ≤ context.consecutiveFastRecoverySamples ∧ isFastRecoveryHealthy signals profile := by
      cases hok : isFastRecoveryHealthy signals profile <;>
        simp [count, nextCounter, hreg, hok]
    rw [← hfast]
    split_ifs with hrdy
    · refine iff_of_true rfl ⟨hrdy.1, ?_⟩
      rcases hrdy.2 with h | h
      · omega
      · exact h
    · refine iff_of_false nofun ?_
      rintro ⟨hcool, hcnt⟩
      exact hrdy ⟨hcool, .inr hcnt⟩
  refine ⟨hiff, ?_⟩
  intro hrecovering
  have hok := (hiff.mp hrecovering).2.2
  simp only [isFastRecoveryHealthy, Bool.and_eq_true] at hok
  have hrec := hok.1.1
  refine ⟨?_, ?_, ?_, reachesThreshold_of_isNetworkRecovered hord hcong hrec⟩
  all_goals
    simp only [isNetworkRecovered, Bool.and_eq_true, decide_eq_true_eq, Bool.not_eq_true'] at hrec
  · exact hrec.1.2
  · exact hrec.1.1.1.trans_le hord.lossRate
  · exact hrec.1.1.2.trans_le hord.rttMs

def jitterTail : DerivedQosSignals where
  rttEwma := 100
  jitterMs := 10
  jitterEwma := 100
  sendBitrateBps := 900000
  targetBitrateBps := 1000000

def congestedCamera : QosStateMachineContext where
  state := .congested
  enteredAtMs := 0
  lastCongestedAtMs := some 0
  consecutiveFastRecoverySamples := 1

theorem recovering_of_congested_iff_jitterTail :
    isCongested jitterTail getDefaultCameraProfile = true ∧
      (evaluateStateTransition congestedCamera jitterTail getDefaultCameraProfile
        7000).context.state ≠ .recovering :=
  ⟨by decide +kernel, fun h => absurd
    ((recovering_of_congested_iff congestedCamera jitterTail getDefaultCameraProfile 7000
      defaultThresholds_ordered rfl (by decide +kernel)).1.mp h).1 (by decide +kernel)⟩

/-- **A congested sample starts a recovery**: the tail of its jitter is still congested when its
jitter has been low for two samples. -/
theorem congested_sample_starts_recovery :
    congestedCamera.state = .congested ∧
      isCongested jitterTail getDefaultCameraProfile = true ∧
      (evaluateStateTransition congestedCamera jitterTail getDefaultCameraProfile
        9000).context.state = .recovering := by
  decide +kernel

end MediasoupCpp
