import MediasoupCpp.Lib.Run
import MediasoupCpp.Qos.Planner

/-!
# What the levels make of the sender

The actions of a plan change the settings of the sender one by one.  A step of the ladder sets
what its level needs, and leaves the rest to what it was.

Main result: `pathIndependent_iff`.

Source: `src/client/lib/qos/executor.js`, `src/client/lib/qos/factory.js`,
`src/client/lib/qos/adapters/producerAdapter.js`, `src/client/lib/qos/controller.js`.
-/

namespace MediasoupCpp

open Runs

/-! ### The sender -/

structure SenderState where
  maxBitrate : Option ℚ := none
  maxFramerate : Option ℚ := none
  scaleResolutionDownBy : Option ℚ := none
  adaptivePtime : Option Bool := none
  maxSpatialLayer : Option ℤ := none
  paused : Bool := false
  inAudioOnlyMode : Bool := false
  deriving DecidableEq

inductive MediaKind
  | audio
  | video
  deriving DecidableEq

structure SenderProducer where
  kind : MediaKind
  closed : Bool := false

def setRtpEncodingParameters (sender : SenderState) (parameters : EncodingParameters) :
    SenderState :=
  { sender with
    maxBitrate := parameters.maxBitrateBps.or sender.maxBitrate
    maxFramerate := parameters.maxFramerate.or sender.maxFramerate
    scaleResolutionDownBy := parameters.scaleResolutionDownBy.or sender.scaleResolutionDownBy
    adaptivePtime := parameters.adaptivePtime.or sender.adaptivePtime }

def sinkExecute (producer : SenderProducer) (sender : SenderState) :
    QosAction → Except String SenderState
  | .setEncodingParameters _ parameters =>
    if producer.closed then .error "producer-closed"
    else .ok (setRtpEncodingParameters sender parameters)
  | .setMaxSpatialLayer _ spatialLayer =>
    if producer.closed then .error "producer-closed"
    else if producer.kind ≠ .video then .error "not-video-producer"
    else .ok { sender with maxSpatialLayer := some spatialLayer }
  | .enterAudioOnly _ | .pauseUpstream _ =>
    if producer.closed then .error "producer-closed" else .ok { sender with paused := true }
  | .exitAudioOnly _ | .resumeUpstream _ =>
    if producer.closed then .error "producer-closed" else .ok { sender with paused := false }
  | .noop _ _ => .ok sender

/-- The controller of a track with the executor of its actions.  (The key of an action is a
text that has all of the action in it; here it is the action.) -/
structure Controller where
  currentLevel : ℤ := 0
  lastAppliedActionKey : Option QosAction := none
  sender : SenderState

inductive ExecuteStatus
  | skippedNoop
  | skippedIdempotent
  | applied
  | failed (error : String)
  deriving DecidableEq

def QosAction.isNoop : QosAction → Bool
  | .noop _ _ => true
  | _ => false

def execute (producer : SenderProducer) (c : Controller) (a : QosAction) :
    Controller × ExecuteStatus :=
  if a.isNoop then (c, .skippedNoop)
  else if c.lastAppliedActionKey = some a then (c, .skippedIdempotent)
  else
    match sinkExecute producer c.sender a with
    | .ok sender => ({ c with sender := sender, lastAppliedActionKey := some a }, .applied)
    | .error error => (c, .failed error)

def isFailed : ExecuteStatus → Bool
  | .failed _ => true
  | _ => false

def QosAction.modeAfter (inAudioOnlyMode : Bool) : QosAction → Bool
  | .enterAudioOnly _ => true
  | .exitAudioOnly _ => false
  | _ => inAudioOnlyMode

def Controller.applied (c : Controller) (a : QosAction) : Controller :=
  { c with
    currentLevel := a.level
    sender := { c.sender with inAudioOnlyMode := a.modeAfter c.sender.inAudioOnlyMode } }

def executeAction (producer : SenderProducer) (c : Controller) (a : QosAction) : Controller :=
  let (c', status) := execute producer c a
  if isFailed status then c' else c'.applied a

def executeActions (producer : SenderProducer) (c : Controller) (actions : List QosAction) :
    Controller :=
  actions.foldl (executeAction producer) c

def allApplied (producer : SenderProducer) : Controller → List QosAction → Bool
  | _, [] => true
  | c, a :: actions =>
    !isFailed (execute producer c a).2 && allApplied producer (executeAction producer c a) actions

/-- What a change of level is planned by: the state of the track, whether recovering is
suppressed, and the clamp. -/
structure LevelChange where
  state : QosState
  disableRecovery : Bool := false
  overrideClampLevel : Option ℤ := none

variable (profile : QosProfile)

def Controller.plan (c : Controller) (change : LevelChange) :
    List QosAction :=
  let input : PlannerInput :=
    { source := profile.source, profile := profile, state := change.state
      currentLevel := c.currentLevel, overrideClampLevel := change.overrideClampLevel
      inAudioOnlyMode := c.sender.inAudioOnlyMode }
  if change.state = .recovering ∧ change.disableRecovery = false then planRecovery input
  else
    planActions
      { input with state := if change.state = .recovering then .earlyWarning else change.state }

def changeLevel (producer : SenderProducer) (c : Controller)
    (change : LevelChange) : Controller :=
  executeActions producer c (c.plan profile change)

def Succeeds (producer : SenderProducer) (c : Controller)
    (change : LevelChange) : Prop :=
  allApplied producer c (c.plan profile change) = true

instance (profile : QosProfile) (producer : SenderProducer) (c : Controller)
    (change : LevelChange) : Decidable (Succeeds profile producer c change) :=
  inferInstanceAs (Decidable (_ = _))

def levelsAfter (producer : SenderProducer) (s0 : SenderState)
    (changes : List LevelChange) : Controller :=
  runFrom (changeLevel profile producer) { sender := s0 } changes

def AllSucceed (producer : SenderProducer) (s0 : SenderState)
    (changes : List LevelChange) : Prop :=
  StepsMeet (changeLevel profile producer) (Succeeds profile producer) { sender := s0 } changes

instance (profile : QosProfile) (producer : SenderProducer) (s0 : SenderState)
    (changes : List LevelChange) : Decidable (AllSucceed profile producer s0 changes) :=
  inferInstanceAs (Decidable (StepsMeet _ _ _ _))

/-! ### The effect of actions -/

def QosAction.effect (sender : SenderState) : QosAction → SenderState
  | .setEncodingParameters _ parameters => setRtpEncodingParameters sender parameters
  | .setMaxSpatialLayer _ spatialLayer => { sender with maxSpatialLayer := some spatialLayer }
  | .enterAudioOnly _ => { sender with paused := true, inAudioOnlyMode := true }
  | .pauseUpstream _ => { sender with paused := true }
  | .exitAudioOnly _ => { sender with paused := false, inAudioOnlyMode := false }
  | .resumeUpstream _ => { sender with paused := false }
  | .noop _ _ => sender

def directSender (level : ℤ) (s0 : SenderState) : SenderState :=
  (actionsForLevel
    { source := profile.source, profile := profile, state := .stable, currentLevel := level }
    level).foldl QosAction.effect s0

section Effect

variable {producer : SenderProducer} {c : Controller} {a : QosAction} {actions : List QosAction}

theorem effect_effect (a : QosAction) (sender : SenderState) :
    a.effect (a.effect sender) = a.effect sender := by
  cases a with
  | setEncodingParameters _ parameters =>
    obtain ⟨bitrate, framerate, scale, ptime⟩ := parameters
    cases bitrate <;> cases framerate <;> cases scale <;> cases ptime <;> rfl
  | _ => rfl

def Controller.Settled (c : Controller) : Prop :=
  ∀ a, c.lastAppliedActionKey = some a → a.effect c.sender = c.sender

theorem execute_cases (producer : SenderProducer) (c : Controller) (a : QosAction) :
    (a.isNoop ∧ execute producer c a = (c, .skippedNoop)) ∨
      (c.lastAppliedActionKey = some a ∧ execute producer c a = (c, .skippedIdempotent)) ∨
      (∃ sender, sinkExecute producer c.sender a = .ok sender ∧ execute producer c a =
        ({ c with sender := sender, lastAppliedActionKey := some a }, .applied)) ∨
      ∃ error, execute producer c a = (c, .failed error) := by
  unfold execute
  split
  next hnoop =>
    exact .inl ⟨hnoop, rfl⟩
  split
  next hlast =>
    exact .inr (.inl ⟨hlast, rfl⟩)
  split
  next sender hsink =>
    exact .inr (.inr (.inl ⟨sender, hsink, rfl⟩))
  · exact .inr (.inr (.inr ⟨_, rfl⟩))

theorem effect_of_sinkExecute {sender sender' : SenderState}
    (h : sinkExecute producer sender a = .ok sender') :
    { sender' with inAudioOnlyMode := a.modeAfter sender'.inAudioOnlyMode } = a.effect sender := by
  cases a with
  | setMaxSpatialLayer level spatialLayer =>
    simp only [sinkExecute] at h
    split at h
    · cases h
    split at h
    · cases h
    · cases h
      rfl
  | noop level reason =>
    cases h
    rfl
  | _ =>
    simp only [sinkExecute] at h
    split at h
    · cases h
    · cases h
      rfl

theorem modeAfter_eq (a : QosAction) (sender : SenderState) :
    a.modeAfter sender.inAudioOnlyMode = (a.effect sender).inAudioOnlyMode := by
  cases a <;> rfl

theorem executeAction_of_applied (hc : c.Settled) (h : isFailed (execute producer c a).2 = false) :
    (executeAction producer c a).sender = a.effect c.sender ∧
      (executeAction producer c a).currentLevel = a.level ∧
      (executeAction producer c a).Settled := by
  have happ : executeAction producer c a = (execute producer c a).1.applied a :=
    if_neg (ne_true_of_eq_false h)
  rw [happ]
  -- in the first two cases the action changes nothing
  have hskipped : a.effect c.sender = c.sender → (c.applied a).sender = a.effect c.sender ∧
      (c.applied a).currentLevel = a.level ∧ (c.applied a).Settled := by
    intro hsame
    have hsend : (c.applied a).sender = c.sender := by
      rw [Controller.applied, modeAfter_eq, hsame]
    refine ⟨hsend.trans hsame.symm, rfl, fun a' ha' => ?_⟩
    rw [hsend]
    exact hc a' ha'
  obtain ⟨hnoop, hexec⟩ | ⟨hlast, hexec⟩ | ⟨sender, hsink, hexec⟩ | ⟨_, hexec⟩ :=
    execute_cases producer c a
  · rw [hexec]
    refine hskipped ?_
    cases a with
    | noop level reason => rfl
    | _ => cases hnoop
  · rw [hexec]
    exact hskipped (hc a hlast)
  · rw [hexec]
    refine ⟨effect_of_sinkExecute hsink, rfl, fun a' ha' => ?_⟩
    cases ha'
    change a.effect { sender with inAudioOnlyMode := _ } = _
    rw [effect_of_sinkExecute hsink, effect_effect]
    exact (effect_of_sinkExecute hsink).symm
  · rw [hexec] at h
    cases h

theorem executeActions_of_applied (hc : c.Settled) (h : allApplied producer c actions) :
    let c' := executeActions producer c actions
    c'.sender = actions.foldl QosAction.effect c.sender ∧ c'.Settled ∧
      ∀ level, actions ≠ [] → (∀ a ∈ actions, a.level = level) → c'.currentLevel = level := by
  induction actions generalizing c with
  | nil => exact ⟨rfl, hc, fun _ hne => absurd rfl hne⟩
  | cons a actions ih =>
    simp only [allApplied, Bool.and_eq_true, Bool.not_eq_true'] at h
    obtain ⟨hsend, hlev, hset⟩ := executeAction_of_applied hc h.1
    obtain ⟨hsend', hset', hlev'⟩ := ih hset h.2
    refine ⟨?_, hset', fun level _ hall => ?_⟩
    · rw [List.foldl_cons, ← hsend]
      exact hsend'
    rw [List.forall_mem_cons] at hall
    cases actions with
    | nil => exact hlev.trans hall.1
    | cons a' actions => exact hlev' level (by simp) hall.2

end Effect

/-! ### Patches -/

structure Patch where
  maxBitrate : Option ℚ := none
  maxFramerate : Option ℚ := none
  scaleResolutionDownBy : Option ℚ := none
  adaptivePtime : Option Bool := none
  maxSpatialLayer : Option ℤ := none
  paused : Option Bool := none
  inAudioOnlyMode : Option Bool := none

namespace Patch

def apply (patch : Patch) (sender : SenderState) : SenderState where
  maxBitrate := patch.maxBitrate.or sender.maxBitrate
  maxFramerate := patch.maxFramerate.or sender.maxFramerate
  scaleResolutionDownBy := patch.scaleResolutionDownBy.or sender.scaleResolutionDownBy
  adaptivePtime := patch.adaptivePtime.or sender.adaptivePtime
  maxSpatialLayer := patch.maxSpatialLayer.or sender.maxSpatialLayer
  paused := patch.paused.getD sender.paused
  inAudioOnlyMode := patch.inAudioOnlyMode.getD sender.inAudioOnlyMode

def overlay (patch left : Patch) : Patch where
  maxBitrate := patch.maxBitrate.or left.maxBitrate
  maxFramerate := patch.maxFramerate.or left.maxFramerate
  scaleResolutionDownBy := patch.scaleResolutionDownBy.or left.scaleResolutionDownBy
  adaptivePtime := patch.adaptivePtime.or left.adaptivePtime
  maxSpatialLayer := patch.maxSpatialLayer.or left.maxSpatialLayer
  paused := patch.paused.or left.paused
  inAudioOnlyMode := patch.inAudioOnlyMode.or left.inAudioOnlyMode

theorem apply_overlay (patch left : Patch) (sender : SenderState) :
    (patch.overlay left).apply sender = patch.apply (left.apply sender) := by
  simp [apply, overlay, Option.or_assoc, Option.getD_or]

theorem apply_empty (sender : SenderState) : ({} : Patch).apply sender = sender := rfl

theorem apply_apply_self (patch : Patch) (sender : SenderState) :
    patch.apply (patch.apply sender) = patch.apply sender := by
  rw [← apply_overlay]
  simp [apply, overlay]

end Patch

/-- What is left of the settings before is, where the patch leaves it open, as at first. -/
structure Restores (s0 : SenderState) (left patch : Patch) : Prop where
  maxBitrate : patch.maxBitrate = none → left.maxBitrate.or s0.maxBitrate = s0.maxBitrate
  maxFramerate :
    patch.maxFramerate = none → left.maxFramerate.or s0.maxFramerate = s0.maxFramerate
  scaleResolutionDownBy : patch.scaleResolutionDownBy = none →
    left.scaleResolutionDownBy.or s0.scaleResolutionDownBy = s0.scaleResolutionDownBy
  adaptivePtime :
    patch.adaptivePtime = none → left.adaptivePtime.or s0.adaptivePtime = s0.adaptivePtime
  maxSpatialLayer :
    patch.maxSpatialLayer = none → left.maxSpatialLayer.or s0.maxSpatialLayer = s0.maxSpatialLayer
  paused : patch.paused = none → left.paused.getD s0.paused = s0.paused
  inAudioOnlyMode :
    patch.inAudioOnlyMode = none → left.inAudioOnlyMode.getD s0.inAudioOnlyMode = s0.inAudioOnlyMode

theorem or_eq_or_iff {α : Type*} {new left old : Option α} :
    new.or (left.or old) = new.or old ↔ (new = none → left.or old = old) := by
  cases new <;> simp

theorem getD_getD_eq_iff {α : Type*} {new left : Option α} {old : α} :
    new.getD (left.getD old) = new.getD old ↔ (new = none → left.getD old = old) := by
  cases new <;> simp

theorem restores_iff {s0 : SenderState} {left patch : Patch} :
    Restores s0 left patch ↔ patch.apply (left.apply s0) = patch.apply s0 := by
  simp only [Patch.apply, SenderState.mk.injEq, or_eq_or_iff, getD_getD_eq_iff]
  constructor
  · rintro ⟨h1, h2, h3, h4, h5, h6, h7⟩
    exact ⟨h1, h2, h3, h4, h5, h6, h7⟩
  · rintro ⟨h1, h2, h3, h4, h5, h6, h7⟩
    exact ⟨h1, h2, h3, h4, h5, h6, h7⟩

/-! ### The steps as patches -/

variable (step : LadderStep)

/-- What a step sets.  Of stopping and resuming the upstream, stopping comes last. -/
def LadderStep.patch : Patch where
  maxBitrate := step.encodingParameters.bind EncodingParameters.maxBitrateBps
  maxFramerate := step.encodingParameters.bind EncodingParameters.maxFramerate
  scaleResolutionDownBy := step.encodingParameters.bind EncodingParameters.scaleResolutionDownBy
  adaptivePtime := step.encodingParameters.bind EncodingParameters.adaptivePtime
  maxSpatialLayer := step.spatialLayer
  paused :=
    if step.enterAudioOnly ∨ step.pauseUpstream then some true
    else if step.resumeUpstream then some false
    else none
  inAudioOnlyMode := if step.enterAudioOnly then some true else none

def QosProfile.patchAt (profile : QosProfile) (level : ℤ) : Patch :=
  ((profile.stepAt level).map LadderStep.patch).getD {}

def leavePatch (profile : QosProfile) (level level' : ℤ) (inAudioOnlyMode : Bool) : Patch :=
  if profile.source = .camera ∧ level' < level ∧ inAudioOnlyMode = true ∧
      (profile.stepAt level').isSome then
    { paused := some false, inAudioOnlyMode := some false }
  else {}

theorem foldl_effect_stepToActions (source : QosSource) (currentLevel : ℤ) (inAudioOnlyMode : Bool)
    (sender : SenderState) :
    (stepToActions step source currentLevel inAudioOnlyMode).foldl QosAction.effect sender =
      (step.actions source currentLevel inAudioOnlyMode).foldl QosAction.effect sender := by
  unfold stepToActions
  dsimp only
  split
  next hemp =>
    rw [List.isEmpty_iff.mp hemp]
    rfl
  · rfl

theorem foldl_effect_actions (source : QosSource) (currentLevel : ℤ) (inAudioOnlyMode : Bool)
    (sender : SenderState) :
    (step.actions source currentLevel inAudioOnlyMode).foldl QosAction.effect sender =
      step.patch.apply
        (if source = .camera ∧ step.level < currentLevel ∧ inAudioOnlyMode = true then
          { sender with paused := false, inAudioOnlyMode := false } else sender) := by
  obtain ⟨level, params, spatial, enter, pause, resume⟩ := step
  unfold LadderStep.actions
  split
  all_goals
    cases params <;> cases spatial <;> cases enter <;> cases pause <;> cases resume <;> rfl

theorem foldl_effect_actionsForLevel (profile : QosProfile) (state : QosState) (level : ℤ)
    (clamp : Option ℤ) (inAudioOnlyMode : Bool) (level' : ℤ) (sender : SenderState) :
    (actionsForLevel ⟨profile.source, profile, state, level, clamp, inAudioOnlyMode⟩
        level').foldl QosAction.effect sender = (profile.patchAt level').apply
        ((leavePatch profile level level' inAudioOnlyMode).apply sender) := by
  unfold actionsForLevel QosProfile.patchAt leavePatch
  dsimp only
  cases hstep : profile.stepAt level' with
  | none => simp [Patch.apply_empty, QosAction.effect]
  | some step =>
    rw [foldl_effect_stepToActions, foldl_effect_actions, level_of_stepAt hstep]
    simp only [Option.isSome_some, and_true, Option.map_some, Option.getD_some]
    split <;> rfl

theorem directSender_eq (profile : QosProfile) (level : ℤ) (s0 : SenderState) :
    directSender profile level s0 = (profile.patchAt level).apply s0 := by
  rw [directSender, foldl_effect_actionsForLevel, leavePatch, if_neg (by simp)]
  rfl

/-! ### Changes of level -/

section Change

variable {profile : QosProfile} {producer : SenderProducer} {c : Controller}
  {change : LevelChange}

/-- The level is one of the profile, and nothing is left to do of the last action. -/
structure Controller.OnLadder (profile : QosProfile) (c : Controller) : Prop where
  nonneg : 0 ≤ c.currentLevel
  le : c.currentLevel ≤ resolveMaxLevel profile
  settled : c.Settled

theorem plan_eq (profile : QosProfile) (c : Controller) (change : LevelChange) :
    ∃ state, c.plan profile change =
      planActions ⟨profile.source, profile, state, c.currentLevel, change.overrideClampLevel,
        c.sender.inAudioOnlyMode⟩ := by
  unfold Controller.plan
  split <;> exact ⟨_, rfl⟩

theorem sender_changeLevel (hc : c.OnLadder profile) (h : Succeeds profile producer c change) :
    let c' := changeLevel profile producer c change
    c'.OnLadder profile ∧ (c'.currentLevel = c.currentLevel ∧ c'.sender = c.sender ∨
      c'.sender = (profile.patchAt c'.currentLevel).apply ((leavePatch profile c.currentLevel
        c'.currentLevel c.sender.inAudioOnlyMode).apply c.sender)) := by
  intro c'
  obtain ⟨hsend, hset, hlev⟩ := executeActions_of_applied hc.settled h
  obtain ⟨state, hplan⟩ := plan_eq profile c change
  set input : PlannerInput := ⟨profile.source, profile, state, c.currentLevel,
    change.overrideClampLevel, c.sender.inAudioOnlyMode⟩ with hin
  have hcur : clampLevel input.currentLevel (resolveMaxLevel input.profile) =
      c.currentLevel := clampLevel_of_mem hc.nonneg hc.le
  have hne : c.plan profile change ≠ [] := by
    rw [hplan]
    exact planActions_ne_nil input
  have hplanned := hlev (plannedLevel input) hne fun a ha =>
    level_of_mem_planActions (hplan ▸ ha)
  change c'.currentLevel = _ at hplanned
  refine ⟨⟨?_, ?_, hset⟩, ?_⟩
  · rw [hplanned]
    exact (plannedLevel_mem input).1
  · rw [hplanned]
    exact (plannedLevel_mem input).2
  rw [hplanned]
  change _ ∧ (executeActions _ _ _).sender = _ ∨ (executeActions _ _ _).sender = _
  rw [hsend, hplan]
  rcases planActions_eq input with ⟨heq, hstay⟩ | heq
  · rw [heq, hstay, hcur]
    exact .inl ⟨rfl, rfl⟩
  · rw [heq, hcur]
    exact .inr (foldl_effect_actionsForLevel profile state _ _ _ _ _)

end Change

/-! ### Paths -/

section Paths

variable (profile : QosProfile) (producer : SenderProducer) (s0 : SenderState)

/-- The sender depends on the level only: it is what the step of the level makes of the first
settings. -/
structure PathIndependent : Prop where
  direct : ∀ changes, AllSucceed profile producer s0 changes →
    (levelsAfter profile producer s0 changes).sender =
      directSender profile (levelsAfter profile producer s0 changes).currentLevel s0
  agree : ∀ changes changes', AllSucceed profile producer s0 changes →
    AllSucceed profile producer s0 changes' →
    (levelsAfter profile producer s0 changes).currentLevel =
        (levelsAfter profile producer s0 changes').currentLevel →
      (levelsAfter profile producer s0 changes).sender =
        (levelsAfter profile producer s0 changes').sender

def Walks (level level' : ℤ) : Prop :=
  ∃ changes change, AllSucceed profile producer s0 (changes ++ [change]) ∧
    (levelsAfter profile producer s0 changes).currentLevel = level ∧
    (levelsAfter profile producer s0 (changes ++ [change])).currentLevel = level'

variable {profile producer s0}

theorem onLadder_levelsAfter {changes : List LevelChange}
    (h : AllSucceed profile producer s0 changes) :
    (levelsAfter profile producer s0 changes).OnLadder profile :=
  StepsMeet.inv (Controller.OnLadder profile) (fun _ _ hc hok => (sender_changeLevel hc hok).1)
    changes _ h ⟨le_rfl, resolveMaxLevel_nonneg profile, nofun⟩

theorem levelsAfter_concat (changes : List LevelChange) (change : LevelChange) :
    levelsAfter profile producer s0 (changes ++ [change]) =
      changeLevel profile producer (levelsAfter profile producer s0 changes) change :=
  runFrom_concat _ _ _

theorem direct_concat_iff {changes : List LevelChange} {change : LevelChange}
    (h : AllSucceed profile producer s0 (changes ++ [change]))
    {level level' : ℤ} (hlev : (levelsAfter profile producer s0 changes).currentLevel = level)
    (hdir : (levelsAfter profile producer s0 changes).sender = directSender profile level s0)
    (hlev' : (levelsAfter profile producer s0 (changes ++ [change])).currentLevel = level') :
    (levelsAfter profile producer s0 (changes ++ [change])).sender =
        directSender profile level' s0 ↔ (level ≠ level' → Restores s0
        ((leavePatch profile level level' (directSender profile level s0).inAudioOnlyMode).overlay
          (profile.patchAt level)) (profile.patchAt level')) := by
  obtain ⟨hbef, hok⟩ := h.last
  have hstep := (sender_changeLevel (onLadder_levelsAfter hbef) hok).2
  rw [← levelsAfter_concat, hlev, hlev', hdir] at hstep
  by_cases hsame : level = level'
  · subst hsame
    refine iff_of_true ?_ fun hne => absurd rfl hne
    rcases hstep with ⟨-, hstay⟩ | hagain
    · exact hstay
    · rw [hagain, leavePatch, if_neg (by simp), Patch.apply_empty, directSender_eq,
        Patch.apply_apply_self]
  · have hmoved := hstep.resolve_left fun hstay => hsame hstay.1.symm
    rw [hmoved, restores_iff, Patch.apply_overlay, directSender_eq, directSender_eq]
    exact ⟨fun h _ => h, fun h => h hsame⟩

/-- **The sender depends on the level only if every change of level restores what it leaves
open**, and the settings at first are those of level 0. -/
theorem pathIndependent_iff (profile : QosProfile) (producer : SenderProducer)
    (s0 : SenderState) :
    PathIndependent profile producer s0 ↔
      directSender profile 0 s0 = s0 ∧
        ∀ level level', Walks profile producer s0 level level' → level ≠ level' →
          Restores s0
            ((leavePatch profile level level'
              (directSender profile level s0).inAudioOnlyMode).overlay (profile.patchAt level))
            (profile.patchAt level') := by
  constructor
  · intro h
    refine ⟨(h.direct [] trivial).symm, ?_⟩
    rintro _ _ ⟨changes, change, hall, rfl, rfl⟩
    exact (direct_concat_iff hall rfl (h.direct changes hall.last.1) rfl).mp (h.direct _ hall)
  · rintro ⟨hzero, hwalks⟩
    have hdir : ∀ changes, AllSucceed profile producer s0 changes →
        (levelsAfter profile producer s0 changes).sender =
          directSender profile (levelsAfter profile producer s0 changes).currentLevel s0 := by
      intro changes
      induction changes using List.reverseRecOn with
      | nil => exact fun _ => hzero.symm
      | append_singleton changes change ih =>
        intro hall
        exact (direct_concat_iff hall rfl (ih hall.last.1) rfl).mpr
          (hwalks _ _ ⟨changes, change, hall, rfl, rfl⟩)
    refine ⟨hdir, fun changes changes' hall hall' hlev => ?_⟩
    rw [hdir changes hall, hdir changes' hall', hlev]

end Paths

def backAt (profile : QosProfile) (producer : SenderProducer) (s0 : SenderState)
    (changes : List LevelChange) : Option (ℤ × SenderState × SenderState) :=
  if directSender profile 0 s0 = s0 ∧ AllSucceed profile producer s0 changes then
    let c := levelsAfter profile producer s0 changes
    some (c.currentLevel, c.sender, directSender profile c.currentLevel s0)
  else none

def downAndBack (samples : ℕ) (clamp : ℤ) : List LevelChange :=
  List.replicate samples { state := .congested } ++
    [{ state := .congested, overrideClampLevel := some clamp }]

/-- Back at level 2 from level 3 a camera still sends its lowest layer only; clamped to level 2
at level 4 a screen share stays paused; and back at level 0 an audio track keeps its adaptive
packet times. -/
theorem settings_left_over :
    (∀ profile ∈ [defaultCameraProfile, conservativeCameraProfile],
      (backAt profile ⟨.video, false⟩ ⟨some 900000, some 30, some 1, none, none, false, false⟩
          (downAndBack 3 2)).map (fun (level, sender, direct) =>
            (level, sender.maxSpatialLayer, direct.maxSpatialLayer)) =
        some (2, some 0, none)) ∧
      (backAt defaultScreenShareProfile ⟨.video, false⟩
          ⟨some 1800000, some 15, some 1, none, none, false, false⟩ (downAndBack 4 2)).map
            (fun (level, sender, direct) => (level, sender.paused, direct.paused)) =
        some (2, true, false) ∧
      (backAt defaultAudioProfile ⟨.audio, false⟩
          ⟨some 510000, none, none, none, none, false, false⟩ (downAndBack 1 0)).map
            (fun (level, sender, direct) => (level, sender.adaptivePtime, direct.adaptivePtime)) =
        some (0, some true, none) := by
  decide +kernel

end MediasoupCpp
