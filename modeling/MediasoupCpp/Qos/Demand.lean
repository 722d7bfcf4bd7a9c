import MediasoupCpp.Lib.Dict
import MediasoupCpp.Lib.Run
import MediasoupCpp.Qos.DownlinkAllocator
import MediasoupCpp.Qos.Override

/-!
# The demand on the producers of a room

Every pass adds up, over the plans of the subscribers, how many of them see a producer and which
layers they get.  From this and the states of the pass before it makes the states of the
producers: whether a producer is sent in full, clamped, held because nobody sees it any more,
paused, or warming up again.

Main results: `paused_confirmed`, `warmsUp_iff`.

Source: `src/qos/ProducerDemandAggregator.h`, `src/qos/ProducerDemandAggregator.cpp`.
-/

namespace MediasoupCpp

open List Runs Dict

/-! ### Adding up the plans -/

structure AllocatedLayer where
  spatial : UInt8 := 0
  temporal : UInt8 := 0
  paused : Bool := true

variable (layerMap : Dict String AllocatedLayer)

def applyAction (a : DownlinkAction) :
    Dict String AllocatedLayer :=
  let entry := (layerMap.lookup a.consumerId).getD {}
  layerMap.insert a.consumerId
    (match a.type with
      | .setLayers => { entry with spatial := a.spatialLayer, temporal := a.temporalLayer }
      | .resume => { entry with paused := false }
      | .pause => { entry with paused := true }
      | _ => entry)

structure Accumulator where
  maxSpatialLayer : UInt8 := 0
  maxTemporalLayer : UInt8 := 0
  visibleSubscriberCount : ℕ := 0
  highPrioritySubscriberCount : ℕ := 0

abbrev Accumulators : Type := Dict String Accumulator

def Accumulator.add (acc : Accumulator) (sub : DownlinkSubscription) (layer : AllocatedLayer) :
    Accumulator where
  maxSpatialLayer := max acc.maxSpatialLayer layer.spatial
  maxTemporalLayer := max acc.maxTemporalLayer layer.temporal
  visibleSubscriberCount := acc.visibleSubscriberCount + if sub.visible then 1 else 0
  highPrioritySubscriberCount :=
    acc.highPrioritySubscriberCount + if sub.pinned || sub.isScreenShare then 1 else 0

def addSubscription (accs : Accumulators)
    (sub : DownlinkSubscription) : Accumulators :=
  let acc := (accs.lookup sub.producerId).getD {}
  accs.insert sub.producerId
    (match layerMap.lookup sub.consumerId with
      | some layer => if layer.paused then acc else acc.add sub layer
      | none => acc)

def addSubscriberPlan (accs : Accumulators) (snapshot : DownlinkSnapshot)
    (plan : SubscriberBudgetPlan) : Accumulators :=
  snapshot.subscriptions.foldl (addSubscription (plan.actions.foldl applyAction ∅)) accs

/-! ### The state of a producer -/

def kHoldMs : ℤ := 2000
def kPauseConfirmMs : ℤ := 4000
def kResumeWarmupMs : ℤ := 1000

def servedState (maxSpatialLayer : UInt8) : ProducerSupplyState :=
  if maxSpatialLayer < 2 then .lowClamped else .active

def advanceSupplyState (state : ProducerDemandState) (zeroDemand : Bool) (nowMs : ℤ) :
    ProducerSupplyState :=
  if !zeroDemand then
    match state.supplyState with
    | .paused => .resumeWarmup
    | .resumeWarmup =>
      if state.resumeEligibleAtMs ≠ kUnsetDemandTimeMs ∧ state.resumeEligibleAtMs ≤ nowMs then
        servedState state.maxSpatialLayer
      else .resumeWarmup
    | _ => servedState state.maxSpatialLayer
  else
    match state.supplyState with
    | .active | .lowClamped => .zeroDemandHold
    | .zeroDemandHold =>
      if state.pauseEligibleAtMs ≠ kUnsetDemandTimeMs ∧ state.pauseEligibleAtMs ≤ nowMs then .paused
      else .zeroDemandHold
    | .paused => .paused
    | .resumeWarmup => .zeroDemandHold

namespace ProducerDemandState

variable (state : ProducerDemandState)

def carryForward :
    Option ProducerDemandState → ProducerDemandState
  | none => state
  | some prev =>
    { state with
      supplyState := prev.supplyState
      lastNonZeroDemandAtMs := prev.lastNonZeroDemandAtMs
      pauseEligibleAtMs := prev.pauseEligibleAtMs
      resumeEligibleAtMs := prev.resumeEligibleAtMs
      lastPauseSentAtMs := prev.lastPauseSentAtMs
      lastResumeSentAtMs := prev.lastResumeSentAtMs }

variable (prev : Option ProducerDemandState)

def zeroSince (nowMs : ℤ) : ℤ :=
  match prev with
  | some prev => if 0 < prev.zeroDemandSinceMs then prev.zeroDemandSinceMs else nowMs
  | none => nowMs

def withoutDemand (since nowMs : ℤ) : ProducerDemandState :=
  let state :=
    { state with
      zeroDemandSinceMs := since
      holdUntilMs := since + kHoldMs
      pauseEligibleAtMs :=
        if state.pauseEligibleAtMs = kUnsetDemandTimeMs then since + kPauseConfirmMs
        else state.pauseEligibleAtMs }
  { state with supplyState := advanceSupplyState state true nowMs }

def withDemand (nowMs : ℤ) :
    ProducerDemandState :=
  let state :=
    { state with
      lastNonZeroDemandAtMs := nowMs
      zeroDemandSinceMs := 0
      holdUntilMs := 0
      pauseEligibleAtMs := kUnsetDemandTimeMs
      resumeEligibleAtMs :=
        if prev.map ProducerDemandState.supplyState = some ProducerSupplyState.paused ∧
            state.resumeEligibleAtMs = kUnsetDemandTimeMs then nowMs + kResumeWarmupMs
        else state.resumeEligibleAtMs }
  { state with supplyState := advanceSupplyState state false nowMs }

def clearResume : ProducerDemandState :=
  if state.supplyState ≠ .resumeWarmup then { state with resumeEligibleAtMs := kUnsetDemandTimeMs }
  else state

end ProducerDemandState

open ProducerDemandState

def Accumulator.state (acc : Accumulator) (producerId : String) : ProducerDemandState where
  producerId := producerId
  maxSpatialLayer := acc.maxSpatialLayer
  maxTemporalLayer := acc.maxTemporalLayer
  visibleSubscriberCount := acc.visibleSubscriberCount
  highPrioritySubscriberCount := acc.highPrioritySubscriberCount

def seenState (nowMs : ℤ) (producerId : String) (acc : Accumulator)
    (prev : Option ProducerDemandState) : ProducerDemandState :=
  let state := (acc.state producerId).carryForward prev
  if acc.visibleSubscriberCount = 0 then
    (state.withoutDemand (zeroSince prev nowMs) nowMs).clearResume
  else (state.withDemand prev nowMs).clearResume

def missingState (nowMs : ℤ) (producerId : String) (prev : ProducerDemandState) :
    ProducerDemandState :=
  let state : ProducerDemandState :=
    { producerId := producerId, publisherPeerId := prev.publisherPeerId }
  (state.carryForward (some prev)).withoutDemand (zeroSince (some prev) nowMs) nowMs

def kept (nowMs : ℤ) (state : ProducerDemandState) : Bool :=
  nowMs < state.holdUntilMs || state.supplyState = .paused

/-! ### The states of a pass -/

structure DemandMap where
  states : Dict String ProducerDemandState
  keyed : ∀ {producerId state}, states.lookup producerId = some state →
    state.producerId = producerId

namespace DemandMap

instance : EmptyCollection DemandMap := ⟨⟨∅, nofun⟩⟩

def lookup (demand : DemandMap) (producerId : String) : Option ProducerDemandState :=
  demand.states.lookup producerId

def supply (demand : DemandMap) (producerId : String) : Option ProducerSupplyState :=
  (demand.lookup producerId).map ProducerDemandState.supplyState

def reindex (states : List ProducerDemandState) : DemandMap where
  states := Dict.indexBy ProducerDemandState.producerId states
  keyed h := (Dict.mem_of_lookup_indexBy h).2

end DemandMap

def finalize (nowMs : ℤ) (accs : Accumulators) (prev : DemandMap) : List ProducerDemandState :=
  accs.toPairs.map (fun (producerId, acc) =>
      seenState nowMs producerId acc (prev.lookup producerId)) ++
    ((prev.states.toPairs.filter fun (producerId, _) => (accs.lookup producerId).isNone).map
      fun (producerId, state) => missingState nowMs producerId state).filter (kept nowMs)

structure PlannedSubscriber where
  peerId : String
  snapshot : DownlinkSnapshot
  plan : SubscriberBudgetPlan

structure AggregationPass where
  nowMs : ℤ
  subscribers : List PlannedSubscriber

namespace AggregationPass

variable (pass : AggregationPass)

def accumulators : Accumulators :=
  pass.subscribers.foldl (fun accs sub => addSubscriberPlan accs sub.snapshot sub.plan) ∅

def visibleDemand (producerId : String) : ℕ :=
  ((pass.accumulators.lookup producerId).map Accumulator.visibleSubscriberCount).getD 0

end AggregationPass

open AggregationPass

def aggregate (demand : DemandMap) (pass : AggregationPass) : DemandMap :=
  .reindex (finalize pass.nowMs pass.accumulators demand)

def demandAfter (passes : List AggregationPass) : DemandMap := runFrom aggregate ∅ passes

/-! ### What a pass makes of a producer -/

section Lookup

variable {nowMs : ℤ} {producerId : String}

theorem producerId_clearResume (state : ProducerDemandState) :
    state.clearResume.producerId = state.producerId := by
  unfold clearResume
  split <;> rfl

theorem producerId_seenState (acc : Accumulator) (prev : Option ProducerDemandState) :
    (seenState nowMs producerId acc prev).producerId = producerId := by
  cases prev <;> simp only [seenState] <;> split <;> exact producerId_clearResume _

theorem producerId_missingState (prev : ProducerDemandState) :
    (missingState nowMs producerId prev).producerId = producerId :=
  rfl

theorem mem_finalize {accs : Accumulators} {prev : DemandMap} {state : ProducerDemandState} :
    state ∈ finalize nowMs accs prev ↔ (∃ producerId acc, accs.lookup producerId = some acc ∧
          state = seenState nowMs producerId acc (prev.lookup producerId)) ∨
        ∃ producerId old, accs.lookup producerId = none ∧ prev.lookup producerId = some old ∧
          kept nowMs state ∧ state = missingState nowMs producerId old := by
  rw [finalize, mem_append]
  refine or_congr ?_ ?_
  · simp only [mem_map, Prod.exists, mem_toPairs, eq_comm]
  simp only [mem_filter, mem_map, Prod.exists, mem_toPairs, Option.isNone_iff_eq_none]
  constructor
  · rintro ⟨⟨producerId, old, ⟨hold, hnone⟩, rfl⟩, hkept⟩
    exact ⟨producerId, old, hnone, hold, hkept, rfl⟩
  · rintro ⟨producerId, old, hnone, hold, hkept, rfl⟩
    exact ⟨⟨producerId, old, ⟨hold, hnone⟩, rfl⟩, hkept⟩

theorem nodup_finalize (accs : Accumulators) (prev : DemandMap) :
    ((finalize nowMs accs prev).map ProducerDemandState.producerId).Nodup := by
  have hseen : (accs.toPairs.map fun (producerId, acc) =>
      seenState nowMs producerId acc (prev.lookup producerId)).map ProducerDemandState.producerId =
        accs.keys := by
    rw [map_map, ← map_fst_toPairs]
    exact map_congr_left fun e _ => producerId_seenState _ _
  let missing := (prev.states.toPairs.filter fun (producerId, _) =>
    (accs.lookup producerId).isNone).map fun (producerId, state) =>
      missingState nowMs producerId state
  have hmissing : missing.map ProducerDemandState.producerId =
      prev.states.keys.filter fun producerId => (accs.lookup producerId).isNone := by
    rw [map_map, ← map_fst_toPairs, filter_map]
    rfl
  rw [finalize, map_append, hseen, nodup_append]
  have hsub := (filter_sublist (p := kept nowMs) (l := missing)).map ProducerDemandState.producerId
  rw [hmissing] at hsub
  refine ⟨accs.keys_nodup, hsub.nodup (prev.states.keys_nodup.filter _), ?_⟩
  rintro producerId hacc _ hmem rfl
  have hnone := (mem_filter.mp (hsub.subset hmem)).2
  have hsome : (accs.lookup producerId).isSome := AList.lookup_isSome.mpr hacc
  rw [Option.isNone_iff_eq_none] at hnone
  rw [hnone] at hsome
  cases hsome

theorem lookup_reindex_finalize (accs : Accumulators) (prev : DemandMap) (producerId : String) :
    (DemandMap.reindex (finalize nowMs accs prev)).lookup producerId =
      match accs.lookup producerId with
      | some acc => some (seenState nowMs producerId acc (prev.lookup producerId))
      | none => ((prev.lookup producerId).map (missingState nowMs producerId)).filter
          (kept nowMs) := by
  ext state
  rw [DemandMap.lookup, DemandMap.reindex, lookup_indexBy (nodup_finalize _ _), mem_finalize]
  constructor
  · rintro ⟨⟨id, acc, hacc, rfl⟩ | ⟨id, old, hnone, hold, hkept, rfl⟩, hid⟩
    · rw [producerId_seenState] at hid
      subst hid
      rw [hacc]
    rw [producerId_missingState] at hid
    subst hid
    rw [hnone, hold]
    simp [hkept]
  · intro h
    cases hacc : accs.lookup producerId with
    | some acc =>
      rw [hacc] at h
      cases h
      exact ⟨.inl ⟨_, acc, hacc, rfl⟩, producerId_seenState _ _⟩
    | none =>
      rw [hacc] at h
      simp only [Option.filter_eq_some_iff, Option.map_eq_some_iff] at h
      obtain ⟨⟨old, hold, rfl⟩, hkept⟩ := h
      exact ⟨.inr ⟨_, old, hacc, hold, hkept, rfl⟩, producerId_missingState _⟩

theorem lookup_aggregate (demand : DemandMap) (pass : AggregationPass) (producerId : String) :
    (aggregate demand pass).lookup producerId = match pass.accumulators.lookup producerId with
      | some acc => some (seenState pass.nowMs producerId acc (demand.lookup producerId))
      | none => ((demand.lookup producerId).map (missingState pass.nowMs producerId)).filter
          (kept pass.nowMs) :=
  lookup_reindex_finalize _ _ _

end Lookup

theorem demandAfter_concat (passes : List AggregationPass) (pass : AggregationPass) :
    demandAfter (passes ++ [pass]) = aggregate (demandAfter passes) pass :=
  runFrom_concat _ _ _

/-! ### Pausing -/

section Pausing

variable {demand : DemandMap} {pass : AggregationPass} {producerId : String}
  {state : ProducerDemandState}

@[simp] theorem supplyState_clearResume (state : ProducerDemandState) :
    state.clearResume.supplyState = state.supplyState := by
  unfold clearResume
  split <;> rfl

@[simp] theorem zeroDemandSinceMs_clearResume (state : ProducerDemandState) :
    state.clearResume.zeroDemandSinceMs = state.zeroDemandSinceMs := by
  unfold clearResume
  split <;> rfl

@[simp] theorem pauseEligibleAtMs_clearResume (state : ProducerDemandState) :
    state.clearResume.pauseEligibleAtMs = state.pauseEligibleAtMs := by
  unfold clearResume
  split <;> rfl

variable (prev : Option ProducerDemandState)

def pauseDue (nowMs : ℤ) : ℤ :=
  let due := (prev.map ProducerDemandState.pauseEligibleAtMs).getD kUnsetDemandTimeMs
  if due = kUnsetDemandTimeMs then zeroSince prev nowMs + kPauseConfirmMs else due

theorem advanceSupplyState_eq_paused_iff {nowMs : ℤ} :
    advanceSupplyState state true nowMs = .paused ↔
      state.supplyState = .paused ∨ state.supplyState = .zeroDemandHold ∧
        state.pauseEligibleAtMs ≠ kUnsetDemandTimeMs ∧ state.pauseEligibleAtMs ≤ nowMs := by
  unfold advanceSupplyState
  cases hsup : state.supplyState <;> simp

theorem advanceSupplyState_of_demand {nowMs : ℤ} : advanceSupplyState state false nowMs ≠ .paused ∧
      (state.supplyState = .paused → advanceSupplyState state false nowMs = .resumeWarmup) := by
  unfold advanceSupplyState servedState
  cases hsup : state.supplyState <;> simp <;> split <;> try split
  all_goals simp

theorem supplyState_carryForward (state : ProducerDemandState) (prev : Option ProducerDemandState) :
    (state.carryForward prev).supplyState =
      (prev.map ProducerDemandState.supplyState).getD state.supplyState := by
  cases prev <;> rfl

theorem pauseEligibleAtMs_carryForward (state : ProducerDemandState)
    (prev : Option ProducerDemandState) : (state.carryForward prev).pauseEligibleAtMs =
      (prev.map ProducerDemandState.pauseEligibleAtMs).getD state.pauseEligibleAtMs := by
  cases prev <;> rfl

theorem withoutDemand_carryForward (nowMs : ℤ)
    (hact : state.supplyState = .active)
    (hunset : state.pauseEligibleAtMs = kUnsetDemandTimeMs) :
    ((state.carryForward prev).withoutDemand (zeroSince prev nowMs) nowMs).pauseEligibleAtMs =
        pauseDue prev nowMs ∧
      (((state.carryForward prev).withoutDemand (zeroSince prev nowMs) nowMs).supplyState =
          .paused ↔ prev.map ProducerDemandState.supplyState = some .paused ∨
            prev.map ProducerDemandState.supplyState = some .zeroDemandHold ∧
              pauseDue prev nowMs ≠ kUnsetDemandTimeMs ∧ pauseDue prev nowMs ≤ nowMs) := by
  have hdue : ((state.carryForward prev).withoutDemand (zeroSince prev nowMs)
      nowMs).pauseEligibleAtMs = pauseDue prev nowMs := by
    simp only [withoutDemand, pauseEligibleAtMs_carryForward, hunset, pauseDue]
  simp only [withoutDemand] at hdue ⊢
  rw [advanceSupplyState_eq_paused_iff, hdue, supplyState_carryForward, hact]
  cases prev <;> simp

theorem aggregate_cases (h : (aggregate demand pass).lookup producerId = some state) :
    (pass.visibleDemand producerId = 0 ∧
        state.zeroDemandSinceMs = zeroSince (demand.lookup producerId) pass.nowMs ∧
        state.pauseEligibleAtMs = pauseDue (demand.lookup producerId) pass.nowMs ∧
        (state.supplyState = .paused ↔ demand.supply producerId = some .paused ∨
          demand.supply producerId = some .zeroDemandHold ∧
            state.pauseEligibleAtMs ≠ kUnsetDemandTimeMs ∧ state.pauseEligibleAtMs ≤ pass.nowMs)) ∨
      (0 < pass.visibleDemand producerId ∧ state.zeroDemandSinceMs = 0 ∧
        state.pauseEligibleAtMs = kUnsetDemandTimeMs ∧ state.supplyState ≠ .paused ∧
          (demand.supply producerId = some .paused → state.supplyState = .resumeWarmup)) := by
  rw [lookup_aggregate] at h
  cases hacc : pass.accumulators.lookup producerId with
  | some acc =>
    rw [hacc] at h
    cases h
    have hvis : pass.visibleDemand producerId = acc.visibleSubscriberCount := by
      rw [visibleDemand, hacc]
      rfl
    rw [hvis]
    by_cases hzero : acc.visibleSubscriberCount = 0
    · left
      simp only [seenState, if_pos hzero, zeroDemandSinceMs_clearResume,
        pauseEligibleAtMs_clearResume, supplyState_clearResume]
      obtain ⟨hdue, hpau⟩ := @withoutDemand_carryForward (acc.state producerId)
        (demand.lookup producerId) pass.nowMs rfl rfl
      exact ⟨hzero, rfl, hdue, hdue ▸ hpau⟩
    · right
      simp only [seenState, if_neg hzero, zeroDemandSinceMs_clearResume,
        pauseEligibleAtMs_clearResume, supplyState_clearResume, withDemand]
      refine ⟨Nat.pos_of_ne_zero hzero, trivial, trivial, advanceSupplyState_of_demand.1,
        fun hwas => advanceSupplyState_of_demand.2 ?_⟩
      rw [DemandMap.supply] at hwas
      simp only [supplyState_carryForward, hwas, Option.getD_some]
  | none =>
    rw [hacc] at h
    simp only [Option.filter_eq_some_iff, Option.map_eq_some_iff] at h
    obtain ⟨⟨old, hold, rfl⟩, -⟩ := h
    left
    obtain ⟨hdue, hpau⟩ := @withoutDemand_carryForward
      { producerId := producerId, publisherPeerId := old.publisherPeerId } (some old) pass.nowMs
      rfl rfl
    rw [DemandMap.supply, hold]
    exact ⟨by rw [visibleDemand, hacc]; rfl, rfl, hdue, hdue ▸ hpau⟩

def NoDemandSince (passes : List AggregationPass) (sinceMs : ℤ) (producerId : String) : Prop :=
  ∃ earlier pass later, passes = earlier ++ pass :: later ∧ pass.nowMs = sinceMs ∧
    ∀ q ∈ pass :: later, q.visibleDemand producerId = 0

variable {passes : List AggregationPass}

theorem NoDemandSince.concat {sinceMs : ℤ}
    (h : NoDemandSince passes sinceMs producerId) (hzero : pass.visibleDemand producerId = 0) :
    NoDemandSince (passes ++ [pass]) sinceMs producerId := by
  obtain ⟨earlier, q, later, rfl, hq, hnone⟩ := h
  refine ⟨earlier, q, later ++ [pass], by simp, hq, fun r hr => ?_⟩
  rw [← cons_append, mem_append, mem_singleton] at hr
  rcases hr with hr | rfl
  · exact hnone r hr
  · exact hzero

def TimersRight (passes : List AggregationPass) (demand : DemandMap) : Prop :=
  ∀ producerId state, demand.lookup producerId = some state →
    (0 < state.zeroDemandSinceMs → NoDemandSince passes state.zeroDemandSinceMs producerId) ∧
      (state.pauseEligibleAtMs ≠ kUnsetDemandTimeMs → 0 < state.zeroDemandSinceMs ∧
        state.pauseEligibleAtMs = state.zeroDemandSinceMs + kPauseConfirmMs)

section

variable (h : TimersRight passes demand)
include h

theorem TimersRight.noDemandSince (hzero : pass.visibleDemand producerId = 0) :
    NoDemandSince (passes ++ [pass]) (zeroSince (demand.lookup producerId) pass.nowMs)
      producerId := by
  have hnow : NoDemandSince (passes ++ [pass]) pass.nowMs producerId :=
    ⟨passes, pass, [], rfl, rfl, by simpa using hzero⟩
  cases hprev : demand.lookup producerId with
  | none => exact hnow
  | some old =>
    simp only [zeroSince]
    split
    next hold =>
      exact ((h producerId old hprev).1 hold).concat hzero
    · exact hnow

theorem TimersRight.pauseDue_eq (hnow : 0 < pass.nowMs) (producerId : String) :
    0 < zeroSince (demand.lookup producerId) pass.nowMs ∧
      pauseDue (demand.lookup producerId) pass.nowMs =
        zeroSince (demand.lookup producerId) pass.nowMs + kPauseConfirmMs := by
  cases hprev : demand.lookup producerId with
  | none => exact ⟨hnow, rfl⟩
  | some old =>
    simp only [pauseDue, zeroSince, Option.map_some, Option.getD_some]
    by_cases hunset : old.pauseEligibleAtMs = kUnsetDemandTimeMs
    · split
      next hold =>
        exact ⟨hold, rfl⟩
      · exact ⟨hnow, rfl⟩
    · obtain ⟨hold, hdue⟩ := (h producerId old hprev).2 hunset
      rw [if_neg hunset, if_pos hold]
      exact ⟨hold, hdue⟩

theorem TimersRight.concat (hnow : 0 < pass.nowMs) :
    TimersRight (passes ++ [pass]) (aggregate demand pass) := by
  intro producerId state hst
  obtain ⟨hzero, hsince, hdue, -⟩ | ⟨-, hsince, hdue, -⟩ := aggregate_cases hst
  · obtain ⟨hpos, hconfirm⟩ := h.pauseDue_eq hnow producerId
    rw [hsince, hdue]
    exact ⟨fun _ => h.noDemandSince hzero, fun _ => ⟨hpos, hconfirm⟩⟩
  · exact ⟨fun hpos => absurd hsince hpos.ne', fun hset => absurd hdue hset⟩

end

theorem timersRight_demandAfter
    (hpos : ∀ pass ∈ passes, 0 < pass.nowMs) : TimersRight passes (demandAfter passes) := by
  induction passes using List.reverseRecOn with
  | nil => exact fun _ _ hst => nomatch hst
  | append_singleton passes pass ih =>
    rw [forall_mem_append, forall_mem_singleton] at hpos
    rw [demandAfter_concat]
    exact (ih hpos.1).concat hpos.2

theorem supply_of_paused (hwas : demand.supply producerId = some .paused) :
    (aggregate demand pass).supply producerId = some .paused ∨
      (aggregate demand pass).supply producerId = some .resumeWarmup ∧
        0 < pass.visibleDemand producerId := by
  obtain ⟨old, hold, hpau⟩ := Option.map_eq_some_iff.mp hwas
  have hsome : ((aggregate demand pass).lookup producerId).isSome := by
    rw [lookup_aggregate]
    cases pass.accumulators.lookup producerId with
    | some acc => rfl
    | none =>
      -- what was paused is paused without demand, and so it stays
      have hstay : (missingState pass.nowMs producerId old).supplyState = .paused :=
        advanceSupplyState_eq_paused_iff.mpr (.inl hpau)
      simp [hold, kept, hstay]
  obtain ⟨_, hst⟩ := Option.isSome_iff_exists.mp hsome
  rw [DemandMap.supply, hst, Option.map_some]
  obtain ⟨-, -, -, hiff⟩ | ⟨hvis, -, -, -, hwarm⟩ := aggregate_cases hst
  · exact .inl (congrArg some (hiff.mpr (.inl hwas)))
  · exact .inr ⟨congrArg some (hwarm hwas), hvis⟩

/-- **A producer is paused only after nobody has seen it for four seconds**: there is a
pass at least that long ago, and in none since then was it seen.  And a paused producer
stays until it warms up, because somebody sees it. -/
theorem paused_confirmed (passes : List AggregationPass) (pass : AggregationPass)
    (hpos : ∀ q ∈ passes ++ [pass], 0 < q.nowMs) (producerId : String) :
    ((demandAfter passes).supply producerId ≠ some .paused →
        (demandAfter (passes ++ [pass])).supply producerId = some .paused →
          ∃ earlier q later, passes = earlier ++ q :: later ∧
            q.nowMs ≤ pass.nowMs - kPauseConfirmMs ∧
              ∀ r ∈ q :: later ++ [pass], r.visibleDemand producerId = 0) ∧
      ((demandAfter passes).supply producerId = some .paused →
        (demandAfter (passes ++ [pass])).supply producerId = some .paused ∨
          (demandAfter (passes ++ [pass])).supply producerId = some .resumeWarmup ∧
            0 < pass.visibleDemand producerId) := by
  have htim := timersRight_demandAfter hpos
  rw [demandAfter_concat] at htim ⊢
  refine ⟨fun hwas hpau => ?_, supply_of_paused⟩
  obtain ⟨state, hst, hsup⟩ := Option.map_eq_some_iff.mp hpau
  obtain ⟨-, -, -, hiff⟩ | ⟨-, -, -, hne, -⟩ := aggregate_cases hst
  · -- it was held until it was due
    obtain ⟨-, hset, _⟩ := (hiff.mp hsup).resolve_left hwas
    obtain ⟨hsince, _⟩ := (htim producerId state hst).2 hset
    obtain ⟨earlier, q, later, hpasses, _, hnone⟩ := (htim producerId state hst).1 hsince
    have hlong : q.nowMs ≤ pass.nowMs - kPauseConfirmMs := by omega
    -- a pass that long ago is not the last one
    rcases eq_nil_or_concat later with rfl | ⟨later, last, rfl⟩
    · obtain ⟨-, hlast⟩ := append_inj' hpasses rfl
      obtain rfl : pass = q := by simpa using hlast
      simp only [kPauseConfirmMs] at hlong
      omega
    · rw [concat_eq_append, ← cons_append, ← append_assoc] at hpasses
      obtain ⟨rfl, hlast⟩ := append_inj' hpasses rfl
      obtain rfl : pass = last := by simpa using hlast
      exact ⟨earlier, q, later, rfl, hlong, by simpa using hnone⟩
  · exact absurd hsup hne

end Pausing

def visiblePass (nowMs : ℤ) (producerId : String) : AggregationPass where
  nowMs := nowMs
  subscribers :=
    [{ peerId := "subscriber"
       snapshot :=
        { seq := 1
          subscriberPeerId := "subscriber"
          subscriptions := [{ consumerId := "consumer", producerId := producerId }] }
       plan := { actions := [{ type := .resume, consumerId := "consumer" }] } }]

def emptyPass (nowMs : ℤ) : AggregationPass := ⟨nowMs, []⟩

theorem paused_confirmed_camera :
    (demandAfter [visiblePass 1 "camera", emptyPass 2, emptyPass 4002]).supply "camera" =
        some .paused ∧
      ∃ earlier q later, [visiblePass 1 "camera", emptyPass 2] = earlier ++ q :: later ∧
        q.nowMs ≤ 4002 - kPauseConfirmMs ∧
          ∀ r ∈ q :: later ++ [emptyPass 4002], r.visibleDemand "camera" = 0 :=
  ⟨by decide, (paused_confirmed [visiblePass 1 "camera", emptyPass 2] (emptyPass 4002)
    (by decide) "camera").1 (by decide) (by decide)⟩

/-! ### Warming up -/

def PassesInOrder (sinceMs : ℤ) (passes : List AggregationPass) : Prop :=
  (sinceMs :: passes.map AggregationPass.nowMs).Pairwise (· ≤ ·)

def WarmsUp (demand : DemandMap) (producerId : String) (sinceMs : ℤ) : Prop :=
  ∀ later pass, PassesInOrder sinceMs (later ++ [pass]) →
    (∀ q ∈ later ++ [pass], 0 < q.visibleDemand producerId) →
      pass.nowMs < sinceMs + kResumeWarmupMs →
        (runFrom aggregate demand (later ++ [pass])).supply producerId ≠ some .active ∧
          (runFrom aggregate demand (later ++ [pass])).supply producerId ≠ some .lowClamped

section WarmUp

variable {demand : DemandMap} {pass : AggregationPass} {producerId : String}
  {state : ProducerDemandState}

def WarmUntil (demand : DemandMap) (producerId : String) (untilMs : ℤ) : Prop :=
  ∃ state, demand.lookup producerId = some state ∧ state.supplyState = .resumeWarmup ∧
    state.resumeEligibleAtMs = untilMs

theorem lookup_aggregate_of_visible (hvis : 0 < pass.visibleDemand producerId) :
    ∃ acc : Accumulator, (aggregate demand pass).lookup producerId =
      some (((acc.state producerId).carryForward (demand.lookup producerId)).withDemand
        (demand.lookup producerId) pass.nowMs).clearResume := by
  rw [lookup_aggregate]
  cases hacc : pass.accumulators.lookup producerId with
  | none =>
    rw [visibleDemand, hacc] at hvis
    exact absurd hvis (Nat.lt_irrefl 0)
  | some acc =>
    rw [visibleDemand, hacc] at hvis
    have hpos : acc.visibleSubscriberCount ≠ 0 := hvis.ne'
    exact ⟨acc, by simp only [seenState, if_neg hpos]⟩

theorem warmUntil_of_paused {old : ProducerDemandState}
    (hold : demand.lookup producerId = some old) (hpau : old.supplyState = .paused)
    (hvis : 0 < pass.visibleDemand producerId) : WarmUntil (aggregate demand pass) producerId
      (if old.resumeEligibleAtMs = kUnsetDemandTimeMs then pass.nowMs + kResumeWarmupMs
        else old.resumeEligibleAtMs) := by
  obtain ⟨_, hst⟩ := @lookup_aggregate_of_visible demand pass producerId hvis
  refine ⟨_, hst, ?_⟩
  simp [hold, withDemand, carryForward, clearResume, advanceSupplyState, hpau]

variable {untilMs : ℤ}

theorem WarmUntil.step (h : WarmUntil demand producerId untilMs)
    (hvis : 0 < pass.visibleDemand producerId) (hearly : pass.nowMs < untilMs) :
    WarmUntil (aggregate demand pass) producerId untilMs := by
  obtain ⟨_, hold, hwarm, rfl⟩ := h
  obtain ⟨_, hst⟩ := @lookup_aggregate_of_visible demand pass producerId hvis
  refine ⟨_, hst, ?_⟩
  simp [hold, withDemand, carryForward, clearResume, advanceSupplyState, hwarm, not_le.mpr hearly]

theorem WarmUntil.served (h : WarmUntil demand producerId untilMs)
    (hset : untilMs ≠ kUnsetDemandTimeMs) (hvis : 0 < pass.visibleDemand producerId)
    (hlate : untilMs ≤ pass.nowMs) : (aggregate demand pass).supply producerId = some .active ∨
      (aggregate demand pass).supply producerId = some .lowClamped := by
  obtain ⟨_, hold, hwarm, rfl⟩ := h
  obtain ⟨_, hst⟩ := @lookup_aggregate_of_visible demand pass producerId hvis
  rw [DemandMap.supply, hst]
  simp only [hold, withDemand, carryForward, advanceSupplyState, hwarm, servedState,
    supplyState_clearResume, Option.map_some, Option.some.injEq, Bool.not_false, if_true,
    reduceCtorEq, if_false, hset, ne_eq, not_false_eq_true, hlate, and_self]
  split
  · exact .inr rfl
  · exact .inl rfl

theorem WarmUntil.run {passes : List AggregationPass} (h : WarmUntil demand producerId untilMs)
    (hvis : ∀ q ∈ passes, 0 < q.visibleDemand producerId)
    (hearly : ∀ q ∈ passes, q.nowMs < untilMs) :
    WarmUntil (runFrom aggregate demand passes) producerId untilMs := by
  induction passes generalizing demand with
  | nil => exact h
  | cons pass passes ih =>
    rw [forall_mem_cons] at hvis hearly
    exact ih (h.step hvis.1 hearly.1) hvis.2 hearly.2

theorem visibleDemand_visiblePass (nowMs : ℤ) (producerId : String) :
    (visiblePass nowMs producerId).visibleDemand producerId = 1 := by
  have hacc : (visiblePass nowMs producerId).accumulators.lookup producerId =
      some { visibleSubscriberCount := 1 } :=
    AList.lookup_insert _
  rw [visibleDemand, hacc]
  rfl

theorem PassesInOrder.le_last {sinceMs : ℤ} {passes : List AggregationPass}
    (h : PassesInOrder sinceMs (passes ++ [pass])) :
    ∀ q ∈ passes ++ [pass], q.nowMs ≤ pass.nowMs := by
  intro q hq
  rcases mem_append.mp hq with hq | hq
  · rw [PassesInOrder, map_append, pairwise_cons, pairwise_append] at h
    exact h.2.2.2 _ (mem_map_of_mem hq) _ (mem_singleton_self _)
  · rw [mem_singleton.mp hq]

theorem WarmUntil.warmsUp {sinceMs : ℤ} (h : WarmUntil demand producerId untilMs)
    (hset : untilMs ≠ kUnsetDemandTimeMs) :
    WarmsUp demand producerId sinceMs ↔ sinceMs + kResumeWarmupMs ≤ untilMs := by
  constructor
  · intro hwarms
    by_contra hlt
    -- a pass as soon as the deadline is over finds the producer served
    have hord : PassesInOrder sinceMs [visiblePass (max sinceMs untilMs) producerId] := by
      simp [PassesInOrder, visiblePass]
    have hvis :
        0 < (visiblePass (max sinceMs untilMs) producerId).visibleDemand producerId := by
      rw [visibleDemand_visiblePass]
      decide
    have hearly : max sinceMs untilMs < sinceMs + kResumeWarmupMs :=
      max_lt (by simp [kResumeWarmupMs]) (not_le.mp hlt)
    obtain ⟨hact, hclamped⟩ := hwarms [] _ hord (by simpa using hvis) hearly
    rcases h.served hset hvis (le_max_right _ _) with hserv | hserv
    · exact hact hserv
    · exact hclamped hserv
  · intro hle later pass hord hvis hearly
    have hbef : ∀ q ∈ later ++ [pass], q.nowMs < untilMs := fun q hq =>
      (hord.le_last q hq).trans_lt (hearly.trans_le hle)
    obtain ⟨_, hst, hwarm, -⟩ := h.run hvis hbef
    rw [DemandMap.supply, hst, Option.map_some, hwarm]
    decide

def DemandMap.resumeEligibleAtMs (demand : DemandMap) (producerId : String) : ℤ :=
  ((demand.lookup producerId).map ProducerDemandState.resumeEligibleAtMs).getD kUnsetDemandTimeMs

/-- **A warm-up lasts a second exactly when the producer was paused without a deadline left
over from an earlier one**, or with one that is late enough. -/
theorem warmsUp_iff (passes : List AggregationPass) (pass : AggregationPass)
    (hpos : ∀ q ∈ passes ++ [pass], 0 < q.nowMs) (producerId : String)
    (hpaused : (demandAfter passes).supply producerId = some .paused)
    (hwarm : (demandAfter (passes ++ [pass])).supply producerId = some .resumeWarmup) :
    WarmsUp (demandAfter (passes ++ [pass])) producerId pass.nowMs ↔
      (demandAfter passes).resumeEligibleAtMs producerId = kUnsetDemandTimeMs ∨
        pass.nowMs + kResumeWarmupMs ≤ (demandAfter passes).resumeEligibleAtMs producerId := by
  have hnow : 0 < pass.nowMs := hpos pass (by simp)
  rw [demandAfter_concat] at hwarm ⊢
  obtain ⟨old, hold, hsup⟩ := Option.map_eq_some_iff.mp hpaused
  have hdead : (demandAfter passes).resumeEligibleAtMs producerId = old.resumeEligibleAtMs := by
    rw [DemandMap.resumeEligibleAtMs, hold]
    rfl
  have hvis : 0 < pass.visibleDemand producerId := by
    rcases @supply_of_paused _ pass _ hpaused with hstay | ⟨-, hvis⟩
    · rw [hstay] at hwarm
      cases hwarm
    · exact hvis
  have huntil := warmUntil_of_paused hold hsup hvis
  rw [hdead]
  by_cases hunset : old.resumeEligibleAtMs = kUnsetDemandTimeMs
  · rw [if_pos hunset] at huntil
    have hset : pass.nowMs + kResumeWarmupMs ≠ kUnsetDemandTimeMs := by
      simp only [kResumeWarmupMs, kUnsetDemandTimeMs]
      omega
    rw [huntil.warmsUp hset]
    exact iff_of_true le_rfl (.inl hunset)
  · rw [if_neg hunset] at huntil
    rw [huntil.warmsUp hunset]
    exact (or_iff_right hunset).symm

theorem warmsUp_camera :
    (demandAfter [visiblePass 1 "camera", emptyPass 2, emptyPass 4002]).supply "camera" =
        some .paused ∧
      WarmsUp (demandAfter [visiblePass 1 "camera", emptyPass 2, emptyPass 4002,
        visiblePass 5000 "camera"]) "camera" 5000 :=
  ⟨by decide, (warmsUp_iff [visiblePass 1 "camera", emptyPass 2, emptyPass 4002]
    (visiblePass 5000 "camera") (by decide) "camera" (by decide) (by decide)).mpr
      (.inl (by decide))⟩

/-- A producer that disappears while it warms up keeps the deadline, and once it has been
paused for that, its next warm-up ends at once: here after a millisecond. -/
theorem served_after_left_over_deadline :
    let passes := [visiblePass 1 "camera", emptyPass 2, emptyPass 4002, visiblePass 5000 "camera",
      emptyPass 5100, emptyPass 9100]
    (demandAfter passes).supply "camera" = some .paused ∧
      (demandAfter (passes ++ [visiblePass 10000 "camera"])).supply "camera" =
        some .resumeWarmup ∧
      (demandAfter (passes ++ [visiblePass 10000 "camera", visiblePass 10001 "camera"])).supply
        "camera" = some .lowClamped := by
  decide

end WarmUp

end MediasoupCpp
