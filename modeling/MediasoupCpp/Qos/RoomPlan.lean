import MediasoupCpp.Qos.BudgetAllocator
import MediasoupCpp.Qos.Demand
import MediasoupCpp.Qos.Planning

/-!
# The planning pass of a room

A pass plans for the subscribers whose reports are fresh and adds up the demand of these plans.
The reports of the others are stale; the producers they name are to keep the demand they had.

Main result: `sameDemand_iff`.

Source: `src/RoomServiceDownlink.cpp`, `src/RoomDownlinkHelpers.h`,
`src/qos/RoomDownlinkPlanner.cpp`.
-/

namespace MediasoupCpp

open List Dict

/-! ### The pass -/

structure RoomDownlinkPlan where
  subscriberPlans : List PlannedSubscriber
  producerDemands : List ProducerDemandState

variable (A : SubscriberBudgetAllocator)

def SubscriberInput.planned (input : SubscriberInput) :
    PlannedSubscriber where
  peerId := input.peerId
  snapshot := input.snapshot
  plan := A.allocate input.snapshot input.degradeLevel

def planningPass (nowMs : ℤ) (inputs : List SubscriberInput) :
    AggregationPass where
  nowMs := nowMs
  subscribers := inputs.map (SubscriberInput.planned A)

def planRoom (inputs : List SubscriberInput) (nowMs : ℤ)
    (prevDemand : DemandMap) : RoomDownlinkPlan where
  subscriberPlans := inputs.map (SubscriberInput.planned A)
  producerDemands := finalize nowMs (planningPass A nowMs inputs).accumulators prevDemand

/-- Fill up the states of a pass by those of the producers of stale reports.  (The order they
come in is not determined in the source.) -/
def mergeStaleProducerDemands (demandStates : List ProducerDemandState)
    (staleProducerIds : Finset String) (prevDemand : DemandMap) : List ProducerDemandState :=
  demandStates ++ (prevDemand.states.toPairs.filter fun (producerId, _) =>
    producerId ∈ staleProducerIds ∧
      producerId ∉ demandStates.map ProducerDemandState.producerId).map Prod.snd

def decayAndReindexDemandStates (nowMs : ℤ) (prevDemand : DemandMap) :
    List ProducerDemandState × DemandMap :=
  let demandStates := finalize nowMs ∅ prevDemand
  (demandStates, .reindex demandStates)

structure PlanningOutcome where
  room : DownlinkRoom
  demand : DemandMap
  /-- The states the publishers are told about; nothing if the pass does not get there. -/
  supplyPlan : Option (List ProducerDemandState)
  subscriberPlans : List PlannedSubscriber := []

/-- A planning pass of a room.  (What the plans do to the consumers is not looked at.) -/
def runDownlinkPlanningForRoom (nowMs : ℤ) (room : DownlinkRoom)
    (prevDemand : DemandMap) : PlanningOutcome :=
  let inputs := room.collectPlanningInputs nowMs
  let room := room.runDownlinkPlanning nowMs
  if inputs.subscriberInputs.isEmpty then
    if prevDemand.states.entries.isEmpty then ⟨room, prevDemand, none, []⟩
    else
      let (demandStates, demand) := decayAndReindexDemandStates nowMs prevDemand
      ⟨room, demand, some demandStates, []⟩
  else
    let plan := planRoom A inputs.subscriberInputs nowMs prevDemand
    let demandStates :=
      mergeStaleProducerDemands plan.producerDemands inputs.staleProducerIds prevDemand
    ⟨room, .reindex demandStates, some demandStates, plan.subscriberPlans⟩

/-! ### What a pass collects -/

section Collect

variable {room : DownlinkRoom} {nowMs : ℤ}

theorem collectPeer_eq (inputs : PlanningInputs) (peerId : String) :
    let inputs' := room.collectPeer nowMs inputs peerId
    (∃ entry, room.registry.lookup peerId = some entry ∧
        kQosStaleAfterMs < nowMs - entry.receivedAtMs ∧
        inputs'.staleProducerIds = inputs.staleProducerIds ∪
          (entry.snapshot.subscriptions.map DownlinkSubscription.producerId).toFinset ∧
        inputs'.subscriberInputs = inputs.subscriberInputs) ∨
      (∃ entry degradeLevel, room.registry.lookup peerId = some entry ∧
        nowMs - entry.receivedAtMs ≤ kQosStaleAfterMs ∧
        inputs'.staleProducerIds = inputs.staleProducerIds ∧ inputs'.subscriberInputs =
          inputs.subscriberInputs ++ [⟨peerId, entry.snapshot, degradeLevel⟩]) ∨
      (room.registry.lookup peerId = none ∧ inputs' = inputs) := by
  unfold DownlinkRoom.collectPeer
  cases hent : room.registry.lookup peerId with
  | none => exact .inr (.inr ⟨rfl, rfl⟩)
  | some entry =>
    dsimp only
    split_ifs with hstal
    · exact .inl ⟨entry, rfl, hstal, rfl, rfl⟩
    · exact .inr (.inl ⟨entry, _, rfl, not_lt.mp hstal, rfl, rfl⟩)

theorem mem_staleProducerIds_foldl (peerIds : List String) (inputs : PlanningInputs)
    (producerId : String) :
    producerId ∈ (peerIds.foldl (room.collectPeer nowMs) inputs).staleProducerIds ↔
      producerId ∈ inputs.staleProducerIds ∨ ∃ peerId ∈ peerIds, ∃ entry,
        room.registry.lookup peerId = some entry ∧ kQosStaleAfterMs < nowMs - entry.receivedAtMs ∧
            producerId ∈ entry.snapshot.subscriptions.map DownlinkSubscription.producerId := by
  induction peerIds generalizing inputs with
  | nil => simp
  | cons peerId peerIds ih =>
    rw [foldl_cons, ih, exists_mem_cons_iff]
    obtain ⟨entry, hent, hstal, hids, -⟩ | ⟨entry, _, hent, hfr, hids, -⟩ |
      ⟨hnone, hsame⟩ := @collectPeer_eq room nowMs inputs peerId
    · rw [hids, Finset.mem_union, mem_toFinset, or_assoc]
      simp [hent, hstal]
    · rw [hids]
      simp [hent, not_lt.mpr hfr]
    · rw [hsame]
      simp [hnone]

theorem mem_staleProducerIds (producerId : String) :
    producerId ∈ (room.collectPlanningInputs nowMs).staleProducerIds ↔
      ∃ peerId ∈ room.peers.keys, ∃ entry, room.registry.lookup peerId = some entry ∧
        kQosStaleAfterMs < nowMs - entry.receivedAtMs ∧
          producerId ∈ entry.snapshot.subscriptions.map DownlinkSubscription.producerId := by
  rw [DownlinkRoom.collectPlanningInputs, mem_staleProducerIds_foldl]
  simp

theorem mem_subscriberInputs_foldl {peerIds : List String} {inputs : PlanningInputs}
    {input : SubscriberInput}
    (h : input ∈ (peerIds.foldl (room.collectPeer nowMs) inputs).subscriberInputs) :
    input ∈ inputs.subscriberInputs ∨ ∃ peerId ∈ peerIds, ∃ entry,
      room.registry.lookup peerId = some entry ∧
        nowMs - entry.receivedAtMs ≤ kQosStaleAfterMs ∧ input.snapshot = entry.snapshot := by
  induction peerIds generalizing inputs with
  | nil => exact .inl h
  | cons peerId peerIds ih =>
    rw [exists_mem_cons_iff]
    rcases ih h with hhere | hlater
    · obtain ⟨-, -, -, -, hsame⟩ | ⟨entry, _, hent, hfr, -, hnew⟩ | ⟨-, hsame⟩ :=
        @collectPeer_eq room nowMs inputs peerId
      · rw [hsame] at hhere
        exact .inl hhere
      · rw [hnew, mem_append, mem_singleton] at hhere
        rcases hhere with hhere | rfl
        · exact .inl hhere
        · exact .inr (.inl ⟨entry, hent, hfr, rfl⟩)
      · rw [hsame] at hhere
        exact .inl hhere
    · exact .inr (.inr hlater)

theorem mem_subscriberInputs {input : SubscriberInput}
    (h : input ∈ (room.collectPlanningInputs nowMs).subscriberInputs) :
    ∃ peerId ∈ room.peers.keys, ∃ entry, room.registry.lookup peerId = some entry ∧
      nowMs - entry.receivedAtMs ≤ kQosStaleAfterMs ∧ input.snapshot = entry.snapshot :=
  (mem_subscriberInputs_foldl h).resolve_left (by simp)

end Collect

/-! ### The demand after a pass -/

section Demand

variable {nowMs : ℤ} {producerId : String}

variable {staleProducerIds : Finset String} {prevDemand : DemandMap}
  {demandStates : List ProducerDemandState} {state : ProducerDemandState}

theorem mem_mergeStale :
    state ∈ mergeStaleProducerDemands demandStates staleProducerIds prevDemand ↔
      state ∈ demandStates ∨ prevDemand.lookup state.producerId = some state ∧
        state.producerId ∈ staleProducerIds ∧
          state.producerId ∉ demandStates.map ProducerDemandState.producerId := by
  rw [mergeStaleProducerDemands, mem_append]
  refine or_congr_right ?_
  rw [mem_map]
  constructor
  · rintro ⟨⟨key, state⟩, hmem, rfl⟩
    obtain ⟨hpair, hkey⟩ := mem_filter.mp hmem
    have hlook := mem_toPairs.mp hpair
    obtain rfl : state.producerId = key := prevDemand.keyed hlook
    exact ⟨hlook, of_decide_eq_true hkey⟩
  · rintro ⟨hlook, hkey⟩
    exact ⟨(state.producerId, state),
      mem_filter.mpr ⟨mem_toPairs.mpr hlook, decide_eq_true hkey⟩, rfl⟩

section

variable (hnd : (demandStates.map ProducerDemandState.producerId).Nodup)
include hnd

theorem nodup_mergeStale (staleProducerIds : Finset String) (prevDemand : DemandMap) :
    ((mergeStaleProducerDemands demandStates staleProducerIds prevDemand).map
      ProducerDemandState.producerId).Nodup := by
  -- every state of the map is under its own producer
  have hkeys : (prevDemand.states.toPairs.map Prod.snd).map ProducerDemandState.producerId =
      prevDemand.states.keys := by
    rw [map_map, ← map_fst_toPairs]
    exact map_congr_left fun p hp => prevDemand.keyed (mem_toPairs.mp hp)
  have hsub := ((filter_sublist (p := fun p : String × ProducerDemandState =>
    decide (p.1 ∈ staleProducerIds ∧ p.1 ∉ demandStates.map ProducerDemandState.producerId))
      (l := prevDemand.states.toPairs)).map Prod.snd).map ProducerDemandState.producerId
  rw [hkeys] at hsub
  rw [mergeStaleProducerDemands, map_append, nodup_append]
  refine ⟨hnd, hsub.nodup prevDemand.states.keys_nodup, ?_⟩
  rintro producerId hplan _ hfilled rfl
  obtain ⟨state, hst, hid⟩ := mem_map.mp hfilled
  obtain ⟨⟨key, state⟩, hmem, rfl⟩ := mem_map.mp hst
  obtain ⟨hpair, hkey⟩ := mem_filter.mp hmem
  obtain rfl : state.producerId = key := prevDemand.keyed (mem_toPairs.mp hpair)
  exact (of_decide_eq_true hkey).2 (hid ▸ hplan)

theorem lookup_reindex_mergeStale (staleProducerIds : Finset String) (prevDemand : DemandMap)
    (producerId : String) :
    (DemandMap.reindex (mergeStaleProducerDemands demandStates staleProducerIds prevDemand)).lookup
        producerId = ((DemandMap.reindex demandStates).lookup producerId).or
        (if producerId ∈ staleProducerIds then prevDemand.lookup producerId else none) := by
  have hplan : ∀ state, (DemandMap.reindex demandStates).lookup producerId = some state ↔
      state ∈ demandStates ∧ state.producerId = producerId := fun state =>
    lookup_indexBy hnd
  ext state
  rw [DemandMap.lookup, DemandMap.reindex, lookup_indexBy (nodup_mergeStale hnd _ _),
    mem_mergeStale]
  cases hlook : (DemandMap.reindex demandStates).lookup producerId with
  | some planned =>
    obtain ⟨hmem, rfl⟩ := (hplan planned).mp hlook
    rw [Option.some_or, ← hlook, hplan]
    refine and_congr_left fun hid => or_iff_left ?_
    rintro ⟨-, -, hnot⟩
    exact hnot (hid ▸ mem_map_of_mem hmem)
  | none =>
    have hnot : ∀ state ∈ demandStates, state.producerId ≠ producerId := fun state hmem hid => by
      rw [(hplan state).mpr ⟨hmem, hid⟩] at hlook
      cases hlook
    constructor
    · rintro ⟨hmem | ⟨hprev, hstal, -⟩, rfl⟩
      · exact absurd rfl (hnot state hmem)
      · rw [if_pos hstal]
        exact hprev
    intro hprev
    split at hprev
    next hstal =>
      obtain rfl : state.producerId = producerId := prevDemand.keyed hprev
      refine ⟨.inr ⟨hprev, hstal, fun hmem => ?_⟩, rfl⟩
      obtain ⟨other, hoth, hid⟩ := mem_map.mp hmem
      exact hnot other hoth hid
    · cases hprev

end

variable (A : SubscriberBudgetAllocator)

theorem runDownlinkPlanningForRoom_cases (nowMs : ℤ) (room : DownlinkRoom)
    (prevDemand : DemandMap) :
    let run := runDownlinkPlanningForRoom A nowMs room prevDemand
    (run.supplyPlan = none ∧ run.demand = prevDemand ∧
        ∀ producerId, prevDemand.lookup producerId = none) ∨
      ∃ accs staleProducerIds,
        let states :=
          mergeStaleProducerDemands (finalize nowMs accs prevDemand) staleProducerIds prevDemand
        run.supplyPlan = some states ∧ run.demand = .reindex states := by
  unfold runDownlinkPlanningForRoom
  dsimp only
  split
  · split
    next hemp =>
      refine .inl ⟨rfl, rfl, fun producerId => ?_⟩
      rw [DemandMap.lookup, AList.lookup, isEmpty_iff.mp hemp]
      rfl
    -- without subscribers nothing is filled up
    have hnone : mergeStaleProducerDemands (finalize nowMs ∅ prevDemand) ∅ prevDemand =
        finalize nowMs ∅ prevDemand := by
      simp [mergeStaleProducerDemands]
    exact .inr ⟨∅, ∅, by rw [hnone]; rfl, by rw [hnone]; rfl⟩
  · exact .inr ⟨_, _, rfl, rfl⟩

theorem lookup_reindex_mergeStale_cases {accs : Accumulators}
    (h : (DemandMap.reindex (mergeStaleProducerDemands (finalize nowMs accs prevDemand)
      staleProducerIds prevDemand)).lookup producerId = some state) :
    (∃ acc, state = seenState nowMs producerId acc (prevDemand.lookup producerId)) ∨
      (∃ old, prevDemand.lookup producerId = some old ∧ state = missingState nowMs producerId old) ∨
      prevDemand.lookup producerId = some state := by
  rw [lookup_reindex_mergeStale (nodup_finalize _ _), lookup_reindex_finalize,
    Option.or_eq_some_iff] at h
  rcases h with h | ⟨-, h⟩
  · split at h
    next acc hacc =>
      exact .inl ⟨acc, (Option.some.inj h).symm⟩
    rw [Option.filter_eq_some_iff, Option.map_eq_some_iff] at h
    obtain ⟨⟨old, hold, hst⟩, -⟩ := h
    exact .inr (.inl ⟨old, hold, hst.symm⟩)
  · split at h
    · exact .inr (.inr h)
    · cases h

theorem isSome_lookup_accumulators {pass : AggregationPass} :
    (pass.accumulators.lookup producerId).isSome ↔ ∃ sub ∈ pass.subscribers,
      ∃ subscription ∈ sub.snapshot.subscriptions, producerId = subscription.producerId := by
  let counted (accs : Accumulators) : Prop := (accs.lookup producerId).isSome
  let names (subscription : DownlinkSubscription) : Prop := producerId = subscription.producerId
  have hone : ∀ (layerMap : Dict String AllocatedLayer) (accs : Accumulators)
      (subscription : DownlinkSubscription),
      counted (addSubscription layerMap accs subscription) ↔ counted accs ∨ names subscription := by
    intro layerMap accs subscription
    simp only [counted, names, addSubscription, lookup_insert_eq]
    split <;> simp_all
  have hall := Loop.foldl_iff_or_exists counted
    (fun sub : PlannedSubscriber => ∃ subscription ∈ sub.snapshot.subscriptions, names subscription)
    (fun accs sub => Loop.foldl_iff_or_exists counted names
      (hone (sub.plan.actions.foldl applyAction ∅)) sub.snapshot.subscriptions accs)
    pass.subscribers ∅
  exact hall.trans (or_iff_right (by simp [counted]))

theorem lookup_accumulators_of_not_named {pass : AggregationPass}
    (h : ∀ sub ∈ pass.subscribers, producerId ∉
      sub.snapshot.subscriptions.map DownlinkSubscription.producerId) :
    pass.accumulators.lookup producerId = none := by
  rw [← Option.not_isSome_iff_eq_none, isSome_lookup_accumulators]
  rintro ⟨sub, hsub, _, hmem, rfl⟩
  exact h sub hsub (mem_map_of_mem hmem)

theorem isSome_of_finalize {accs : Accumulators}
    (h : ((DemandMap.reindex (mergeStaleProducerDemands (finalize nowMs accs prevDemand)
      staleProducerIds prevDemand)).lookup producerId).isSome) :
    (prevDemand.lookup producerId).isSome ∨ (accs.lookup producerId).isSome := by
  rw [lookup_reindex_mergeStale (nodup_finalize _ _), lookup_reindex_finalize] at h
  cases hprev : prevDemand.lookup producerId with
  | some _ => exact .inl rfl
  | none =>
    cases hacc : accs.lookup producerId with
    | some _ => exact .inr rfl
    | none => simp [hprev, hacc] at h

variable (room : DownlinkRoom)

def DownlinkRoom.Reported (nowMs : ℤ) (producerId : String) : Prop :=
  ∃ input ∈ (room.collectPlanningInputs nowMs).subscriberInputs,
    ∃ sub ∈ input.snapshot.subscriptions, producerId = sub.producerId

theorem isSome_lookup_planningPass {room : DownlinkRoom} :
    ((planningPass A nowMs (room.collectPlanningInputs nowMs).subscriberInputs).accumulators.lookup
      producerId).isSome ↔ room.Reported nowMs producerId := by
  rw [isSome_lookup_accumulators]
  simp only [planningPass, mem_map, exists_exists_and_eq_and]
  rfl

theorem isSome_lookup_runDownlinkPlanningForRoom (prevDemand : DemandMap) :
    (((runDownlinkPlanningForRoom A nowMs room prevDemand).demand.lookup producerId).isSome →
        (prevDemand.lookup producerId).isSome ∨ room.Reported nowMs producerId) ∧
      (room.Reported nowMs producerId →
        ((runDownlinkPlanningForRoom A nowMs room prevDemand).demand.lookup
          producerId).isSome) := by
  unfold runDownlinkPlanningForRoom
  dsimp only
  split
  next hemp =>
    have hnone : ¬ room.Reported nowMs producerId := by
      rintro ⟨_, hin, -⟩
      rw [isEmpty_iff.mp hemp] at hin
      cases hin
    refine ⟨fun h => .inl ?_, fun h => absurd h hnone⟩
    split at h
    · exact h
    -- without subscribers nothing is filled up
    have hsame : mergeStaleProducerDemands (finalize nowMs ∅ prevDemand) ∅ prevDemand =
        finalize nowMs ∅ prevDemand := by
      simp [mergeStaleProducerDemands]
    rw [decayAndReindexDemandStates, ← hsame] at h
    exact (isSome_of_finalize h).resolve_right (by simp)
  · constructor
    · intro h
      exact (isSome_of_finalize h).imp_right (isSome_lookup_planningPass A).mp
    intro h
    obtain ⟨_, hacc⟩ := Option.isSome_iff_exists.mp ((isSome_lookup_planningPass A).mpr h)
    rw [planRoom, lookup_reindex_mergeStale (nodup_finalize _ _), lookup_reindex_finalize, hacc]
    rfl

structure StaleOnly (nowMs : ℤ) (producerId : String) : Prop where
  named : ∃ peerId ∈ room.peers.keys, ∃ entry, room.registry.lookup peerId = some entry ∧
    producerId ∈ entry.snapshot.subscriptions.map DownlinkSubscription.producerId
  stale : ∀ peerId ∈ room.peers.keys, ∀ entry, room.registry.lookup peerId = some entry →
    producerId ∈ entry.snapshot.subscriptions.map DownlinkSubscription.producerId →
      kQosStaleAfterMs < nowMs - entry.receivedAtMs

theorem lookup_runDownlinkPlanningForRoom {room : DownlinkRoom}
    (hstal : StaleOnly room nowMs producerId) (hst : prevDemand.lookup producerId = some state)
    : (runDownlinkPlanningForRoom A nowMs room prevDemand).demand.lookup producerId =
      if kept nowMs (missingState nowMs producerId state) then
        some (missingState nowMs producerId state)
      else if room.fedPeers nowMs = [] then none else some state := by
  have hfed : room.fedPeers nowMs = [] ↔
      (room.collectPlanningInputs nowMs).subscriberInputs = [] := map_eq_nil_iff
  have hids : producerId ∈ (room.collectPlanningInputs nowMs).staleProducerIds := by
    obtain ⟨peerId, hpeer, entry, hent, hnm⟩ := hstal.named
    exact (mem_staleProducerIds producerId).mpr
      ⟨peerId, hpeer, entry, hent, hstal.stale peerId hpeer entry hent hnm, hnm⟩
  have hnone : (planningPass A nowMs
      (room.collectPlanningInputs nowMs).subscriberInputs).accumulators.lookup producerId =
        none := by
    refine lookup_accumulators_of_not_named fun sub hsub hnm => ?_
    obtain ⟨_, hin, rfl⟩ := mem_map.mp hsub
    obtain ⟨peerId, hpeer, entry, hent, hfr, hsnap⟩ := mem_subscriberInputs hin
    rw [SubscriberInput.planned, hsnap] at hnm
    exact absurd (hstal.stale peerId hpeer entry hent hnm) (not_lt.mpr hfr)
  have hdecay : ∀ accs : Accumulators, accs.lookup producerId = none →
      (DemandMap.reindex (finalize nowMs accs prevDemand)).lookup producerId =
        if kept nowMs (missingState nowMs producerId state) then
          some (missingState nowMs producerId state) else none := by
    intro accs hacc
    rw [lookup_reindex_finalize, hacc, hst]
    exact Option.filter_some
  unfold runDownlinkPlanningForRoom
  dsimp only
  by_cases hemp : (room.collectPlanningInputs nowMs).subscriberInputs = []
  · have hprev : prevDemand.states.entries.isEmpty = false := by
      rw [isEmpty_eq_false_iff]
      intro hnil
      have hmem := mem_toPairs.mpr hst
      rw [Dict.toPairs, hnil] at hmem
      cases hmem
    rw [hemp, isEmpty_nil, if_pos rfl, hprev, if_neg (by decide), if_pos (hfed.mpr hemp)]
    exact hdecay ∅ rfl
  · rw [if_neg (by simpa using hemp), if_neg (mt hfed.mp hemp)]
    dsimp only [planRoom]
    rw [lookup_reindex_mergeStale (nodup_finalize _ _), hdecay _ hnone, if_pos hids]
    split
    · rfl
    · exact hst

def SameDemand (state state' : ProducerDemandState) : Prop :=
  state.visibleSubscriberCount = state'.visibleSubscriberCount ∧
    state.maxSpatialLayer = state'.maxSpatialLayer ∧
      state.maxTemporalLayer = state'.maxTemporalLayer ∧ state.supplyState = state'.supplyState

def WithoutDemand (nowMs : ℤ) (state : ProducerDemandState) : Prop :=
  state.visibleSubscriberCount = 0 ∧ state.maxSpatialLayer = 0 ∧ state.maxTemporalLayer = 0 ∧
    (state.supplyState = .paused ∨
      state.supplyState = .zeroDemandHold ∧
        ¬(pauseDue (some state) nowMs ≠ kUnsetDemandTimeMs ∧ pauseDue (some state) nowMs ≤ nowMs))

theorem sameDemand_missingState :
    SameDemand (missingState nowMs producerId state) state ↔ WithoutDemand nowMs state := by
  have hdue : (missingState nowMs producerId state).pauseEligibleAtMs =
      pauseDue (some state) nowMs := rfl
  have hsup : (missingState nowMs producerId state).supplyState = state.supplyState ↔
      state.supplyState = .paused ∨ state.supplyState = .zeroDemandHold ∧
        ¬(pauseDue (some state) nowMs ≠ kUnsetDemandTimeMs ∧
          pauseDue (some state) nowMs ≤ nowMs) := by
    change advanceSupplyState { missingState nowMs producerId state with
      supplyState := state.supplyState } true nowMs = _ ↔ _
    rw [← hdue]
    cases hwas : state.supplyState <;> simp [advanceSupplyState]
  unfold SameDemand WithoutDemand
  rw [hsup, eq_comm (b := state.visibleSubscriberCount), eq_comm (b := state.maxSpatialLayer),
    eq_comm (b := state.maxTemporalLayer)]
  rfl

/-- **Stale reports leave the demand on a producer alone exactly when it had none and is
paused or still held, or when it is dropped and, because somebody is planned for, filled up
again.** -/
theorem sameDemand_iff (A : SubscriberBudgetAllocator) (nowMs : ℤ) (room : DownlinkRoom)
    (prevDemand : DemandMap) {producerId : String} (hstal : StaleOnly room nowMs producerId)
    {state : ProducerDemandState} (hst : prevDemand.lookup producerId = some state) :
    (∃ state', (runDownlinkPlanningForRoom A nowMs room prevDemand).demand.lookup producerId =
        some state' ∧ SameDemand state' state) ↔
      if kept nowMs (missingState nowMs producerId state) then WithoutDemand nowMs state
      else room.fedPeers nowMs ≠ [] := by
  rw [lookup_runDownlinkPlanningForRoom A hstal hst]
  split
  · simp only [Option.some.injEq, exists_eq_left', sameDemand_missingState]
  split_ifs with hemp
  · simp [hemp]
  · exact iff_of_true ⟨state, rfl, rfl, rfl, rfl, rfl⟩ hemp

end Demand

/-! ### A room with two subscribers -/

def twoSubscribers (aliceAtMs bobAtMs : ℤ) : DownlinkRoom where
  peers := ((∅ : Dict String (Dict String String)).insert "alice"
    ((∅ : Dict String String).insert "c1" "camera")).insert "bob"
      ((∅ : Dict String String).insert "c2" "screen")
  registry := ((∅ : DownlinkQosRegistry).insert "alice"
    ⟨{ seq := 1, subscriberPeerId := "alice",
       subscriptions := [{ consumerId := "c1", producerId := "camera" }] }, aliceAtMs⟩).insert "bob"
    ⟨{ seq := 1, subscriberPeerId := "bob",
       subscriptions := [{ consumerId := "c2", producerId := "screen" }] }, bobAtMs⟩

theorem staleOnly_twoSubscribers : StaleOnly (twoSubscribers 1000 7900) 8000 "camera" where
  named := ⟨"alice", by decide, _, rfl, by decide⟩
  stale peerId hpeer entry hent hnm := by
    have hpeer : peerId = "bob" ∨ peerId = "alice" := by simpa [twoSubscribers] using hpeer
    rcases hpeer with rfl | rfl
    · cases hent
      exact absurd hnm (by decide)
    · cases hent
      decide

theorem sameDemand_paused_camera :
    StaleOnly (twoSubscribers 1000 7900) 8000 "camera" ∧
      ∃ state', (runDownlinkPlanningForRoom roughAllocator 8000 (twoSubscribers 1000 7900)
          (.reindex [{ producerId := "camera", supplyState := .paused }])).demand.lookup "camera" =
            some state' ∧ SameDemand state' { producerId := "camera", supplyState := .paused } :=
  ⟨staleOnly_twoSubscribers, (sameDemand_iff roughAllocator 8000 (twoSubscribers 1000 7900)
    (.reindex [{ producerId := "camera", supplyState := .paused }]) staleOnly_twoSubscribers
      rfl).mpr ⟨rfl, rfl, rfl, .inl rfl⟩⟩

/-- Alice sees the camera, and then her report gets stale: the next pass holds the camera
as if nobody saw it, although Bob's report is fresh. -/
theorem held_for_stale_report :
    let demand := (runDownlinkPlanningForRoom roughAllocator 1000 (twoSubscribers 1000 1000)
      ∅).demand
    let demand' := (runDownlinkPlanningForRoom roughAllocator 8000 (twoSubscribers 1000 7900)
      demand).demand
    StaleOnly (twoSubscribers 1000 7900) 8000 "camera" ∧
      (demand.lookup "camera").map (fun state =>
        (state.visibleSubscriberCount, state.maxSpatialLayer, state.supplyState)) =
          some (1, 2, .active) ∧
      (demand'.lookup "camera").map (fun state =>
        (state.visibleSubscriberCount, state.maxSpatialLayer, state.supplyState)) =
          some (0, 0, .zeroDemandHold) :=
  ⟨staleOnly_twoSubscribers, by decide +kernel, by decide +kernel⟩

end MediasoupCpp
