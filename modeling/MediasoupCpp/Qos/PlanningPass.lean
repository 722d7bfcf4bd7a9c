import MediasoupCpp.Lib.Run
import MediasoupCpp.Qos.RoomPlan
import MediasoupCpp.Qos.SubscriberController
import MediasoupCpp.Room.Keys

/-!
# Planning passes and consumers

A planning pass first goes through the peers with fresh reports: their controllers take the states
of the consumers, and their reports are handed to the planner.  Then the plans are carried out,
one subscriber after the other.

Main results: `passes_refine`, `planning_spec`.

Source: `src/RoomDownlinkHelpers.h`, `src/RoomServiceDownlink.cpp`, `src/RoomServiceMedia.cpp`,
`src/RoomServiceLifecycle.cpp`.
-/

namespace MediasoupCpp

open List Runs

/-! ### A pass -/

structure PlanningRoom where
  peers : PeerConsumers := ∅
  registry : DownlinkQosRegistry := ∅

abbrev Controllers : Type := Dict String SubscriberQosController

def Controllers.of (controllers : Controllers) (roomId peerId : String) :
    SubscriberQosController :=
  (controllers.lookup (makePeerKey roomId peerId)).getD {}

structure CollectedInputs where
  subscriberInputs : List SubscriberInput := []
  staleProducerIds : Finset String := ∅
  controllers : Controllers

variable (roomId : String)

def collectPeer (room : PlanningRoom) (nowMs : ℤ) (inputs : CollectedInputs)
    (peerId : String) : CollectedInputs :=
  match room.registry.lookup peerId with
  | none => inputs
  | some entry =>
    if kQosStaleAfterMs < nowMs - entry.receivedAtMs then
      { inputs with
        staleProducerIds := inputs.staleProducerIds ∪
          (entry.snapshot.subscriptions.map DownlinkSubscription.producerId).toFinset }
    else
      let controller := inputs.controllers.of roomId peerId
      let controller :=
        match room.peers.lookup peerId with
        | none => controller
        | some consumers => (controller.pruneStaleConsumers consumers).syncConsumerState consumers
      let monitor := controller.healthMonitor.update entry.snapshot
      { inputs with
        subscriberInputs := inputs.subscriberInputs ++
          [⟨peerId, entry.snapshot, monitor.degradeLevel⟩]
        controllers := inputs.controllers.insert (makePeerKey roomId peerId)
          { controller with healthMonitor := monitor } }

def collectPlanningInputs (room : PlanningRoom) (controllers : Controllers)
    (nowMs : ℤ) : CollectedInputs :=
  room.peers.keys.foldl (collectPeer roomId room nowMs) { controllers := controllers }

/-- Carrying out plans: the controllers, the consumers, and whether all requests so far have
succeeded. -/
structure PassState where
  controllers : Controllers
  peers : PeerConsumers
  succeeded : Bool := true

abbrev Outcomes : Type := String → ℕ → ActionOutcome

def applySubscriberPlan (outcomes : Outcomes) (s : PassState)
    (subscriberPlan : PlannedSubscriber) : PassState :=
  let peerId := subscriberPlan.peerId
  let controller := s.controllers.of roomId peerId
  match s.peers.lookup peerId with
  | none => { s with controllers := s.controllers.insert (makePeerKey roomId peerId) controller }
  | some _ =>
    let (diffActions, lastState) :=
      computeBudgetDiff subscriberPlan.plan.actions controller.lastState
    let applied := applyActions peerId
      { controller := { controller with lastState := lastState }
        peers := s.peers
        succeeded := s.succeeded }
      (diffActions.zipIdx.map fun (action, i) => (action, outcomes peerId i))
    { controllers := s.controllers.insert (makePeerKey roomId peerId) applied.controller
      peers := applied.peers
      succeeded := applied.succeeded }

def applySubscriberPlans (outcomes : Outcomes) (s : PassState)
    (subscriberPlans : List PlannedSubscriber) : PassState :=
  subscriberPlans.foldl (applySubscriberPlan roomId outcomes) s

structure PlanningState where
  rooms : Dict String PlanningRoom := ∅
  controllers : Controllers := ∅

structure PassResult where
  subscriberPlans : List PlannedSubscriber
  state : PassState

/-- A pass over a room.  (What it makes of the demand on the producers does not touch the
consumers.) -/
def runPass (A : SubscriberBudgetAllocator) (roomId : String) (room : PlanningRoom)
    (controllers : Controllers) (nowMs : ℤ) (outcomes : Outcomes) : PassResult :=
  let inputs := collectPlanningInputs roomId room controllers nowMs
  let subscriberPlans := inputs.subscriberInputs.map (SubscriberInput.planned A)
  { subscriberPlans := subscriberPlans
    state := applySubscriberPlans roomId outcomes
      { controllers := inputs.controllers, peers := room.peers } subscriberPlans }

inductive PlanningEvent
  /-- Rooms, consumers and reports change by anything but a pass. -/
  | world (rooms : Dict String PlanningRoom)
  | forget (roomId peerId : String)
  /-- A request of a peer changes one of its consumers. -/
  | request (roomId peerId : String)
  | pass (roomId : String) (nowMs : ℤ) (outcomes : Outcomes)

def planningStep (A : SubscriberBudgetAllocator) (s : PlanningState) :
    PlanningEvent → PlanningState
  | .world rooms => { s with rooms := rooms }
  | .forget roomId peerId =>
    { s with controllers := s.controllers.erase (makePeerKey roomId peerId) }
  | .request roomId peerId =>
    match (s.rooms.lookup roomId).bind fun room => room.peers.lookup peerId with
    | none => s
    | some consumers =>
      { s with
        controllers := s.controllers.insert (makePeerKey roomId peerId)
          ((s.controllers.of roomId peerId).syncConsumerState consumers) }
  | .pass roomId nowMs outcomes =>
    match s.rooms.lookup roomId with
    | none => s
    | some room =>
      let result := runPass A roomId room s.controllers nowMs outcomes
      { rooms := s.rooms.insert roomId { room with peers := result.state.peers }
        controllers := result.state.controllers }

/-! ### The controllers of a room -/

section Controllers

variable {roomId peerId peerId' : String} {controllers : Controllers}

theorem makePeerKey_right_inj :
    makePeerKey roomId peerId = makePeerKey roomId peerId' ↔ peerId = peerId' := by
  rw [← String.toList_inj, toList_makePeerKey, toList_makePeerKey]
  simp [String.toList_inj]

theorem controllers_of_insert (controller : SubscriberQosController) :
    Controllers.of (controllers.insert (makePeerKey roomId peerId) controller) roomId peerId' =
      if peerId' = peerId then controller else controllers.of roomId peerId' := by
  unfold Controllers.of
  rw [Dict.lookup_insert_eq]
  by_cases h : peerId' = peerId
  · rw [if_pos (makePeerKey_right_inj.mpr h), if_pos h, Option.getD_some]
  · rw [if_neg fun heq => h (makePeerKey_right_inj.mp heq), if_neg h]

end Controllers

/-! ### What a pass collects -/

section Collect

variable {roomId : String} {room : PlanningRoom} {nowMs : ℤ} {inputs : CollectedInputs}

/-- The peers that are planned are among those that have been gone through, and their
controllers track their consumers. -/
structure CollectInv (roomId : String) (room : PlanningRoom) (done : List String)
    (inputs : CollectedInputs) : Prop where
  planned : (inputs.subscriberInputs.map SubscriberInput.peerId).Sublist done
  tracks : ∀ input ∈ inputs.subscriberInputs,
    Tracks room.peers input.peerId (inputs.controllers.of roomId input.peerId).lastState

theorem CollectInv.collectPeer {done : List String} {peerId : String}
    (h : CollectInv roomId room done inputs) (hnew : peerId ∉ done)
    (hpeer : peerId ∈ room.peers.keys) :
    CollectInv roomId room (done ++ [peerId]) (collectPeer roomId room nowMs inputs peerId) := by
  unfold MediasoupCpp.collectPeer
  split
  · exact ⟨h.planned.trans (sublist_append_left _ _), h.tracks⟩
  rename_i entry _
  split
  · exact ⟨h.planned.trans (sublist_append_left _ _), h.tracks⟩
  obtain ⟨_, hconsumers⟩ := Option.isSome_iff_exists.mp (AList.lookup_isSome.mpr hpeer)
  dsimp only
  rw [hconsumers]
  refine ⟨?_, fun input hin => ?_⟩
  · rw [map_append]
    exact h.planned.append (List.Sublist.refl _)
  rw [controllers_of_insert]
  rcases mem_append.mp hin with hin | hin
  · -- the controller of a peer that came before is not touched
    have hne : input.peerId ≠ peerId := fun heq =>
      hnew (heq ▸ h.planned.mem (mem_map_of_mem hin))
    rw [if_neg hne]
    exact h.tracks input hin
  · obtain rfl := mem_singleton.mp hin
    rw [if_pos rfl]
    exact tracks_syncConsumerState hconsumers _

theorem collectInv_foldl {done : List String} (h : CollectInv roomId room done inputs)
    (peerIds : List String) (hnd : (done ++ peerIds).Nodup)
    (hprs : ∀ peerId ∈ peerIds, peerId ∈ room.peers.keys) : CollectInv roomId room (done ++ peerIds)
      (peerIds.foldl (collectPeer roomId room nowMs) inputs) := by
  induction peerIds generalizing done inputs with
  | nil => rwa [append_nil]
  | cons peerId peerIds ih =>
    rw [forall_mem_cons] at hprs
    have hnew : peerId ∉ done := fun hmem =>
      (nodup_append.mp hnd).2.2 _ hmem _ mem_cons_self rfl
    rw [append_cons] at hnd ⊢
    exact ih (h.collectPeer hnew hprs.1) hnd hprs.2

theorem collectInv (controllers : Controllers) : CollectInv roomId room room.peers.keys
      (collectPlanningInputs roomId room controllers nowMs) := by
  have hst : CollectInv roomId room [] { controllers := controllers } :=
    ⟨List.Sublist.refl _, fun _ h => (by cases h)⟩
  exact collectInv_foldl hst _ room.peers.nodupKeys fun _ h => h

end Collect

/-! ### Carrying out the plans -/

section Apply

variable {roomId : String} {outcomes : Outcomes} {s : PassState}

variable {plan : PlannedSubscriber} {plans : List PlannedSubscriber}

theorem succeeded_of_applySubscriberPlan
    (h : (applySubscriberPlan roomId outcomes s plan).succeeded) : s.succeeded := by
  unfold applySubscriberPlan at h
  dsimp only at h
  split at h
  · exact h
  · exact succeeded_of_applyActions h

theorem succeeded_of_applySubscriberPlans
    (h : (applySubscriberPlans roomId outcomes s plans).succeeded) : s.succeeded := by
  induction plans generalizing s with
  | nil => exact h
  | cons plan plans ih => exact succeeded_of_applySubscriberPlan (ih h)

theorem applySubscriberPlan_of_ne {peerId : String} (hne : peerId ≠ plan.peerId) :
    (applySubscriberPlan roomId outcomes s plan).controllers.of roomId peerId =
        s.controllers.of roomId peerId ∧
      OnlyCloses s.peers (applySubscriberPlan roomId outcomes s plan).peers peerId := by
  unfold applySubscriberPlan
  dsimp only
  split
  · rw [controllers_of_insert, if_neg hne]
    exact ⟨rfl, fun _ _ h => h⟩
  · rw [controllers_of_insert, if_neg hne]
    exact ⟨rfl, onlyCloses_applyActions hne _⟩

theorem onlyCloses_applySubscriberPlans {peerId : String}
    (h : peerId ∉ plans.map PlannedSubscriber.peerId) :
    OnlyCloses s.peers (applySubscriberPlans roomId outcomes s plans).peers peerId := by
  induction plans generalizing s with
  | nil => exact fun _ _ h => h
  | cons plan plans ih =>
    rw [map_cons, mem_cons, not_or] at h
    exact (applySubscriberPlan_of_ne h.1).2.trans (ih h.2)

theorem tracks_applySubscriberPlan
    (h : Tracks s.peers plan.peerId (s.controllers.of roomId plan.peerId).lastState)
    (hsucc : (applySubscriberPlan roomId outcomes s plan).succeeded) :
    Tracks (applySubscriberPlan roomId outcomes s plan).peers plan.peerId
      (plan.plan.actions.foldl applyActionToLastState
        (s.controllers.of roomId plan.peerId).lastState) := by
  unfold applySubscriberPlan at hsucc ⊢
  dsimp only at hsucc ⊢
  split
  · -- without the peer there are no consumers
    rename_i hnone
    intro consumerId consumer hcons
    rw [PeerConsumers.consumer, hnone] at hcons
    cases hcons
  rename_i consumers hconsumers
  rw [hconsumers] at hsucc
  have htrs := tracks_applyActions h hsucc
  have hemit : ∀ actions : List DownlinkAction, (actions.zipIdx.map fun (action, i) =>
      (action, outcomes plan.peerId i)).map Prod.fst = actions := fun actions => by
    rw [map_map]
    exact zipIdx_map_fst _ _
  rw [hemit] at htrs
  refine htrs.congr ?_
  have hsame := sameStates_computeBudgetDiff plan.plan.actions
    (s.controllers.of roomId plan.peerId).lastState
  rw [computeBudgetDiff, Suppress.run_snd, ← computeBudgetDiff] at hsame
  exact hsame

theorem tracks_applySubscriberPlans (hnd : (plans.map PlannedSubscriber.peerId).Nodup)
    (h : ∀ plan ∈ plans, Tracks s.peers plan.peerId (s.controllers.of roomId plan.peerId).lastState)
    (hsucc : (applySubscriberPlans roomId outcomes s plans).succeeded)
    (hplan : plan ∈ plans) :
    ∃ lastState, Tracks (applySubscriberPlans roomId outcomes s plans).peers plan.peerId
      (plan.plan.actions.foldl applyActionToLastState lastState) := by
  induction plans generalizing s with
  | nil => cases hplan
  | cons first plans ih =>
    rw [map_cons, nodup_cons] at hnd
    rw [forall_mem_cons] at h
    rcases mem_cons.mp hplan with rfl | hplan
    · have hfst := tracks_applySubscriberPlan h.1 (succeeded_of_applySubscriberPlans hsucc)
      exact ⟨_, hfst.of_onlyCloses (onlyCloses_applySubscriberPlans hnd.1)⟩
    refine ih hnd.2 (fun other hoth => ?_) hsucc hplan
    have hne : other.peerId ≠ first.peerId := fun heq =>
      hnd.1 (heq ▸ mem_map_of_mem hoth)
    obtain ⟨hctl, hcl⟩ := @applySubscriberPlan_of_ne roomId outcomes s first _ hne
    rw [hctl]
    exact (h.2 other hoth).of_onlyCloses hcl

end Apply

/-! ### The model of the planner -/

/-- The state as the model of the planner sees it: the peers, their reports and their
monitors. -/
structure Refines (roomId : String) (room : PlanningRoom) (controllers : Controllers)
    (downlink : DownlinkRoom) : Prop where
  peers : downlink.peers.keys = room.peers.keys
  registry : downlink.registry = room.registry
  monitors : ∀ peerId,
    downlink.monitor peerId = (controllers.of roomId peerId).healthMonitor

section Refines

variable {roomId : String} {room : PlanningRoom} {downlink : DownlinkRoom} {nowMs : ℤ}

@[simp] theorem healthMonitor_syncConsumerState (controller : SubscriberQosController)
    (consumers : Dict String Consumer) :
    (controller.syncConsumerState consumers).healthMonitor = controller.healthMonitor := by
  unfold SubscriberQosController.syncConsumerState
  induction consumers.toPairs generalizing controller with
  | nil => rfl
  | cons entry entries ih => exact ih _

structure SameInputs (roomId : String) (inputs : CollectedInputs) (planned : PlanningInputs) :
    Prop where
  subscriberInputs : planned.subscriberInputs = inputs.subscriberInputs
  staleProducerIds : planned.staleProducerIds = inputs.staleProducerIds
  monitors : ∀ peerId, (planned.monitors.lookup peerId).getD {} =
    (inputs.controllers.of roomId peerId).healthMonitor

theorem SameInputs.collectPeer (hreg : downlink.registry = room.registry)
    {inputs : CollectedInputs} {planned : PlanningInputs} (h : SameInputs roomId inputs planned)
    (peerId : String) : SameInputs roomId (collectPeer roomId room nowMs inputs peerId)
      (downlink.collectPeer nowMs planned peerId) := by
  unfold MediasoupCpp.collectPeer DownlinkRoom.collectPeer
  rw [hreg]
  cases room.registry.lookup peerId with
  | none => exact h
  | some entry =>
  dsimp only
  by_cases hstal : kQosStaleAfterMs < nowMs - entry.receivedAtMs
  · rw [if_pos hstal, if_pos hstal]
    exact ⟨h.subscriberInputs, by rw [h.staleProducerIds], h.monitors⟩
  rw [if_neg hstal, if_neg hstal]
  -- the sync does not touch the monitor
  have hsync : ∀ controller : SubscriberQosController,
      (match room.peers.lookup peerId with
        | none => controller
        | some consumers =>
          (controller.pruneStaleConsumers consumers).syncConsumerState consumers).healthMonitor =
        controller.healthMonitor := fun controller => by
    split
    · rfl
    · rw [healthMonitor_syncConsumerState]
      rfl
  rw [h.monitors peerId, hsync]
  refine ⟨by rw [h.subscriberInputs], h.staleProducerIds, fun q => ?_⟩
  rw [controllers_of_insert, Dict.lookup_insert_eq]
  split
  · rfl
  · exact h.monitors q

variable {controllers : Controllers}

theorem sameInputs_collectPlanningInputs (h : Refines roomId room controllers downlink) :
    SameInputs roomId (collectPlanningInputs roomId room controllers nowMs)
      (downlink.collectPlanningInputs nowMs) := by
  unfold MediasoupCpp.collectPlanningInputs DownlinkRoom.collectPlanningInputs
  rw [h.peers]
  have hst : SameInputs roomId { controllers := controllers }
      { monitors := downlink.monitors } := ⟨rfl, rfl, h.monitors⟩
  generalize room.peers.keys = peerIds
  generalize ({ controllers := controllers } : CollectedInputs) = inputs at hst ⊢
  generalize ({ monitors := downlink.monitors } : PlanningInputs) = planned at hst ⊢
  induction peerIds generalizing inputs planned with
  | nil => exact hst
  | cons peerId peerIds ih => exact ih _ _ (hst.collectPeer h.registry peerId)

theorem subscriberPlans_runPass (A : SubscriberBudgetAllocator)
    (h : Refines roomId room controllers downlink) (outcomes : Outcomes) (prevDemand : DemandMap) :
    (runPass A roomId room controllers nowMs outcomes).subscriberPlans =
      (runDownlinkPlanningForRoom A nowMs downlink prevDemand).subscriberPlans := by
  have hsame := @sameInputs_collectPlanningInputs roomId room downlink nowMs _ h
  unfold runPass runDownlinkPlanningForRoom
  dsimp only
  rw [← hsame.subscriberInputs]
  split
  next hemp =>
    rw [isEmpty_iff.mp hemp]
    split <;> rfl
  · rfl

theorem Refines.insert (h : Refines roomId room controllers downlink) {peerId : String}
    {controller : SubscriberQosController}
    (hmon : controller.healthMonitor = (controllers.of roomId peerId).healthMonitor) :
    Refines roomId room (controllers.insert (makePeerKey roomId peerId) controller) downlink := by
  refine { h with monitors := fun other => ?_ }
  rw [h.monitors, controllers_of_insert]
  split
  next heq =>
    rw [heq, hmon]
  · rfl

theorem Refines.applySubscriberPlan {s : PassState} {registry : DownlinkQosRegistry}
    (h : Refines roomId ⟨s.peers, registry⟩ s.controllers downlink) (outcomes : Outcomes)
    (plan : PlannedSubscriber) :
    let s' := applySubscriberPlan roomId outcomes s plan
    Refines roomId ⟨s'.peers, registry⟩ s'.controllers downlink := by
  unfold MediasoupCpp.applySubscriberPlan
  dsimp only
  split
  · exact h.insert rfl
  · refine { h.insert (applyActions_keeps _ _ _).1 with peers := ?_ }
    rw [h.peers, (applyActions_keeps _ _ _).2]

theorem Refines.runPass (A : SubscriberBudgetAllocator)
    (h : Refines roomId room controllers downlink) (outcomes : Outcomes) :
    let s := (runPass A roomId room controllers nowMs outcomes).state
    Refines roomId ⟨s.peers, room.registry⟩ s.controllers (downlink.runDownlinkPlanning nowMs) := by
  have hsame := @sameInputs_collectPlanningInputs roomId room downlink nowMs _ h
  exact foldlRecOn (motive := fun s : PassState => Refines roomId ⟨s.peers, room.registry⟩
      s.controllers (downlink.runDownlinkPlanning nowMs)) _ _
    ⟨h.peers, h.registry, hsame.monitors⟩ fun _ hs plan _ => hs.applySubscriberPlan outcomes plan

/-- **What becomes of the requests does not matter for the planning**: over any passes, with the
reports there are at each, the peers and the monitors are those of the planner. -/
theorem passes_refine (A : SubscriberBudgetAllocator) (roomId : String) (peers : PeerConsumers)
    (passes : List (DownlinkQosRegistry × ℤ × Outcomes)) :
    let s := passes.foldl (fun (s : PassState) (registry, nowMs, outcomes) =>
      (runPass A roomId ⟨s.peers, registry⟩ s.controllers nowMs outcomes).state) ⟨∅, peers, true⟩
    let planner := passes.foldl (fun (planner : DownlinkRoom) (registry, nowMs, _) =>
      { planner with registry := registry }.runDownlinkPlanning nowMs)
        ⟨peers.mapValues fun _ _ => ∅, ∅, ∅⟩
    Refines roomId ⟨s.peers, planner.registry⟩ s.controllers planner := by
  refine foldl_rel (r := fun (s : PassState) planner =>
    Refines roomId ⟨s.peers, planner.registry⟩ s.controllers planner) ?_
    fun pass _ s planner h => ?_
  · exact ⟨Dict.keys_mapValues _ _, rfl, fun _ => rfl⟩
  have hpass : Refines roomId ⟨s.peers, pass.1⟩ s.controllers { planner with registry := pass.1 } :=
    { h with registry := rfl }
  exact hpass.runPass A pass.2.2

end Refines

/-! ### Consumers as planned -/

def DownlinkAction.HeldBy (action : DownlinkAction) (consumer : Consumer) : Prop :=
  match action.type with
  | .pause => consumer.paused = true
  | .resume => consumer.paused = false
  | .setLayers => consumer.preferredSpatialLayer = action.spatialLayer ∧
      consumer.preferredTemporalLayer = action.temporalLayer
  | .setPriority => consumer.priority = action.priority
  | .none => True

theorem heldBy_of_planned {row : Row} {state : ConsumerLastState} {consumer : Consumer}
    (hshow : consumer.Shows (row.planned state)) (hkind : row.sub.kind = consumer.kind)
    {a : DownlinkAction} (ha : a ∈ row.actions) : a.HeldBy consumer := by
  rcases mem_actions.mp ha with ⟨rfl, hact⟩ | ⟨rfl, hact⟩ | ⟨rfl, hact, hvid⟩ | rfl
  · exact hshow.paused.trans (by simp [Row.planned, hact])
  · exact hshow.paused.trans (by simp [Row.planned, hact])
  · obtain ⟨hspat, htemp⟩ := hshow.layers (hkind ▸ hvid)
    exact ⟨hspat.trans (by simp [Row.planned, hact, hvid]),
      htemp.trans (by simp [Row.planned, hact, hvid])⟩
  · exact hshow.priority

theorem heldBy_runPass (A : SubscriberBudgetAllocator) {roomId : String} {room : PlanningRoom}
    {controllers : Controllers} {nowMs : ℤ} {outcomes : Outcomes}
    (hsucc : (runPass A roomId room controllers nowMs outcomes).state.succeeded)
    {plan : PlannedSubscriber}
    (hplan : plan ∈ (runPass A roomId room controllers nowMs outcomes).subscriberPlans)
    (hnd : (plan.snapshot.subscriptions.map DownlinkSubscription.consumerId).Nodup)
    {consumerId : String} {consumer : Consumer}
    (hcons : (runPass A roomId room controllers nowMs outcomes).state.peers.consumer
      plan.peerId consumerId = some consumer) (hopen : consumer.closed = false)
    (hkind : ∀ sub ∈ plan.snapshot.subscriptions, sub.consumerId = consumerId →
      sub.kind = consumer.kind)
    {a : DownlinkAction} (ha : a ∈ plan.plan.actions) (hid : a.consumerId = consumerId) :
    a.HeldBy consumer := by
  have hinv := @collectInv roomId room nowMs controllers
  unfold runPass at hsucc hplan hcons
  dsimp only at hsucc hplan hcons
  have hprs : (((collectPlanningInputs roomId room controllers nowMs).subscriberInputs.map
      (SubscriberInput.planned A)).map PlannedSubscriber.peerId).Nodup := by
    rw [map_map]
    exact hinv.planned.nodup room.peers.nodupKeys
  have htracked : ∀ plan ∈ (collectPlanningInputs roomId room controllers
      nowMs).subscriberInputs.map (SubscriberInput.planned A), Tracks room.peers plan.peerId
        ((collectPlanningInputs roomId room controllers nowMs).controllers.of roomId
          plan.peerId).lastState := fun plan hplan => by
    obtain ⟨input, hin, rfl⟩ := mem_map.mp hplan
    exact hinv.tracks input hin
  obtain ⟨lastState, htrs⟩ := tracks_applySubscriberPlans hprs htracked hsucc hplan
  obtain ⟨state, hstt, hshow⟩ := htrs consumerId consumer hcons hopen
  obtain ⟨input, -, rfl⟩ := mem_map.mp hplan
  -- the plan is one of the allocator, so the consumer has a row of it
  have hacts : (SubscriberInput.planned A input).plan.actions =
      (A.upgraded input.snapshot input.degradeLevel).rows.flatMap Row.actions :=
    actions_allocate A input.snapshot input.degradeLevel
  rw [hacts] at ha hstt
  obtain ⟨row, hrow, harow, hrowId⟩ := exists_row ha
  have hsub : row.sub ∈ input.snapshot.subscriptions := by
    rw [← map_sub_upgraded A input.snapshot input.degradeLevel]
    exact mem_map_of_mem hrow
  have hrows : ((A.upgraded input.snapshot input.degradeLevel).rows.map fun row =>
      row.sub.consumerId).Nodup := nodup_rows A hnd input.degradeLevel
  have hplanned := lookup_planned hrows hrow lastState
  rw [← hrowId, hid, hstt] at hplanned
  rw [Option.some.inj hplanned] at hshow
  exact heldBy_of_planned hshow (hkind row.sub hsub (hrowId.symm.trans hid)) harow

/-- **Only differences are applied, and consumers become what is planned.**  The first part is
about the plans of the allocator and any last states; the second one about any history, in which
requests may have failed. -/
theorem planning_spec (A : SubscriberBudgetAllocator) :
    (∀ (snapshot : DownlinkSnapshot) (degradeLevel : ℤ) (lastState : LastStates),
      (snapshot.subscriptions.map DownlinkSubscription.consumerId).Nodup →
        DiffSpec (A.allocate snapshot degradeLevel).actions lastState) ∧
    ∀ (history : List PlanningEvent) (roomId : String) (room : PlanningRoom) (nowMs : ℤ)
      (outcomes : Outcomes),
      (runFrom (planningStep A) {} history).rooms.lookup roomId = some room →
      let result := runPass A roomId room (runFrom (planningStep A) {} history).controllers nowMs
        outcomes
      result.state.succeeded = true →
      ∀ plan ∈ result.subscriberPlans,
        (plan.snapshot.subscriptions.map DownlinkSubscription.consumerId).Nodup →
        ∀ consumerId consumer,
          result.state.peers.consumer plan.peerId consumerId = some consumer →
          consumer.closed = false →
          (∀ sub ∈ plan.snapshot.subscriptions, sub.consumerId = consumerId →
            sub.kind = consumer.kind) →
          ∀ a ∈ plan.plan.actions, a.consumerId = consumerId → a.HeldBy consumer := by
  refine ⟨fun snapshot degradeLevel lastState hnd =>
    diffSpec_allocate A hnd degradeLevel lastState, ?_⟩
  intro history roomId room nowMs outcomes _ result hsucc plan hplan hnd consumerId
    consumer hcons hopen hkind a ha hid
  exact heldBy_runPass A hsucc hplan hnd hcons hopen hkind ha hid

def pausedCamera : PlanningRoom where
  peers := (∅ : PeerConsumers).insert "alice"
    ((∅ : Dict String Consumer).insert "c1" { kind := "video", paused := true })
  registry := (∅ : DownlinkQosRegistry).insert "alice"
    ⟨{ seq := 1, subscriberPeerId := "alice",
       subscriptions := [{ consumerId := "c1", producerId := "camera" }] }, 0⟩

def failedPass : List PlanningEvent :=
  [.world ((∅ : Dict String PlanningRoom).insert "room" pausedCamera),
    .pass "room" 100 fun _ _ => { answered := false }]

def afterFailedPass : PlanningState := runFrom (planningStep roughAllocator) {} failedPass

def secondPassResult : PassResult :=
  runPass roughAllocator "room" ((afterFailedPass.rooms.lookup "room").getD {})
    afterFailedPass.controllers 200 fun _ _ => {}

/-- A pass that failed has left the camera paused, and the next one resumes it. -/
theorem planning_spec_failedPass :
    (afterFailedPass.rooms.lookup "room").map
        (fun room => (room.peers.consumer "alice" "c1").map Consumer.paused) =
          some (some true) ∧
      ∃ consumer, secondPassResult.state.peers.consumer "alice" "c1" = some consumer ∧
        consumer.paused = false := by
  refine ⟨by decide +kernel, ?_⟩
  have hroom : (afterFailedPass.rooms.lookup "room").isSome := by decide +kernel
  have hsucc : secondPassResult.state.succeeded := by decide +kernel
  have hplan : secondPassResult.subscriberPlans.head?.map (fun plan =>
      (plan.peerId, plan.snapshot.subscriptions.map fun sub => (sub.consumerId, sub.kind),
        plan.plan.actions.head?)) =
      some ("alice", [("c1", "video")], some { type := .resume, consumerId := "c1" }) := by
    decide +kernel
  have hcons : (secondPassResult.state.peers.consumer "alice" "c1").map (fun consumer =>
      (consumer.closed, consumer.kind)) = some (false, "video") := by
    decide +kernel
  obtain ⟨room, hroom⟩ := Option.isSome_iff_exists.mp hroom
  obtain ⟨plan, hhead, hfields⟩ := Option.map_eq_some_iff.mp hplan
  obtain ⟨consumer, hlook, hopen⟩ := Option.map_eq_some_iff.mp hcons
  obtain ⟨hpeer, hsubs, hres⟩ := by simpa only [Prod.mk.injEq] using hfields
  obtain ⟨hcl, hkind⟩ := Prod.mk.inj hopen
  have hnd : (plan.snapshot.subscriptions.map DownlinkSubscription.consumerId).Nodup := by
    have hids := congrArg (List.map Prod.fst) hsubs
    rw [map_map] at hids
    exact hids ▸ nodup_singleton "c1"
  refine ⟨consumer, hlook, ?_⟩
  unfold secondPassResult at hsucc hhead hlook
  rw [hroom] at hsucc hhead hlook
  have hheld := (planning_spec roughAllocator).2 failedPass "room" room 200 (fun _ _ => {}) hroom
    hsucc plan (mem_of_head? hhead) hnd "c1" consumer (hpeer ▸ hlook) hcl ?_ _
    (mem_of_head? hres) rfl
  · exact hheld
  intro sub hsub _
  have hmem := mem_map_of_mem (f := fun sub : DownlinkSubscription =>
    (sub.consumerId, sub.kind)) hsub
  rw [hsubs, mem_singleton] at hmem
  exact (Prod.mk.inj hmem).2.trans hkind.symm

end MediasoupCpp
