import MediasoupCpp.Qos.Demand

/-!
# The demand of a pass as a sum

The demand on a producer is added up over the subscriptions of a pass, one after another, in
whatever order the subscribers come and the maps are iterated in.  What a subscription adds
depends on nothing but its own plan: a visible one that its plan resumes adds one to the count,
and the layers of a resumed one are taken into the maxima.

Main result: `demand_of_plans`.

Source: `src/qos/ProducerDemandAggregator.cpp`, `src/qos/RoomDownlinkPlanner.cpp`.
-/

namespace MediasoupCpp

open List

/-! ### What a plan gives a consumer -/

def AllocatedLayer.apply (entry : AllocatedLayer) (a : DownlinkAction) : AllocatedLayer :=
  match a.type with
  | .setLayers => { entry with spatial := a.spatialLayer, temporal := a.temporalLayer }
  | .resume => { entry with paused := false }
  | .pause => { entry with paused := true }
  | _ => entry

theorem applyAction_eq :
    applyAction = Dict.upsert DownlinkAction.consumerId AllocatedLayer.apply {} := by
  rfl

namespace SubscriberBudgetPlan

variable (plan : SubscriberBudgetPlan) (consumerId : String)

def layerMap : Dict String AllocatedLayer := plan.actions.foldl applyAction ∅

def resumes : Bool := !pausedAfter plan.actions consumerId true

def layers : UInt8 × UInt8 :=
  match (plan.actions.filter fun a => a.consumerId = consumerId ∧ a.type = .setLayers).getLast? with
  | some a => (a.spatialLayer, a.temporalLayer)
  | none => (0, 0)

end SubscriberBudgetPlan

open SubscriberBudgetPlan

theorem foldl_apply (actions : List DownlinkAction) (consumerId : String) :
    (actions.filter fun a => a.consumerId = consumerId).foldl AllocatedLayer.apply {} =
      { spatial := (SubscriberBudgetPlan.layers { actions := actions } consumerId).1
        temporal := (layers { actions := actions } consumerId).2
        paused := pausedAfter actions consumerId true } := by
  induction actions using List.reverseRecOn with
  | nil => rfl
  | append_singleton actions a ih =>
    by_cases hid : a.consumerId = consumerId
    · have hpau : pausedAfter (actions ++ [a]) consumerId true =
          a.pausedBy consumerId (pausedAfter actions consumerId true) := by
        simp [pausedAfter]
      rw [filter_append, filter_singleton, foldl_append, ih, hpau]
      cases htype : a.type <;>
        simp [AllocatedLayer.apply, layers, DownlinkAction.pausedBy, hid, htype, filter_append]
    · have hpau : pausedAfter (actions ++ [a]) consumerId true =
          pausedAfter actions consumerId true := by
        simp [pausedAfter, DownlinkAction.pausedBy, hid]
      rw [hpau]
      simpa [layers, filter_append, hid] using ih

theorem lookup_layerMap (plan : SubscriberBudgetPlan) (consumerId : String) :
    plan.layerMap.lookup consumerId =
      if consumerId ∈ plan.actions.map DownlinkAction.consumerId then some
          { spatial := (plan.layers consumerId).1
            temporal := (plan.layers consumerId).2
            paused := !plan.resumes consumerId }
      else none := by
  rw [layerMap, applyAction_eq, Dict.lookup_foldl_upsert]
  refine if_congr Iff.rfl (congrArg some ?_) rfl
  have hfold := foldl_apply plan.actions consumerId
  rw [resumes, Bool.not_not]
  exact hfold

theorem resumes_of_notMem {plan : SubscriberBudgetPlan} {consumerId : String}
    (h : consumerId ∉ plan.actions.map DownlinkAction.consumerId) :
    plan.resumes consumerId = false := by
  suffices hpau : pausedAfter plan.actions consumerId true = true by
    rw [resumes, hpau]
    rfl
  have hnil : plan.actions.filter (fun a => a.consumerId = consumerId) = [] :=
    filter_eq_nil_iff.mpr fun a ha heq =>
      h (mem_map.mpr ⟨a, ha, of_decide_eq_true heq⟩)
  have hfold := foldl_apply plan.actions consumerId
  rw [hnil] at hfold
  exact (congrArg AllocatedLayer.paused hfold).symm

/-! ### Adding up subscriptions -/

def AggregationPass.subscriptions (pass : AggregationPass) :
    List (SubscriberBudgetPlan × DownlinkSubscription) :=
  pass.subscribers.flatMap fun s => s.snapshot.subscriptions.map (s.plan, ·)

open AggregationPass

def isResumedBy (e : SubscriberBudgetPlan × DownlinkSubscription) : Bool :=
  e.1.resumes e.2.consumerId

variable (acc : Accumulator)

def Accumulator.step (e : SubscriberBudgetPlan × DownlinkSubscription) : Accumulator :=
  if isResumedBy e then
    acc.add e.2
      { spatial := (e.1.layers e.2.consumerId).1, temporal := (e.1.layers e.2.consumerId).2 }
  else acc

open Accumulator

theorem addSubscription_eq (plan : SubscriberBudgetPlan) (accs : Accumulators)
    (sub : DownlinkSubscription) : addSubscription plan.layerMap accs sub =
      Dict.upsert (fun e => e.2.producerId) Accumulator.step {} accs (plan, sub) := by
  unfold addSubscription Dict.upsert step isResumedBy
  dsimp only
  rw [lookup_layerMap]
  congr 1
  by_cases hmem : sub.consumerId ∈ plan.actions.map DownlinkAction.consumerId
  · rw [if_pos hmem]
    cases plan.resumes sub.consumerId <;> rfl
  · rw [if_neg hmem, resumes_of_notMem hmem]
    rfl

theorem accumulators_eq (pass : AggregationPass) : pass.accumulators = pass.subscriptions.foldl
      (Dict.upsert (fun e => e.2.producerId) Accumulator.step {}) ∅ := by
  rw [subscriptions, foldl_flatMap]
  unfold accumulators
  congr 1
  funext accs s
  rw [foldl_map]
  change List.foldl (addSubscription s.plan.layerMap) accs _ = _
  congr 1
  funext accs sub
  exact addSubscription_eq s.plan accs sub

namespace AggregationPass

variable (pass : AggregationPass) (producerId : String)

def subscriptionsTo : List (SubscriberBudgetPlan × DownlinkSubscription) :=
  pass.subscriptions.filter fun e => e.2.producerId = producerId

def resumed : List (SubscriberBudgetPlan × DownlinkSubscription) :=
  (pass.subscriptionsTo producerId).filter isResumedBy

theorem lookup_accumulators : pass.accumulators.lookup producerId =
      if pass.subscriptionsTo producerId = [] then none
      else some ((pass.subscriptionsTo producerId).foldl Accumulator.step {}) := by
  rw [accumulators_eq, Dict.lookup_foldl_upsert]
  have hiff : producerId ∈ pass.subscriptions.map (fun e => e.2.producerId) ↔
      ¬pass.subscriptionsTo producerId = [] := by
    simp [subscriptionsTo, filter_eq_nil_iff]
  by_cases hnone : pass.subscriptionsTo producerId = []
  · rw [if_pos hnone, if_neg (fun h => hiff.mp h hnone)]
    rfl
  · rw [if_neg hnone, if_pos (hiff.mpr hnone)]
    rfl

end AggregationPass

/-! ### The order does not matter -/

theorem toNat_max (a b : UInt8) : (max a b).toNat = max a.toNat b.toNat := by
  exact apply_ite UInt8.toNat (a ≤ b) b a

theorem max_right_comm_uint8 (a b c : UInt8) : max (max a b) c = max (max a c) b := by
  rw [← UInt8.toNat_inj]
  simp only [toNat_max]
  exact max_right_comm _ _ _

theorem Accumulator.add_right_comm (sub sub' : DownlinkSubscription) (layer layer' : AllocatedLayer)
    : (acc.add sub layer).add sub' layer' = (acc.add sub' layer').add sub layer := by
  simp only [add, mk.injEq]
  exact ⟨max_right_comm_uint8 _ _ _, max_right_comm_uint8 _ _ _, Nat.add_right_comm _ _ _,
    Nat.add_right_comm _ _ _⟩

theorem Accumulator.step_right_comm (e e' : SubscriberBudgetPlan × DownlinkSubscription) :
    (acc.step e).step e' = (acc.step e').step e := by
  unfold step
  by_cases he : isResumedBy e
  · by_cases he' : isResumedBy e'
    · simp only [he, he', if_true]
      exact add_right_comm _ _ _ _ _
    · simp only [he, he', if_true]
      rfl
  · simp only [he]
    rfl

theorem lookup_accumulators_of_perm {pass pass' : AggregationPass}
    (h : pass'.subscribers.Perm pass.subscribers) (producerId : String) :
    pass'.accumulators.lookup producerId = pass.accumulators.lookup producerId := by
  have hperm : (pass'.subscriptionsTo producerId).Perm (pass.subscriptionsTo producerId) :=
    (h.flatMap_right _).filter _
  rw [lookup_accumulators, lookup_accumulators]
  refine if_congr ⟨fun hnil => ?_, fun hnil => ?_⟩ rfl (congrArg some ?_)
  · rw [hnil] at hperm
    exact hperm.nil_eq.symm
  · rw [hnil] at hperm
    exact hperm.eq_nil
  · exact hperm.foldl_eq' (fun e _ e' _ acc => acc.step_right_comm e e') _

/-! ### Counts and maxima -/

theorem foldl_step (es : List (SubscriberBudgetPlan × DownlinkSubscription)) (acc : Accumulator) :
    (es.foldl Accumulator.step acc).visibleSubscriberCount = acc.visibleSubscriberCount +
        ((es.filter isResumedBy).filter fun e => e.2.visible).length ∧
      (es.foldl Accumulator.step acc).maxSpatialLayer.toNat = max acc.maxSpatialLayer.toNat
        (((es.filter isResumedBy).map fun e => (e.1.layers e.2.consumerId).1.toNat).foldr max 0) ∧
      (es.foldl Accumulator.step acc).maxTemporalLayer.toNat = max acc.maxTemporalLayer.toNat
        (((es.filter isResumedBy).map fun e => (e.1.layers e.2.consumerId).2.toNat).foldr
          max 0) := by
  induction es generalizing acc with
  | nil => simp
  | cons e es ih =>
    obtain ⟨hcnt, hspat, htemp⟩ := ih (acc.step e)
    rw [foldl_cons, hcnt, hspat, htemp]
    by_cases he : isResumedBy e
    · have hstep : acc.step e = acc.add e.2
          { spatial := (e.1.layers e.2.consumerId).1
            temporal := (e.1.layers e.2.consumerId).2 } := if_pos he
      rw [filter_cons_of_pos he, hstep]
      simp only [add, toNat_max, map_cons, foldr_cons, max_assoc, and_true]
      cases hvis : e.2.visible
      · simp [hvis]
      · simp [hvis]
        omega
    · have hstep : acc.step e = acc := if_neg he
      rw [filter_cons_of_neg he, hstep]
      exact ⟨rfl, rfl, rfl⟩

theorem seenState_demand (nowMs : ℤ) (producerId : String) (acc : Accumulator)
    (prev : Option ProducerDemandState) :
    let state := seenState nowMs producerId acc prev
    state.visibleSubscriberCount = acc.visibleSubscriberCount ∧
      state.maxSpatialLayer = acc.maxSpatialLayer ∧
      state.maxTemporalLayer = acc.maxTemporalLayer := by
  have hclear (state : ProducerDemandState) :
      state.clearResume.visibleSubscriberCount = state.visibleSubscriberCount ∧
        state.clearResume.maxSpatialLayer = state.maxSpatialLayer ∧
        state.clearResume.maxTemporalLayer = state.maxTemporalLayer := by
    unfold ProducerDemandState.clearResume
    split <;> exact ⟨rfl, rfl, rfl⟩
  unfold seenState
  dsimp only
  cases prev <;> split <;> exact hclear _

theorem DemandMap.lookup_of_perm {prev prev' : DemandMap}
    (h : prev'.states.entries.Perm prev.states.entries) (producerId : String) :
    prev'.lookup producerId = prev.lookup producerId :=
  AList.perm_lookup h

/-- **The demand of a pass.**  Whatever order the subscribers come in and the states of the pass
before are iterated in, the states of the pass are the same; there is one for each producer; and
a producer that is subscribed to has as visible subscribers the visible subscriptions that the
plans resume, and as layers the maxima over all that they resume. -/
theorem demand_of_plans (prev : DemandMap) (pass : AggregationPass) :
    (∀ (prev' : DemandMap) (pass' : AggregationPass),
      prev'.states.entries.Perm prev.states.entries → pass'.nowMs = pass.nowMs →
      pass'.subscribers.Perm pass.subscribers →
      (finalize pass'.nowMs pass'.accumulators prev').Perm
        (finalize pass.nowMs pass.accumulators prev)) ∧
    ((finalize pass.nowMs pass.accumulators prev).map ProducerDemandState.producerId).Nodup ∧
    ∀ producerId, pass.subscriptionsTo producerId ≠ [] →
      ∃ state ∈ finalize pass.nowMs pass.accumulators prev, state.producerId = producerId ∧
        state.visibleSubscriberCount =
          ((pass.resumed producerId).filter fun e => e.2.visible).length ∧
        state.maxSpatialLayer.toNat = ((pass.resumed producerId).map fun e =>
          (e.1.layers e.2.consumerId).1.toNat).foldr max 0 ∧
        state.maxTemporalLayer.toNat = ((pass.resumed producerId).map fun e =>
          (e.1.layers e.2.consumerId).2.toNat).foldr max 0 := by
  refine ⟨fun prev' pass' hprev hnow hsubs => ?_, nodup_finalize _ _, fun producerId hsub => ?_⟩
  · -- both are without duplicates, so it is enough that they have the same members
    refine (perm_ext_iff_of_nodup (List.Nodup.of_map _ (nodup_finalize _ _))
      (List.Nodup.of_map _ (nodup_finalize _ _))).mpr fun state => ?_
    rw [mem_finalize, mem_finalize, hnow]
    simp only [lookup_accumulators_of_perm hsubs, DemandMap.lookup_of_perm hprev]
  have hacc := pass.lookup_accumulators producerId
  rw [if_neg hsub] at hacc
  obtain ⟨hcnt, hspat, htemp⟩ := foldl_step (pass.subscriptionsTo producerId) {}
  obtain ⟨hseenCount, hseenS, hseenT⟩ :=
    seenState_demand pass.nowMs producerId
      ((pass.subscriptionsTo producerId).foldl step {}) (prev.lookup producerId)
  refine ⟨_, mem_finalize.mpr (.inl ⟨producerId, _, hacc, rfl⟩), producerId_seenState _ _,
    ?_, ?_, ?_⟩
  · rw [hseenCount, hcnt]
    exact Nat.zero_add _
  · rw [hseenS, hspat]
    exact Nat.zero_max _
  · rw [hseenT, htemp]
    exact Nat.zero_max _

end MediasoupCpp
