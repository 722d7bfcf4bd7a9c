import Mathlib.Data.List.Nodup
import Mathlib.Logic.Function.Basic
import MediasoupCpp.Qos.OverrideDelivery
import MediasoupCpp.Qos.RoomPlan

/-!
# Server and client about one track

In every planning pass the server offers the publishers the overrides their producers need now,
and sends those it does not remember to have sent.  It remembers one override for each slot of a
track.

Main result: `onlyOffered_iff`.

Source: `src/RoomServiceDownlink.cpp`, `src/RoomDownlinkHelpers.h`,
`src/qos/PublisherSupplyController.cpp`, `src/client/lib/qos/controller.js`.
-/

namespace MediasoupCpp

open List Runs Dict Option ActiveOverrides ProducerDemandState Function

/-! ### Passes -/

/-- The peer and the track of each producer; different producers have different ones. -/
structure TrackResolver where
  resolve : String → String × String
  injective : Function.Injective resolve

structure SupplyPass where
  nowMs : ℤ
  room : DownlinkRoom

structure SupplySystem where
  demand : DemandMap := ∅
  channel : OverrideChannel := { clock := 0 }

def deliverOverride (addr : PublisherTrack) (ch : OverrideChannel) (t : TargetedOverride) :
    OverrideChannel :=
  match maybeSendTrackQosOverride ch.records addr.roomId ch.clock t with
  | (records, none) => { ch with records := records }
  | (records, some _) =>
    { ch with
      records := records
      active :=
        if t.targetPeerId = addr.peerId then
          ch.active.handleOverride ch.clock addr.trackId t.overrideData.toClient
        else ch.active }

structure SupplyTarget where
  allocator : SubscriberBudgetAllocator
  resolver : TrackResolver
  roomId : String
  producerId : String

namespace SupplyTarget

variable (T : SupplyTarget)

def addr : PublisherTrack where
  roomId := T.roomId
  peerId := (T.resolver.resolve T.producerId).1
  trackId := (T.resolver.resolve T.producerId).2

variable (s : SupplySystem)

def supplyPass (pass : SupplyPass) : SupplySystem :=
  let outcome := runDownlinkPlanningForRoom T.allocator pass.nowMs pass.room s.demand
  { demand := outcome.demand
    channel :=
      match outcome.supplyPlan with
      | none => s.channel
      | some states =>
        (buildOverrides states (fun id => some (T.resolver.resolve id)) pass.nowMs).foldl
          (deliverOverride T.addr)
          { s.channel with
            records := cleanupExpiredTrackOverrideRecords s.channel.records pass.nowMs
            clock := pass.nowMs } }

def offered : List QosOverride :=
  (s.demand.lookup T.producerId).elim [] (trackOverrides · T.addr.trackId)

/-- After a pass the client keeps, as far as it has not expired, only what the pass offers for
the producer; so the clamp in force is not lower than the layer that is wanted. -/
structure OnlyOffered (nowMs : ℤ) : Prop where
  kept : ∀ key entry, s.channel.active.lookup key = some entry → nowMs < entry.expiresAtMs →
    (startsWith key "downlink_v2_" || startsWith key "downlink_v3_") = true →
      ∃ o ∈ T.offered s, entry.data = o.toClient
  clamp : ∀ state, s.demand.lookup T.producerId = some state → state.supplyState = .lowClamped →
    ∀ clamp, s.channel.active.clampInForce nowMs = some clamp →
      state.maxSpatialLayer.toNat ≤ clamp

end SupplyTarget

def holdReason : String := "downlink_v2_zero_demand_hold"
def demandReason : String := "downlink_v2_room_demand"

def SupplyTarget.NothingElse (T : SupplyTarget) (s : SupplySystem) (pass : SupplyPass) : Prop :=
  ∀ key entry, s.channel.active.lookup key = some entry → pass.nowMs < entry.expiresAtMs →
    ∃ state, (T.supplyPass s pass).demand.lookup T.producerId = some state ∧
      (state.supplyState = .zeroDemandHold → key = holdReason) ∧
        (state.supplyState = .lowClamped → key = demandReason)

/-! ### How supply states follow each other -/

section Supply

variable {nowMs : ℤ} {producerId : String} {state : ProducerDemandState}

theorem advanceSupplyState_spec (state : ProducerDemandState) (zeroDemand : Bool) (nowMs : ℤ) :
    (advanceSupplyState state zeroDemand nowMs = .paused →
        state.supplyState = .paused ∨ state.supplyState = .zeroDemandHold) ∧
      (advanceSupplyState state zeroDemand nowMs = .resumeWarmup →
        state.supplyState = .paused ∨ state.supplyState = .resumeWarmup) ∧
      (state.supplyState = .paused → advanceSupplyState state zeroDemand nowMs = .paused ∨
        advanceSupplyState state zeroDemand nowMs = .resumeWarmup) ∧
      (advanceSupplyState state zeroDemand nowMs = .lowClamped →
        zeroDemand = false ∧ state.maxSpatialLayer < 2) := by
  unfold advanceSupplyState servedState
  cases hsup : state.supplyState <;> cases zeroDemand <;> simp <;> split_ifs <;> simp_all

structure SupplyFollows (prev : Option ProducerDemandState) (state : ProducerDemandState) :
    Prop where
  paused : state.supplyState = .paused → prev.map ProducerDemandState.supplyState = some .paused ∨
    prev.map ProducerDemandState.supplyState = some .zeroDemandHold
  resumeWarmup : state.supplyState = .resumeWarmup →
    prev.map ProducerDemandState.supplyState = some .paused ∨
      prev.map ProducerDemandState.supplyState = some .resumeWarmup
  of_paused : prev.map ProducerDemandState.supplyState = some .paused →
    state.supplyState = .paused ∨ state.supplyState = .resumeWarmup
  lowClamped : state.supplyState = .lowClamped → shouldClamp state = true ∨ prev = some state

theorem supplyFollows_self (state : ProducerDemandState) : SupplyFollows (some state) state where
  paused h := .inl (congrArg some h)
  resumeWarmup h := .inr (congrArg some h)
  of_paused h := .inl (some.inj h)
  lowClamped _ := .inr rfl

theorem getD_active_eq_iff {supply : Option ProducerSupplyState} {next : ProducerSupplyState}
    (hnext : next ≠ .active) : supply.getD .active = next ↔ supply = some next := by
  cases supply <;> simp [hnext.symm]

theorem supplyFollows_of_advance {prev : Option ProducerDemandState}
    (before : ProducerDemandState) (zeroDemand : Bool)
    (hst : state.supplyState = advanceSupplyState before zeroDemand nowMs)
    (hbef : before.supplyState = (prev.map ProducerDemandState.supplyState).getD .active)
    (hcl : zeroDemand = false → before.maxSpatialLayer < 2 → shouldClamp state) :
    SupplyFollows prev state := by
  have hspec := advanceSupplyState_spec before zeroDemand nowMs
  rw [← hst, hbef, getD_active_eq_iff (by decide), getD_active_eq_iff (by decide),
    getD_active_eq_iff (by decide)] at hspec
  obtain ⟨hpau, hres, hfrom, hlow⟩ := hspec
  exact ⟨hpau, hres, hfrom, fun h => .inl (hcl (hlow h).1 (hlow h).2)⟩

theorem supplyFollows_missingState (prev : ProducerDemandState) :
    SupplyFollows (some prev) (missingState nowMs producerId prev) :=
  supplyFollows_of_advance { missingState nowMs producerId prev with
    supplyState := prev.supplyState } true rfl rfl fun h => Bool.noConfusion h

theorem supplyFollows_seenState (acc : Accumulator) (prev : Option ProducerDemandState) :
    SupplyFollows prev (seenState nowMs producerId acc prev) := by
  have hbef := supplyState_carryForward (acc.state producerId) prev
  unfold seenState
  split
  · exact supplyFollows_of_advance _ true (supplyState_clearResume _) hbef
      fun h => Bool.noConfusion h
  rename_i hseen
  refine supplyFollows_of_advance _ false (supplyState_clearResume _) hbef fun _ hlay => ?_
  have hcnt : shouldClamp ((((acc.state producerId).carryForward prev).withDemand prev
      nowMs).clearResume) = shouldClamp (acc.state producerId) := by
    unfold clearResume
    cases prev <;> split <;> rfl
  rw [hcnt]
  have hlay : acc.maxSpatialLayer < 2 := by
    cases prev <;> exact hlay
  simp [shouldClamp, Accumulator.state, Nat.pos_of_ne_zero hseen, hlay]

theorem supplyFollows_pass (A : SubscriberBudgetAllocator) (room : DownlinkRoom)
    (prevDemand : DemandMap)
    (h : (runDownlinkPlanningForRoom A nowMs room prevDemand).demand.lookup producerId =
      some state) : SupplyFollows (prevDemand.lookup producerId) state := by
  obtain ⟨-, hsame, hnone⟩ | ⟨_, _, -, hdem⟩ :=
    runDownlinkPlanningForRoom_cases A nowMs room prevDemand
  · rw [hsame, hnone] at h
    cases h
  rw [hdem] at h
  obtain ⟨acc, rfl⟩ | ⟨old, hold, rfl⟩ | hold := lookup_reindex_mergeStale_cases h
  · exact supplyFollows_seenState acc _
  · rw [hold]
    exact supplyFollows_missingState old
  · rw [hold]
    exact supplyFollows_self state

theorem lookup_pass_of_paused (A : SubscriberBudgetAllocator) (room : DownlinkRoom)
    (prevDemand : DemandMap) {old : ProducerDemandState}
    (hold : prevDemand.lookup producerId = some old) (hpau : old.supplyState = .paused) :
    (runDownlinkPlanningForRoom A nowMs room prevDemand).demand.lookup producerId ≠ none := by
  obtain ⟨-, -, hnone⟩ | ⟨accs, _, -, hdem⟩ :=
    runDownlinkPlanningForRoom_cases A nowMs room prevDemand
  · rw [hnone] at hold
    cases hold
  rw [hdem, lookup_reindex_mergeStale (nodup_finalize _ _), lookup_reindex_finalize, hold]
  cases accs.lookup producerId with
  | some acc => simp
  | none =>
    have hstay : (missingState nowMs producerId old).supplyState = .paused :=
      advanceSupplyState_eq_paused_iff.mpr (.inl hpau)
    simp [kept, hstay]

end Supply

/-! ### What server and client hold about a track -/

structure TrackView where
  record : OverrideSlot → Option TrackQosOverrideRecord
  active : ActiveOverrides

def OverrideChannel.view (addr : PublisherTrack) (ch : OverrideChannel) : TrackView where
  record slot := ch.records.lookup ⟨addr.roomId, addr.peerId, addr.trackId, slot⟩
  active := ch.active

namespace TrackView

def Holds (v : TrackView) (o : QosOverride) : Prop :=
  ∃ r, v.record (resolveOverrideSlot o) = some r ∧ r.signature = o.raw

def remembers (v : TrackView) (nowMs : ℤ) (o : QosOverride) : Bool :=
  match v.record (resolveOverrideSlot o) with
  | some r => !r.expired nowMs && r.signature == o.raw
  | none => false

variable (trackId : String) (nowMs : ℤ)

def offer (v : TrackView) (o : QosOverride) : TrackView :=
  if v.remembers nowMs o then v
  else
    { record := Function.update v.record (resolveOverrideSlot o) (some ⟨o.raw, nowMs, o.ttlMs⟩)
      active := v.active.handleOverride nowMs trackId o.toClient }

def cleanup (v : TrackView) : TrackView where
  record slot := (v.record slot).filter fun r => !r.expired nowMs
  active := v.active

theorem offer_cases (v : TrackView) (o : QosOverride) :
    (v.Holds o ∧ v.offer trackId nowMs o = v) ∨ v.offer trackId nowMs o =
        { record := Function.update v.record (resolveOverrideSlot o) (some ⟨o.raw, nowMs, o.ttlMs⟩)
          active := v.active.handleOverride nowMs trackId o.toClient } := by
  unfold offer
  split
  next hrem =>
    refine .inl ⟨?_, rfl⟩
    unfold remembers at hrem
    split at hrem
    next r hr =>
      rw [Bool.and_eq_true, beq_iff_eq] at hrem
      exact ⟨r, hr, hrem.2⟩
    · cases hrem
  · exact .inr rfl

theorem holds_offer (v : TrackView) (o : QosOverride) : (v.offer trackId nowMs o).Holds o := by
  obtain ⟨_, hsame⟩ | hsent := offer_cases trackId nowMs v o
  · rwa [hsame]
  · rw [hsent]
    exact ⟨_, update_self _ _ _, rfl⟩

variable {v : TrackView} {o : QosOverride}

theorem holds_offer_of_ne {trackId : String} {nowMs : ℤ} {o' : QosOverride}
    (hslot : resolveOverrideSlot o' ≠ resolveOverrideSlot o) :
    (v.offer trackId nowMs o).Holds o' ↔ v.Holds o' := by
  obtain ⟨-, hsame⟩ | hsent := offer_cases trackId nowMs v o
  · rw [hsame]
  rw [hsent, Holds, Holds]
  dsimp only
  rw [update_of_ne hslot]

theorem Holds.raw_eq {o' : QosOverride} (h : v.Holds o) (h' : v.Holds o')
    (hslot : resolveOverrideSlot o = resolveOverrideSlot o') : o.raw = o'.raw := by
  obtain ⟨_, hr, hsig⟩ := h
  obtain ⟨_, hr', hsig'⟩ := h'
  rw [hslot, hr'] at hr
  rw [← hsig, ← hsig', some.inj hr]

theorem Holds.of_cleanup {nowMs : ℤ} (h : (v.cleanup nowMs).Holds o) : v.Holds o := by
  obtain ⟨r, hr, hsig⟩ := h
  exact ⟨r, (filter_eq_some_iff.mp hr).1, hsig⟩

end TrackView

open TrackView

section View

variable {addr : PublisherTrack} {ch : OverrideChannel} {state : ProducerDemandState}
  {peerId trackId : String} {o : QosOverride}

theorem deliverOverride_eq (addr : PublisherTrack) (ch : OverrideChannel) (t : TargetedOverride) :
    deliverOverride addr ch t = if alreadySent ch.records addr.roomId ch.clock t then ch
      else
        { ch.note (overrideKey addr.roomId t) ⟨t.overrideData.raw, ch.clock, t.overrideData.ttlMs⟩
          with
          active :=
            if t.targetPeerId = addr.peerId then
              ch.active.handleOverride ch.clock addr.trackId t.overrideData.toClient
            else ch.active } := by
  unfold deliverOverride maybeSendTrackQosOverride
  by_cases hsent : alreadySent ch.records addr.roomId ch.clock t
  · simp [hsent]
  · simp [hsent, OverrideChannel.note]

theorem clock_deliverOverride (addr : PublisherTrack) (ch : OverrideChannel)
    (t : TargetedOverride) : (deliverOverride addr ch t).clock = ch.clock := by
  rw [deliverOverride_eq]
  split <;> rfl

theorem view_deliverOverride_own (ho : o ∈ trackOverrides state addr.trackId) :
    (deliverOverride addr ch ⟨addr.peerId, o⟩).view addr =
      (ch.view addr).offer addr.trackId ch.clock o := by
  have hkey : overrideKey addr.roomId ⟨addr.peerId, o⟩ =
      ⟨addr.roomId, addr.peerId, addr.trackId, resolveOverrideSlot o⟩ := by
    simp [overrideKey, trackId_of_mem ho]
  have hrem : (ch.view addr).remembers ch.clock o =
      alreadySent ch.records addr.roomId ch.clock ⟨addr.peerId, o⟩ := by
    rw [alreadySent, hkey]
    rfl
  rw [deliverOverride_eq, offer, hrem, hkey]
  split
  · rfl
  unfold OverrideChannel.view OverrideChannel.note
  rw [if_pos rfl]
  congr 1
  funext slot
  rw [lookup_insert_eq, update_apply]
  simp

theorem view_deliverOverride_of_ne (ho : o ∈ trackOverrides state trackId)
    (hoth : (peerId, trackId) ≠ (addr.peerId, addr.trackId)) :
    (deliverOverride addr ch ⟨peerId, o⟩).view addr = ch.view addr := by
  have hkey : ∀ slot, (⟨addr.roomId, addr.peerId, addr.trackId, slot⟩ : TrackOverrideKey) ≠
      overrideKey addr.roomId ⟨peerId, o⟩ := by
    intro slot heq
    simp only [overrideKey, trackId_of_mem ho, TrackOverrideKey.mk.injEq] at heq
    exact hoth (by rw [heq.2.1, heq.2.2.1]; rfl)
  rw [deliverOverride_eq]
  split
  · rfl
  unfold OverrideChannel.view OverrideChannel.note
  congr 1
  · funext slot
    exact AList.lookup_insert_ne (hkey slot)
  dsimp only
  split
  next hpeer =>
    -- the controller of another track of the peer does not handle it
    refine if_pos ⟨?_, fun htr => hoth ?_⟩
    · obtain ⟨reason, -, rfl⟩ | ⟨_, reason, -, rfl⟩ | rfl | rfl := mem_trackOverrides_cases ho
      all_goals rfl
    · rw [QosOverride.toClient, trackId_of_mem ho] at htr
      rw [hpeer, some.inj (some.inj htr)]
  · rfl

theorem view_foldl_own {overrides : List QosOverride}
    (h : ∀ o ∈ overrides, o ∈ trackOverrides state addr.trackId) (ch : OverrideChannel) :
    ((overrides.map (TargetedOverride.mk addr.peerId)).foldl (deliverOverride addr) ch).view addr =
        overrides.foldl (TrackView.offer addr.trackId ch.clock) (ch.view addr) ∧
      ((overrides.map (TargetedOverride.mk addr.peerId)).foldl (deliverOverride addr) ch).clock =
        ch.clock := by
  induction overrides generalizing ch with
  | nil => exact ⟨rfl, rfl⟩
  | cons o overrides ih =>
    rw [forall_mem_cons] at h
    obtain ⟨hview, hclk⟩ := ih h.2 (deliverOverride addr ch ⟨addr.peerId, o⟩)
    rw [view_deliverOverride_own h.1, clock_deliverOverride] at hview
    rw [clock_deliverOverride] at hclk
    exact ⟨hview, hclk⟩

end View

namespace SupplyTarget

variable {T : SupplyTarget} {nowMs : ℤ}

abbrev supply (T : SupplyTarget) (nowMs : ℤ) (states : List ProducerDemandState)
    (ch : OverrideChannel) : OverrideChannel :=
  (buildOverrides states (fun id => some (T.resolver.resolve id)) nowMs).foldl
    (deliverOverride T.addr) ch

theorem view_supply_others {states : List ProducerDemandState}
    (h : ∀ state ∈ states, state.producerId ≠ T.producerId) (ch : OverrideChannel) :
    (T.supply nowMs states ch).view T.addr = ch.view T.addr ∧
      (T.supply nowMs states ch).clock = ch.clock := by
  refine List.foldlRecOn (motive := fun ch' : OverrideChannel =>
    ch'.view T.addr = ch.view T.addr ∧ ch'.clock = ch.clock) _ _ ⟨rfl, rfl⟩ fun ch' hch' t ht => ?_
  obtain ⟨state, hst, _, hresolve, ho⟩ := mem_buildOverrides.mp ht
  rw [clock_deliverOverride]
  refine ⟨(view_deliverOverride_of_ne ho fun hsame => h state hst ?_).trans hch'.1, hch'.2⟩
  exact T.resolver.injective ((some.inj hresolve).trans hsame)

theorem view_supply {states : List ProducerDemandState}
    (hnd : (states.map ProducerDemandState.producerId).Nodup) (ch : OverrideChannel) :
    (T.supply nowMs states ch).view T.addr =
      match (DemandMap.reindex states).lookup T.producerId with
      | some state => (trackOverrides state T.addr.trackId).foldl
          (TrackView.offer T.addr.trackId ch.clock) (ch.view T.addr)
      | none => ch.view T.addr := by
  cases hlook : (DemandMap.reindex states).lookup T.producerId with
  | none =>
    refine (view_supply_others (fun state hst hid => ?_) ch).1
    have hsome := (lookup_indexBy hnd).mpr ⟨hst, hid⟩
    rw [DemandMap.lookup, DemandMap.reindex, hsome] at hlook
    cases hlook
  | some state =>
    obtain ⟨hst, hid⟩ := (lookup_indexBy hnd).mp hlook
    obtain ⟨before, after, rfl⟩ := append_of_mem hst
    -- the other states are of other producers
    rw [map_append, map_cons, nodup_middle, nodup_cons, mem_append, not_or, hid] at hnd
    have hbef : ∀ other ∈ before, other.producerId ≠ T.producerId := fun other hmem heq =>
      hnd.1.1 (heq ▸ mem_map_of_mem hmem)
    have haft : ∀ other ∈ after, other.producerId ≠ T.producerId := fun other hmem heq =>
      hnd.1.2 (heq ▸ mem_map_of_mem hmem)
    have hspl : T.supply nowMs (before ++ state :: after) ch = T.supply nowMs after
        (((trackOverrides state T.addr.trackId).map (TargetedOverride.mk T.addr.peerId)).foldl
          (deliverOverride T.addr) (T.supply nowMs before ch)) := by
      simp only [supply, buildOverrides, flatMap_append, flatMap_cons, foldl_append, hid]
      rfl
    obtain ⟨hview, hclk⟩ := @view_supply_others T nowMs before hbef ch
    obtain ⟨hview', -⟩ := @view_foldl_own T.addr state _ (fun o ho => ho) (T.supply nowMs before ch)
    rw [hspl, (view_supply_others haft _).1, hview', hview, hclk]

theorem view_supplyPass (T : SupplyTarget) (s : SupplySystem) (pass : SupplyPass) :
    match (T.supplyPass s pass).demand.lookup T.producerId with
    | some state => (T.supplyPass s pass).channel.view T.addr =
        (trackOverrides state T.addr.trackId).foldl (TrackView.offer T.addr.trackId pass.nowMs)
          ((s.channel.view T.addr).cleanup pass.nowMs)
    | none => (T.supplyPass s pass).channel.view T.addr = s.channel.view T.addr ∨
        (T.supplyPass s pass).channel.view T.addr = (s.channel.view T.addr).cleanup pass.nowMs := by
  let cleaned : OverrideChannel :=
    { s.channel with
      records := cleanupExpiredTrackOverrideRecords s.channel.records pass.nowMs
      clock := pass.nowMs }
  have hcln : cleaned.view T.addr = (s.channel.view T.addr).cleanup pass.nowMs := by
    unfold OverrideChannel.view cleanup
    congr 1
    funext slot
    exact lookup_cleanup _ _ _
  obtain ⟨hplan, hsame, hnone⟩ | ⟨accs, stale, hplan, hdem⟩ :=
    runDownlinkPlanningForRoom_cases T.allocator pass.nowMs pass.room s.demand
  · have hlook : (T.supplyPass s pass).demand.lookup T.producerId = none := by
      rw [supplyPass, hsame, hnone]
    rw [hlook]
    refine .inl ?_
    rw [supplyPass, hplan]
  have hview := @view_supply T pass.nowMs _
    (nodup_mergeStale (@nodup_finalize pass.nowMs accs s.demand) stale s.demand) cleaned
  have hchan : (T.supplyPass s pass).channel = T.supply pass.nowMs (mergeStaleProducerDemands
      (finalize pass.nowMs accs s.demand) stale s.demand) cleaned := by
    rw [supplyPass, hplan]
  have hdem : (T.supplyPass s pass).demand = .reindex (mergeStaleProducerDemands
      (finalize pass.nowMs accs s.demand) stale s.demand) := hdem
  rw [hcln, ← hchan, ← hdem] at hview
  cases hlook : (T.supplyPass s pass).demand.lookup T.producerId with
  | none =>
    rw [hlook] at hview
    exact .inr hview
  | some state =>
    rw [hlook] at hview
    exact hview

end SupplyTarget

/-! ### Server and client stay in step -/

variable (trackId : String)

def IsKept (o : QosOverride) : Prop :=
  o = makeTrackClamp trackId 0 5000 holdReason ∨
    (∃ n, o = makeTrackClamp trackId n 5000 demandReason) ∨
    o = makeTrackPause trackId 5000 ∨ o = makeTrackResume trackId 5000

def StoreKept (v : TrackView) : Prop :=
  ∀ key entry, v.active.lookup key = some entry →
    ∃ o, IsKept trackId o ∧ o.reason = key ∧ entry.data = o.toClient

/-- What server and client hold about a track whose producer is in the given state.  The
clears that are the last in their slot have done what they were sent for. -/
structure Synced (supply : Option ProducerSupplyState) (v : TrackView) :
    Prop where
  kept : StoreKept trackId v
  demanded : ∀ n, v.Holds (makeTrackClamp trackId n 5000 demandReason) →
    ∀ entry, v.active.lookup demandReason = some entry →
      entry.data = (makeTrackClamp trackId n 5000 demandReason).toClient
  restored : v.Holds (makeTrackClear trackId "downlink_v2_demand_restored") →
    (∀ key, v.active.lookup key = none) ∧ supply ≠ some .paused ∧ supply ≠ some .resumeWarmup ∧
      supply ≠ some .zeroDemandHold
  paused : v.Holds (makeTrackClear trackId "downlink_v3_demand_resumed") →
    supply = some .paused ∧ ∀ key entry, v.active.lookup key = some entry →
      key = "downlink_v3_zero_demand_pause"
  resumed : v.Holds (makeTrackClear trackId "downlink_v3_zero_demand_pause") →
    supply ≠ some .paused ∧ (supply = some .resumeWarmup →
      ∀ key entry, v.active.lookup key = some entry → key = "downlink_v3_demand_resumed")

abbrev restoredClear : QosOverride := makeTrackClear trackId "downlink_v2_demand_restored"
abbrev resumedClear : QosOverride := makeTrackClear trackId "downlink_v3_demand_resumed"
abbrev pauseClear : QosOverride := makeTrackClear trackId "downlink_v3_zero_demand_pause"

abbrev ofDownlink (reason : String) : Bool :=
  startsWith reason "downlink_v2_" || startsWith reason "downlink_v3_"

section Sync

variable {trackId : String} {nowMs : ℤ} {v : TrackView} {supply : Option ProducerSupplyState}
  {o : QosOverride}

theorem reason_spec : ∀ reason ∈ [holdReason, demandReason, "downlink_v3_zero_demand_pause",
      "downlink_v3_demand_resumed"],
    ofDownlink reason ∧
      reason ≠ "" := by
  decide

theorem IsKept.reason (h : IsKept trackId o) : ofDownlink o.reason ∧
      o.reason ≠ "" := by
  rcases h with rfl | ⟨_, rfl⟩ | rfl | rfl
  all_goals exact reason_spec _ (by simp [makeTrackClamp, makeTrackPause, makeTrackResume])

theorem IsKept.fields (h : IsKept trackId o) :
    o.ttlMs ≠ 0 ∧ o.toClient.trackId = some (some trackId) := by
  rcases h with rfl | ⟨_, rfl⟩ | rfl | rfl
  all_goals exact ⟨nofun, rfl⟩

theorem lookup_handleOverride (h : IsKept trackId o) (active : ActiveOverrides) (key : String) :
    (active.handleOverride nowMs trackId o.toClient).lookup key =
      (if key = o.reason then some ⟨o.toClient, nowMs + o.ttlMs⟩ else active.lookup key).filter
        fun entry => decide (nowMs < entry.expiresAtMs) := by
  obtain ⟨httl, htr⟩ := h.fields
  rw [handleOverride, if_neg (by simp [htr])]
  change AList.lookup key (if o.ttlMs = 0 then _ else purge
    (active.set (if o.reason = "" then _ else o.reason) _) nowMs) = _
  rw [if_neg httl, if_neg h.reason.2, lookup_purge, lookup_set]
  rfl

theorem lookup_handleOverride_clear {reason : String} (hwhy : ofDownlink reason)
    (hkept : StoreKept trackId v) (key : String) :
    (v.active.handleOverride nowMs trackId (makeTrackClear trackId reason).toClient).lookup key =
      none := by
  have hexp : reason ≠ "server_ttl_expired" := by
    rintro rfl
    cases hwhy
  have hclr : ∀ key, clears (makeTrackClear trackId reason).toClient.reason key =
      ofDownlink key := by
    intro key
    change clears reason key = _
    rw [clears, if_neg hexp, if_pos hwhy]
  rw [handleOverride, if_neg (by simp [makeTrackClear, QosOverride.toClient]),
    if_pos (show (makeTrackClear trackId reason).toClient.ttlMs = 0 from rfl),
    lookup_purge, lookup_filter]
  cases hent : v.active.lookup key with
  | none => rfl
  | some entry =>
    obtain ⟨o, ho, rfl, -⟩ := hkept key entry hent
    rw [filter_some, hclr, ho.reason.1]
    rfl

theorem IsKept.eq_of_reason (h : IsKept trackId o) :
    (o.reason = holdReason → o = makeTrackClamp trackId 0 5000 holdReason) ∧
      (o.reason = demandReason → ∃ n, o = makeTrackClamp trackId n 5000 demandReason) ∧
      (o.reason = "downlink_v3_zero_demand_pause" → o = makeTrackPause trackId 5000) ∧
      (o.reason = "downlink_v3_demand_resumed" → o = makeTrackResume trackId 5000) := by
  have hdiff : holdReason ≠ demandReason ∧ holdReason ≠ "downlink_v3_zero_demand_pause" ∧
      holdReason ≠ "downlink_v3_demand_resumed" ∧ demandReason ≠ "downlink_v3_zero_demand_pause" ∧
      demandReason ≠ "downlink_v3_demand_resumed" := by decide
  rcases h with rfl | ⟨n, rfl⟩ | rfl | rfl
  · simp [makeTrackClamp, hdiff]
  · simp [makeTrackClamp, hdiff, hdiff.1.symm]
  · simp [makeTrackPause, hdiff.2.1.symm, hdiff.2.2.2.1.symm]
  · simp [makeTrackResume, hdiff.2.2.1.symm, hdiff.2.2.2.2.symm]

theorem not_holds_offer {o' : QosOverride} (hslot : resolveOverrideSlot o = resolveOverrideSlot o')
    (hraw : o.raw ≠ o'.raw) : ¬(v.offer trackId nowMs o).Holds o' := fun h =>
  hraw ((holds_offer trackId nowMs v o).raw_eq h hslot)

theorem offer_clear {reason : String} (hwhy : ofDownlink reason) (hv : Synced trackId supply v) :
    (v.Holds (makeTrackClear trackId reason) ∧
        v.offer trackId nowMs (makeTrackClear trackId reason) = v) ∨
      ∀ key, (v.offer trackId nowMs (makeTrackClear trackId reason)).active.lookup key = none := by
  obtain hsame | hsent := offer_cases trackId nowMs v (makeTrackClear trackId reason)
  · exact .inl hsame
  · rw [hsent]
    exact .inr (lookup_handleOverride_clear hwhy hv.kept)

theorem lookup_offer (h : IsKept trackId o) {key : String} {entry : ActiveOverride}
    (hent : (v.offer trackId nowMs o).active.lookup key = some entry) :
    key = o.reason ∧ entry.data = o.toClient ∨ v.active.lookup key = some entry := by
  obtain ⟨-, hsame⟩ | hsent := offer_cases trackId nowMs v o
  · rw [hsame] at hent
    exact .inr hent
  rw [hsent, lookup_handleOverride h, filter_eq_some_iff] at hent
  split at hent
  next hkey =>
    cases hent.1
    exact .inl ⟨hkey, rfl⟩
  · exact .inr hent.1

theorem lookup_offer_of_ne (h : IsKept trackId o) {key : String} (hkey : key ≠ o.reason)
    {entry : ActiveOverride} (hent : v.active.lookup key = some entry)
    (hlive : nowMs < entry.expiresAtMs) :
    (v.offer trackId nowMs o).active.lookup key = some entry := by
  obtain ⟨-, hsame⟩ | hsent := offer_cases trackId nowMs v o
  · rwa [hsame]
  · rw [hsent, lookup_handleOverride h, if_neg hkey, hent]
    simp [hlive]

theorem StoreKept.offer (hv : StoreKept trackId v) (h : IsKept trackId o) :
    StoreKept trackId (v.offer trackId nowMs o) := fun key entry hent => by
  rcases lookup_offer h hent with ⟨rfl, hdata⟩ | hold
  · exact ⟨o, h, rfl, hdata⟩
  · exact hv key entry hold

theorem storeKept_of_empty (h : ∀ key, v.active.lookup key = none) : StoreKept trackId v :=
  fun key entry hent => by
    rw [h key] at hent
    cases hent

theorem Synced.cleanup (hv : Synced trackId supply v) :
    Synced trackId supply (v.cleanup nowMs) where
  kept := hv.kept
  demanded n hn := hv.demanded n hn.of_cleanup
  restored h := hv.restored h.of_cleanup
  paused h := hv.paused h.of_cleanup
  resumed h := hv.resumed h.of_cleanup

section Slots

variable (trackId : String) (n : ℕ)

@[simp] theorem slot_restored : resolveOverrideSlot (restoredClear trackId) = .maxLevelClamp := by
  simp [resolveOverrideSlot, makeTrackClear]

@[simp] theorem slot_resumedClear :
    resolveOverrideSlot (resumedClear trackId) = .resumeUpstream := by
  simp [resolveOverrideSlot, makeTrackClear]

@[simp] theorem slot_pauseClear : resolveOverrideSlot (pauseClear trackId) = .pauseUpstream := by
  simp [resolveOverrideSlot, makeTrackClear]

@[simp] theorem slot_hold :
    resolveOverrideSlot (makeTrackClamp trackId n 5000 holdReason) = .maxLevelClamp := by
  simp [resolveOverrideSlot, makeTrackClamp, holdReason]

@[simp] theorem slot_demand :
    resolveOverrideSlot (makeTrackClamp trackId n 5000 demandReason) = .maxLevelClamp := by
  simp [resolveOverrideSlot, makeTrackClamp, demandReason]

@[simp] theorem slot_pause :
    resolveOverrideSlot (makeTrackPause trackId 5000) = .pauseUpstream := rfl

@[simp] theorem slot_resume :
    resolveOverrideSlot (makeTrackResume trackId 5000) = .resumeUpstream := rfl

end Slots

section Step

variable {state : ProducerDemandState} {prev : Option ProducerDemandState}

section

variable (hv : Synced trackId supply v) (hnot : supply ≠ some .paused)
include hv hnot

theorem Synced.not_holds_resumedClear (hslot : resolveOverrideSlot o = .maxLevelClamp) :
    ¬(v.offer trackId nowMs o).Holds (resumedClear trackId) := by
  rw [holds_offer_of_ne (by simp [hslot])]
  exact fun h => hnot (hv.paused h).1

theorem Synced.to_active : Synced trackId (some .active)
      (v.offer trackId nowMs (restoredClear trackId)) := by
  have hemp : ∀ key, (v.offer trackId nowMs (restoredClear trackId)).active.lookup key = none := by
    obtain ⟨hholds, hsame⟩ | hemp := @offer_clear _ nowMs _ _
      "downlink_v2_demand_restored" (by decide) hv
    · rw [hsame]
      exact (hv.restored hholds).1
    · exact hemp
  refine ⟨storeKept_of_empty hemp, fun n hn => ?_, fun _ => ⟨hemp, by decide⟩, fun h => ?_,
    fun _ => ⟨by decide, nofun⟩⟩
  · refine absurd hn (not_holds_offer (by simp) ?_)
    simp [makeTrackClear, makeTrackClamp, trackFields]
  · exact absurd h (hv.not_holds_resumedClear hnot (by simp))

theorem Synced.to_zeroDemandHold : Synced trackId (some .zeroDemandHold)
      (v.offer trackId nowMs (makeTrackClamp trackId 0 5000 holdReason)) := by
  refine ⟨StoreKept.offer hv.kept (.inl rfl), fun n hn => ?_, fun h => ?_, fun h => ?_,
    fun _ => ⟨by decide, nofun⟩⟩
  · refine absurd hn (not_holds_offer (by simp) ?_)
    simp [makeTrackClamp, trackFields, (by decide : holdReason ≠ demandReason)]
  · refine absurd h (not_holds_offer (by simp) ?_)
    simp [makeTrackClear, makeTrackClamp, trackFields]
  · exact absurd h (hv.not_holds_resumedClear hnot (by simp))

theorem Synced.to_lowClamped (n : ℕ) : Synced trackId (some .lowClamped)
      (v.offer trackId nowMs (makeTrackClamp trackId n 5000 demandReason)) := by
  refine ⟨StoreKept.offer hv.kept (.inr (.inl ⟨n, rfl⟩)), fun m hm entry hent => ?_,
    fun h => ?_, fun h => ?_, fun _ => ⟨by decide, nofun⟩⟩
  · -- the clamp that is held is the one that was offered
    obtain rfl : n = m := by
      have hraw := (holds_offer trackId nowMs v _).raw_eq hm (by simp)
      simpa [makeTrackClamp, trackFields] using hraw
    obtain ⟨hholds, hsame⟩ | hsent := offer_cases trackId nowMs v
      (makeTrackClamp trackId n 5000 demandReason)
    · rw [hsame] at hent
      exact hv.demanded n hholds entry hent
    rw [hsent, lookup_handleOverride (.inr (.inl ⟨n, rfl⟩)),
      if_pos (show demandReason = (makeTrackClamp trackId n 5000 demandReason).reason from rfl),
      filter_eq_some_iff] at hent
    cases hent.1
    rfl
  · refine absurd h (not_holds_offer (by simp) ?_)
    simp [makeTrackClear, makeTrackClamp, trackFields]
  · exact absurd h (hv.not_holds_resumedClear hnot (by simp))

end

theorem only_after_clear {reason : String} (hwhy : ofDownlink reason)
    (hv : Synced trackId supply v) (ho : IsKept trackId o)
    (hbef : v.Holds (makeTrackClear trackId reason) →
      ∀ key entry, v.active.lookup key = some entry → key = o.reason) : StoreKept trackId
        ((v.offer trackId nowMs (makeTrackClear trackId reason)).offer trackId nowMs o) ∧
      ∀ key entry, ((v.offer trackId nowMs (makeTrackClear trackId reason)).offer trackId nowMs
        o).active.lookup key = some entry → key = o.reason := by
  have hclear : StoreKept trackId (v.offer trackId nowMs (makeTrackClear trackId reason)) ∧
      ∀ key entry, (v.offer trackId nowMs (makeTrackClear trackId reason)).active.lookup key =
        some entry → key = o.reason := by
    obtain ⟨hholds, hsame⟩ | hemp := @offer_clear _ nowMs _ _ _ hwhy hv
    · rw [hsame]
      exact ⟨hv.kept, hbef hholds⟩
    refine ⟨storeKept_of_empty hemp, fun key entry hent => ?_⟩
    rw [hemp] at hent
    cases hent
  refine ⟨hclear.1.offer ho, fun key entry hent => ?_⟩
  rcases lookup_offer ho hent with ⟨hkey, -⟩ | hold
  · exact hkey
  · exact hclear.2 key entry hold

theorem Synced.to_paused (hv : Synced trackId supply v)
    (hwas : supply = some .paused ∨ supply = some .zeroDemandHold) : Synced trackId (some .paused)
      ((v.offer trackId nowMs (resumedClear trackId)).offer trackId nowMs
        (makeTrackPause trackId 5000)) := by
  obtain ⟨hkept, honly⟩ := @only_after_clear trackId nowMs v supply (makeTrackPause trackId 5000)
    "downlink_v3_demand_resumed" (by decide) hv (.inr (.inr (.inl rfl)))
    fun h => (hv.paused h).2
  refine ⟨hkept, fun n _ entry hent => ?_, fun h => ?_, fun _ => ⟨rfl, honly⟩, fun h => ?_⟩
  · exact absurd (honly _ entry hent) (by decide : demandReason ≠ "downlink_v3_zero_demand_pause")
  · rw [holds_offer_of_ne (by simp), holds_offer_of_ne (by simp)] at h
    obtain ⟨-, hpau, -, hheld⟩ := hv.restored h
    exact (hwas.elim hpau hheld).elim
  · refine absurd h (not_holds_offer (by simp) ?_)
    simp [makeTrackClear, makeTrackPause, trackFields]

theorem Synced.to_resumeWarmup (hv : Synced trackId supply v)
    (hwas : supply = some .paused ∨ supply = some .resumeWarmup) :
    Synced trackId (some .resumeWarmup)
      ((v.offer trackId nowMs (pauseClear trackId)).offer trackId nowMs
        (makeTrackResume trackId 5000)) := by
  obtain ⟨hkept, honly⟩ := @only_after_clear trackId nowMs v supply (makeTrackResume trackId 5000)
    "downlink_v3_zero_demand_pause" (by decide) hv (.inr (.inr (.inr rfl)))
    fun h => (hv.resumed h).2 (hwas.resolve_left (hv.resumed h).1)
  refine ⟨hkept, fun n _ entry hent => ?_, fun h => ?_, fun h => ?_,
    fun _ => ⟨by decide, fun _ => honly⟩⟩
  · exact absurd (honly _ entry hent) (by decide : demandReason ≠ "downlink_v3_demand_resumed")
  · rw [holds_offer_of_ne (by simp), holds_offer_of_ne (by simp)] at h
    obtain ⟨-, hpau, hwarm, -⟩ := hv.restored h
    exact (hwas.elim hpau hwarm).elim
  · refine absurd h (not_holds_offer (by simp) ?_)
    simp [makeTrackClear, makeTrackResume, trackFields]

theorem Synced.step (hv : Synced trackId (prev.map ProducerDemandState.supplyState) v)
    (hfol : SupplyFollows prev state)
    (hcl : state.supplyState = .lowClamped → shouldClamp state) :
    Synced trackId (some state.supplyState)
      ((trackOverrides state trackId).foldl (TrackView.offer trackId nowMs) v) := by
  have hnot : state.supplyState ≠ .paused → state.supplyState ≠ .resumeWarmup →
      prev.map supplyState ≠ some .paused := fun hpau hres h =>
    (hfol.of_paused h).elim hpau hres
  unfold trackOverrides
  cases hsup : state.supplyState with
  | active => exact hv.to_active (hnot (by simp [hsup]) (by simp [hsup]))
  | zeroDemandHold => exact hv.to_zeroDemandHold (hnot (by simp [hsup]) (by simp [hsup]))
  | lowClamped =>
    rw [if_pos (hcl hsup)]
    exact hv.to_lowClamped (hnot (by simp [hsup]) (by simp [hsup])) _
  | paused => exact hv.to_paused (hfol.paused hsup)
  | resumeWarmup => exact hv.to_resumeWarmup (hfol.resumeWarmup hsup)

end Step

end Sync

/-! ### What a pass leaves in force -/

section InForce

variable {trackId : String} {nowMs : ℤ} {v : TrackView} {supply : Option ProducerSupplyState}
  {state : ProducerDemandState}

def InForceOffered (trackId : String) (nowMs : ℤ) (state : ProducerDemandState) (v : TrackView) :
    Prop :=
  ∀ key entry, v.active.lookup key = some entry → nowMs < entry.expiresAtMs →
    ∃ o ∈ trackOverrides state trackId, entry.data = o.toClient

variable {o : QosOverride}

theorem key_of_inForceOffered (hv : StoreKept trackId v)
    (hoff : trackOverrides state trackId = [o]) (h : InForceOffered trackId nowMs state v)
    {key : String} {entry : ActiveOverride} (hent : v.active.lookup key = some entry)
    (hlive : nowMs < entry.expiresAtMs) : key = o.reason := by
  obtain ⟨_, ho', hdata⟩ := h key entry hent hlive
  obtain ⟨_, -, rfl, hdata'⟩ := hv key entry hent
  rw [hoff, mem_singleton] at ho'
  subst ho'
  exact congrArg ClientOverride.reason (hdata'.symm.trans hdata)

theorem inForceOffered_offer_iff (hv : StoreKept trackId v)
    (ho : IsKept trackId o) (hoff : trackOverrides state trackId = [o])
    (hown : ∀ entry, (v.offer trackId nowMs o).active.lookup o.reason = some entry →
      entry.data = o.toClient) : InForceOffered trackId nowMs state (v.offer trackId nowMs o) ↔
      ∀ key entry, v.active.lookup key = some entry → nowMs < entry.expiresAtMs →
        key = o.reason := by
  constructor
  · intro h key entry hent hlive
    by_contra hkey
    exact hkey (key_of_inForceOffered (hv.offer ho) hoff h
      (lookup_offer_of_ne ho hkey hent hlive) hlive)
  intro h key entry hent hlive
  have hkey : key = o.reason := by
    rcases lookup_offer ho hent with ⟨hkey, -⟩ | hold
    · exact hkey
    · exact h key entry hold hlive
  subst hkey
  exact ⟨o, by rw [hoff]; exact mem_singleton_self o, hown entry hent⟩

theorem inForceOffered_of_only (hv : StoreKept trackId v) (ho : o ∈ trackOverrides state trackId)
    (hdet : ∀ o', IsKept trackId o' → o'.reason = o.reason → o' = o)
    (honly : ∀ key entry, v.active.lookup key = some entry → key = o.reason) :
    InForceOffered trackId nowMs state v := by
  intro key entry hent _
  obtain ⟨o', ho', hwhy, hdata⟩ := hv key entry hent
  obtain rfl := hdet o' ho' (hwhy.trans (honly key entry hent))
  exact ⟨o', ho, hdata⟩

theorem inForceOffered_of_clears {prev : Option ProducerDemandState}
    (hv : Synced trackId (prev.map ProducerDemandState.supplyState) v)
    (hfol : SupplyFollows prev state) (hhold : state.supplyState ≠ .zeroDemandHold)
    (hlow : state.supplyState ≠ .lowClamped) : InForceOffered trackId nowMs state
      ((trackOverrides state trackId).foldl (TrackView.offer trackId nowMs) v) := by
  have hstep := @Synced.step trackId nowMs v state prev hv hfol fun h => absurd h hlow
  cases hsup : state.supplyState with
  | active =>
    have hoff : trackOverrides state trackId = [restoredClear trackId] := by
      rw [trackOverrides, hsup]
    rw [hoff] at hstep ⊢
    intro key entry hent
    rw [(hstep.restored (holds_offer _ _ _ _)).1 key] at hent
    cases hent
  | paused =>
    have hoff : trackOverrides state trackId =
        [resumedClear trackId, makeTrackPause trackId 5000] := by
      rw [trackOverrides, hsup]
    have hmem : makeTrackPause trackId 5000 ∈ trackOverrides state trackId := by simp [hoff]
    rw [hoff] at hstep ⊢
    refine inForceOffered_of_only hstep.kept hmem (fun o' ho' => ho'.eq_of_reason.2.2.1)
      (hstep.paused ?_).2
    exact (holds_offer_of_ne (o := makeTrackPause trackId 5000) (by simp)).mpr
      (holds_offer _ _ _ _)
  | resumeWarmup =>
    have hoff : trackOverrides state trackId =
        [pauseClear trackId, makeTrackResume trackId 5000] := by
      rw [trackOverrides, hsup]
    have hmem : makeTrackResume trackId 5000 ∈ trackOverrides state trackId := by simp [hoff]
    rw [hoff] at hstep ⊢
    refine inForceOffered_of_only hstep.kept hmem (fun o' ho' => ho'.eq_of_reason.2.2.2)
      ((hstep.resumed ?_).2 (congrArg some hsup))
    exact (holds_offer_of_ne (o := makeTrackResume trackId 5000) (by simp)).mpr
      (holds_offer _ _ _ _)
  | zeroDemandHold => exact absurd hsup hhold
  | lowClamped => exact absurd hsup hlow

theorem inForceOffered_iff {prev : Option ProducerDemandState}
    (hv : Synced trackId (prev.map ProducerDemandState.supplyState) v)
    (hfol : SupplyFollows prev state)
    (hcl : state.supplyState = .lowClamped → shouldClamp state) : InForceOffered trackId nowMs state
        ((trackOverrides state trackId).foldl (TrackView.offer trackId nowMs) v) ↔
      ∀ key entry, v.active.lookup key = some entry → nowMs < entry.expiresAtMs →
        (state.supplyState = .zeroDemandHold → key = holdReason) ∧
          (state.supplyState = .lowClamped → key = demandReason) := by
  have hstep := @Synced.step trackId nowMs v state prev hv hfol hcl
  by_cases hhold : state.supplyState = .zeroDemandHold
  · have hoff : trackOverrides state trackId = [makeTrackClamp trackId 0 5000 holdReason] := by
      rw [trackOverrides, hhold]
      rfl
    rw [hoff] at hstep ⊢
    refine (inForceOffered_offer_iff hv.kept (.inl rfl) hoff fun entry hent => ?_).trans ?_
    · obtain ⟨_, ho, hwhy, hdata⟩ := hstep.kept _ entry hent
      rw [hdata, ho.eq_of_reason.1 hwhy]
    · simp [makeTrackClamp, hhold]
  · by_cases hlow : state.supplyState = .lowClamped
    · have hoff : trackOverrides state trackId =
          [makeTrackClamp trackId state.maxSpatialLayer.toNat 5000 demandReason] := by
        rw [trackOverrides, hlow]
        exact if_pos (hcl hlow)
      rw [hoff] at hstep ⊢
      refine (inForceOffered_offer_iff hv.kept (.inr (.inl ⟨_, rfl⟩)) hoff
        (hstep.demanded _ (holds_offer _ _ _ _))).trans ?_
      simp [makeTrackClamp, hlow]
    · exact iff_of_true (inForceOffered_of_clears hv hfol hhold hlow) fun _ _ _ _ =>
        ⟨fun h => absurd h hhold, fun h => absurd h hlow⟩

end InForce

/-! ### Runs -/

namespace SupplyTarget

variable (T : SupplyTarget)

/-- Server and client of the track are in step with the demand on its producer, which is
clamped only while somebody sees it. -/
structure Inv (s : SupplySystem) : Prop where
  synced : Synced T.addr.trackId
    ((s.demand.lookup T.producerId).map ProducerDemandState.supplyState) (s.channel.view T.addr)
  clamped : ∀ state, s.demand.lookup T.producerId = some state →
    state.supplyState = .lowClamped → shouldClamp state = true

variable {T} {s : SupplySystem} {pass : SupplyPass}

theorem inv_init : T.Inv {} := by
  have hnone : ∀ o, ¬(OverrideChannel.view T.addr { clock := 0 }).Holds o := by
    rintro o ⟨_, hr, -⟩
    cases hr
  exact ⟨⟨storeKept_of_empty fun _ => rfl, fun _ h => absurd h (hnone _),
    fun h => absurd h (hnone _), fun h => absurd h (hnone _), fun h => absurd h (hnone _)⟩,
    nofun⟩

theorem Inv.shouldClamp (h : T.Inv s) {state : ProducerDemandState}
    (hst : (T.supplyPass s pass).demand.lookup T.producerId = some state)
    (hlow : state.supplyState = .lowClamped) : shouldClamp state := by
  rcases (supplyFollows_pass T.allocator pass.room s.demand hst).lowClamped hlow with hnew | hold
  · exact hnew
  · exact h.clamped state hold hlow

theorem Inv.supplyPass (h : T.Inv s) (pass : SupplyPass) : T.Inv (T.supplyPass s pass) := by
  refine ⟨?_, fun state hst => h.shouldClamp hst⟩
  have hview := view_supplyPass T s pass
  cases hlook : (T.supplyPass s pass).demand.lookup T.producerId with
  | some state =>
    rw [hlook] at hview
    rw [hview]
    exact h.synced.cleanup.step (supplyFollows_pass T.allocator pass.room s.demand hlook)
      (h.shouldClamp hlook)
  | none =>
    rw [hlook] at hview
    -- a producer that is dropped was not paused
    have hnot : (s.demand.lookup T.producerId).map supplyState ≠
        some .paused := fun hpau => by
      obtain ⟨_, hold, hsup⟩ := map_eq_some_iff.mp hpau
      exact lookup_pass_of_paused T.allocator pass.room s.demand hold hsup hlook
    have hdrop : ∀ {v}, Synced T.addr.trackId
        ((s.demand.lookup T.producerId).map supplyState) v →
          Synced T.addr.trackId none v := fun hv =>
      ⟨hv.kept, hv.demanded, fun hholds => ⟨(hv.restored hholds).1, by decide⟩,
        fun hholds => absurd (hv.paused hholds).1 hnot,
        fun _ => ⟨by decide, nofun⟩⟩
    rcases hview with hview | hview
    · rw [hview]
      exact hdrop h.synced
    · rw [hview]
      exact hdrop h.synced.cleanup

theorem Inv.onlyOffered_of_none (h : T.Inv s)
    (hlook : (T.supplyPass s pass).demand.lookup T.producerId = none) :
    T.OnlyOffered (T.supplyPass s pass) pass.nowMs ↔ T.NothingElse s pass := by
  have hview := view_supplyPass T s pass
  rw [hlook] at hview
  have hact : (T.supplyPass s pass).channel.active = s.channel.active := by
    rcases hview with hview | hview <;> exact congrArg active hview
  constructor
  · intro honly key entry hent hlive
    obtain ⟨o, ho, rfl, -⟩ := h.synced.kept key entry hent
    obtain ⟨o', ho', -⟩ := honly.kept _ entry (by rwa [hact]) hlive ho.reason.1
    rw [offered, hlook] at ho'
    cases ho'
  intro hnothing
  refine ⟨fun key entry hent hlive _ => ?_, fun state hst => ?_⟩
  · rw [hact] at hent
    obtain ⟨state, hst, -⟩ := hnothing key entry hent hlive
    rw [hlook] at hst
    cases hst
  · rw [hlook] at hst
    cases hst

theorem Inv.onlyOffered (h : T.Inv s) (pass : SupplyPass) :
    T.OnlyOffered (T.supplyPass s pass) pass.nowMs ↔ T.NothingElse s pass := by
  cases hlook : (T.supplyPass s pass).demand.lookup T.producerId with
  | none => exact h.onlyOffered_of_none hlook
  | some state =>
    have hview := view_supplyPass T s pass
    rw [hlook] at hview
    have hfol := supplyFollows_pass T.allocator pass.room s.demand hlook
    have hcl : state.supplyState = .lowClamped → MediasoupCpp.shouldClamp state :=
      h.shouldClamp hlook
    have hiff := @inForceOffered_iff T.addr.trackId pass.nowMs _ state _
      (@Synced.cleanup _ pass.nowMs _ _ h.synced) hfol hcl
    rw [← hview] at hiff
    have hkept := (h.supplyPass pass).synced.kept
    have hoff : T.offered (T.supplyPass s pass) = trackOverrides state T.addr.trackId := by
      rw [offered, hlook]
      rfl
    constructor
    · intro honly key entry hent hlive
      refine ⟨state, hlook, hiff.mp (fun key entry hent hlive => ?_) key entry hent hlive⟩
      obtain ⟨o, ho, rfl, -⟩ := hkept key entry hent
      rw [← hoff]
      exact honly.kept _ entry hent hlive ho.reason.1
    intro hnothing
    have hoffer := hiff.mpr fun key entry hent hlive => by
      obtain ⟨state', hst', hreasons⟩ := hnothing key entry hent hlive
      cases hlook.symm.trans hst'
      exact hreasons
    refine ⟨fun key entry hent hlive _ => ?_, fun state' hst' hlow clamp hfrc => ?_⟩
    · rw [hoff]
      exact hoffer key entry hent hlive
    cases hlook.symm.trans hst'
    -- the clamp in force is one that is offered
    obtain ⟨⟨entry, ⟨key, hent, hlive⟩, hclamp⟩, -⟩ :=
      clampInForce_eq_some_iff.mp hfrc
    obtain ⟨o, ho, hdata⟩ := hoffer key entry hent hlive
    rw [trackOverrides, hlow] at ho
    simp only [hcl hlow, if_true, mem_singleton] at ho
    rw [hdata, ho] at hclamp
    exact (some.inj hclamp).le

/-- **In a run the client keeps only what the passes offer exactly when the passes that hold,
clamp or drop the producer find nothing else in force.** -/
theorem onlyOffered_iff (T : SupplyTarget) (passes : List SupplyPass) :
    StepsMeet T.supplyPass (fun s pass => T.OnlyOffered (T.supplyPass s pass) pass.nowMs) {}
        passes ↔
      StepsMeet T.supplyPass T.NothingElse {} passes :=
  stepsMeet_congr T.Inv (fun _ pass h => h.supplyPass pass) (fun _ pass h => h.onlyOffered pass)
    passes {} inv_init

end SupplyTarget

def aliceWatches (visible : Bool) (availableIncomingBitrate : ℚ) (atMs : ℤ) : SupplyPass where
  nowMs := atMs
  room :=
    { peers := (∅ : Dict String (Dict String String)).insert "alice"
        ((∅ : Dict String String).insert "c1" "camera")
      registry := (∅ : DownlinkQosRegistry).insert "alice"
        ⟨{ seq := 10, subscriberPeerId := "alice"
           availableIncomingBitrate := availableIncomingBitrate
           subscriptions := [{ consumerId := "c1", producerId := "camera", visible := visible }] },
          atMs⟩ }

def bobsCamera : SupplyTarget where
  allocator := roughAllocator
  resolver := ⟨fun id => ("bob", id), fun _ _ h => (Prod.mk.inj h).2⟩
  roomId := "room"
  producerId := "camera"

/-- First nobody sees the camera and it is held, then Alice sees it and can receive its
middle layer: the camera is to be clamped to layer 1, but the hold is still in force. -/
theorem hold_lingers :
    let s := runFrom bobsCamera.supplyPass {} [aliceWatches false 400000 1000]
    let s' := bobsCamera.supplyPass s (aliceWatches true 400000 2000)
    (s.demand.lookup "camera").map (·.supplyState) = some .zeroDemandHold ∧
      (s'.demand.lookup "camera").map (fun state => (state.supplyState, state.maxSpatialLayer)) =
        some (.lowClamped, 1) ∧
      s'.channel.active.clampInForce 2000 = some 0 := by
  decide +kernel

end MediasoupCpp
