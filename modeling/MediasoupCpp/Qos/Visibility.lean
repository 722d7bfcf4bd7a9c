import MediasoupCpp.Qos.RoomPlan

/-!
# Hidden videos

A video that is not visible should not be sent.  The rules of the older allocator pause whatever
is hidden.

Main result: `hiddenPaused_iff`.

Source: `src/qos/SubscriberBudgetAllocator.cpp`, `src/qos/DownlinkAllocator.cpp`,
`src/qos/ProducerDemandAggregator.cpp`, `src/qos/RoomDownlinkPlanner.cpp`.
-/

namespace MediasoupCpp

open List Option

/-! ### Who is given layers -/

def SubscriberBudgetAllocator.usedAt (A : SubscriberBudgetAllocator) (snapshot : DownlinkSnapshot)
    (degradeLevel : ℤ) (i : ℕ) : ℚ :=
  (((A.order (A.start snapshot)).takeWhile (· != i)).foldl
    (A.assignBase (computeBudgetBps snapshot degradeLevel)) (A.start snapshot)).usedBps

open SubscriberBudgetAllocator

def Granted (A : SubscriberBudgetAllocator) (snapshot : DownlinkSnapshot) (degradeLevel : ℤ)
    (i : ℕ) (sub : DownlinkSubscription) : Prop :=
  (sub.isScreenShare = true ∨ sub.pinned = true ∨ sub.activeSpeaker = true ∨ sub.visible = true) ∧
    (sub.kind = "video" → A.usedAt snapshot degradeLevel i + A.estimateLayerBitrateBps sub 0 0 ≤
      computeBudgetBps snapshot degradeLevel)

section Allocate

variable {A : SubscriberBudgetAllocator} {root : SquareRoot} {snapshot : DownlinkSnapshot}
  {degradeLevel : ℤ} {i : ℕ} {sub : DownlinkSubscription}

theorem active_baseAssigned (hutil : A.computeUtility = computeUtility root)
    (hsub : snapshot.subscriptions[i]? = some sub) :
    ((A.baseAssigned snapshot degradeLevel).rows[i]?.any Row.active) ↔
      Granted A snapshot degradeLevel i sub := by
  have hst : (A.start snapshot).rows[i]? =
      some { sub := sub, utility := A.computeUtility sub } := by
    simp [start, hsub]
  have hperm := order_perm A (A.start snapshot)
  have hmem : i ∈ A.order (A.start snapshot) :=
    hperm.mem_iff.mpr (mem_range.mpr (List.getElem?_eq_some_iff.mp hst).1)
  -- the turns before that of `i`, its turn, and those after it
  obtain ⟨before, after, hord, hbef⟩ := eq_append_cons_of_mem hmem
  have hnd := hperm.nodup_iff.mpr nodup_range
  rw [hord] at hnd
  have htake : (A.order (A.start snapshot)).takeWhile (· != i) = before := by
    rw [hord, takeWhile_append_of_pos fun j hj => ?_, takeWhile_cons_of_neg (by simp), append_nil]
    exact bne_iff_ne.mpr (ne_of_mem_of_not_mem hj hbef)
  rw [baseAssigned, hord, getElem?_foldl_assignBase hnd hst rfl,
    any_some, decide_eq_true_iff, Granted, usedAt, htake, hutil]
  exact and_congr_left fun _ => computeUtility_pos_iff root sub

theorem active_upgraded (hutil : A.computeUtility = computeUtility root) {row : Row}
    (hrow : (A.upgraded snapshot degradeLevel).rows[i]? = some row) :
    row.active ↔ Granted A snapshot degradeLevel i row.sub := by
  have hsub : snapshot.subscriptions[i]? = some row.sub := by
    rw [← map_sub_upgraded A snapshot degradeLevel, List.getElem?_map, hrow]
    rfl
  have hact := congrArg (fun l => l[i]?)
    (map_upgraded (f := Row.active) (fun _ _ _ => rfl) A snapshot degradeLevel)
  simp only [List.getElem?_map, hrow, map_some] at hact
  rw [← active_baseAssigned hutil hsub]
  cases hbase : (A.baseAssigned snapshot degradeLevel).rows[i]? with
  | none => simp [hbase] at hact
  | some base =>
    rw [hbase, map_some, some.injEq] at hact
    rw [hact, any_some]

/-! ### What the plan makes of a consumer -/

def Decides (subs : List DownlinkSubscription) (consumerId : String) (i : ℕ)
    (sub : DownlinkSubscription) : Prop :=
  subs[i]? = some sub ∧ sub.consumerId = consumerId ∧
    ∀ later ∈ subs.drop (i + 1), later.consumerId ≠ consumerId

theorem exists_decides {subs : List DownlinkSubscription} (hmem : sub ∈ subs) :
    ∃ i last, Decides subs sub.consumerId i last := by
  induction subs generalizing sub with
  | nil => cases hmem
  | cons first subs ih =>
    by_cases hlater : ∃ later ∈ subs, later.consumerId = sub.consumerId
    · obtain ⟨later, hmem, hid⟩ := hlater
      obtain ⟨i, last, hdec⟩ := ih hmem
      rw [hid] at hdec
      exact ⟨i + 1, last, hdec⟩
    · rcases mem_cons.mp hmem with rfl | hmem
      · exact ⟨0, sub, rfl, rfl, fun later hmem hid => hlater ⟨later, hmem, hid⟩⟩
      · exact absurd ⟨sub, hmem, rfl⟩ hlater

theorem pausedAfter_actions (row : Row) (wasPaused : Bool) :
    pausedAfter row.actions row.sub.consumerId wasPaused = !row.active := by
  unfold Row.actions
  cases row.active
  · simp [pausedAfter, DownlinkAction.pausedBy]
  by_cases hkind : row.sub.kind = "video" <;> simp [pausedAfter, DownlinkAction.pausedBy, hkind]

theorem pausedAfter_allocate (hutil : A.computeUtility = computeUtility root)
    {consumerId : String} (hdec : Decides snapshot.subscriptions consumerId i sub)
    (wasPaused : Bool) :
    pausedAfter (A.allocate snapshot degradeLevel).actions consumerId wasPaused ↔
      ¬Granted A snapshot degradeLevel i sub := by
  obtain ⟨hsub, rfl, hlast⟩ := hdec
  have hsubs := map_sub_upgraded A snapshot degradeLevel
  rw [actions_allocate]
  generalize hrows : (A.upgraded snapshot degradeLevel).rows = rows at hsubs
  rw [← hsubs, List.getElem?_map, map_eq_some_iff] at hsub
  obtain ⟨row, hrow, rfl⟩ := hsub
  -- the blocks after that of `i` are about other consumers
  have haft : ∀ a ∈ (rows.drop (i + 1)).flatMap Row.actions,
      a.consumerId ≠ row.sub.consumerId := by
    intro a ha
    obtain ⟨later, hlater, ha⟩ := mem_flatMap.mp ha
    rw [(blockFor_actions later).consumerId a ha]
    refine hlast later.sub ?_
    rw [← hsubs, ← map_drop]
    exact mem_map_of_mem hlater
  have hspl : rows = rows.take i ++ row :: rows.drop (i + 1) := by
    obtain ⟨_, rfl⟩ := List.getElem?_eq_some_iff.mp hrow
    simp
  rw [hspl, flatMap_append, flatMap_cons, pausedAfter_append, pausedAfter_append,
    pausedAfter_of_ne haft, pausedAfter_actions, Bool.not_eq_true', ← Bool.not_eq_true,
    active_upgraded hutil (hrows ▸ hrow)]

end Allocate

/-! ### What the demand counts -/

section Count

variable {producerId : String} (layerMap : Dict String AllocatedLayer)

def pausedIn (consumerId : String) : Bool :=
  ((layerMap.lookup consumerId).map AllocatedLayer.paused).getD true

theorem pausedIn_applyAction (a : DownlinkAction) (consumerId : String) :
    pausedIn (applyAction layerMap a) consumerId =
      a.pausedBy consumerId (pausedIn layerMap consumerId) := by
  unfold pausedIn applyAction DownlinkAction.pausedBy
  rw [Dict.lookup_insert_eq]
  by_cases hid : a.consumerId = consumerId
  · subst hid
    rw [if_pos rfl, if_pos rfl]
    cases hent : layerMap.lookup a.consumerId <;> cases a.type <;> rfl
  · rw [if_neg (Ne.symm hid), if_neg hid]

theorem pausedIn_foldl_applyAction (actions : List DownlinkAction)
    (layerMap : Dict String AllocatedLayer) (consumerId : String) :
    pausedIn (actions.foldl applyAction layerMap) consumerId =
      pausedAfter actions consumerId (pausedIn layerMap consumerId) := by
  induction actions generalizing layerMap with
  | nil => rfl
  | cons a actions ih => rw [foldl_cons, ih, pausedIn_applyAction]; rfl

def visibleIn (producerId : String) (accs : Accumulators) : ℕ :=
  ((accs.lookup producerId).map Accumulator.visibleSubscriberCount).getD 0

theorem visibleIn_addSubscription (accs : Accumulators) (sub : DownlinkSubscription) :
    visibleIn producerId (addSubscription layerMap accs sub) = visibleIn producerId accs +
      if sub.producerId = producerId ∧ sub.visible = true ∧
        pausedIn layerMap sub.consumerId = false then 1 else 0 := by
  unfold visibleIn addSubscription pausedIn
  rw [Dict.lookup_insert_eq]
  by_cases hid : sub.producerId = producerId
  · subst hid
    cases hlay : layerMap.lookup sub.consumerId with
    | none => cases hacc : accs.lookup sub.producerId <;> simp
    | some layer =>
      cases hpau : layer.paused <;> cases hacc : accs.lookup sub.producerId <;>
        simp [hpau, Accumulator.add]
  · rw [if_neg (Ne.symm hid), if_neg fun h => hid h.1, Nat.add_zero]

theorem visibleIn_le_addSubscriberPlan (accs : Accumulators) (sub : PlannedSubscriber) :
    visibleIn producerId accs ≤
      visibleIn producerId (addSubscriberPlan accs sub.snapshot sub.plan) :=
  Loop.le_foldl (fun accs sub => by rw [visibleIn_addSubscription]; exact Nat.le_add_right _ _) _ _

theorem visibleDemand_pos {pass : AggregationPass} {subscriber : PlannedSubscriber}
    (hsubs : subscriber ∈ pass.subscribers) {sub : DownlinkSubscription}
    (hsub : sub ∈ subscriber.snapshot.subscriptions) (hvis : sub.visible)
    (hres : pausedAfter subscriber.plan.actions sub.consumerId true = false) :
    0 < pass.visibleDemand sub.producerId := by
  have hplan : ∀ accs, 1 ≤ visibleIn sub.producerId
      (addSubscriberPlan accs subscriber.snapshot subscriber.plan) := fun accs => by
    refine Loop.le_foldl_of_mem (fun accs sub => ?_) (fun accs => ?_) hsub accs
    · rw [visibleIn_addSubscription]
      exact Nat.le_add_right _ _
    have hpau := pausedIn_foldl_applyAction subscriber.plan.actions ∅ sub.consumerId
    rw [visibleIn_addSubscription, if_pos ⟨rfl, hvis, hpau.trans hres⟩]
    exact Nat.le_add_left _ _
  exact Loop.le_foldl_of_mem visibleIn_le_addSubscriberPlan hplan hsubs ∅

end Count

/-! ### What is hidden is paused -/

structure HiddenPaused (A : SubscriberBudgetAllocator) (nowMs : ℤ) (inputs : List SubscriberInput) :
    Prop where
  /-- A hidden video is paused, whether it was paused before or not. -/
  paused : ∀ input ∈ inputs, ∀ sub ∈ input.snapshot.subscriptions, sub.kind = "video" →
    sub.visible = false → ∀ wasPaused,
      pausedAfter (input.planned A).plan.actions sub.consumerId wasPaused = true
  /-- A producer that nobody sees has no video consumer that is resumed. -/
  undemanded : ∀ producerId, (planningPass A nowMs inputs).visibleDemand producerId = 0 →
    ∀ input ∈ inputs, ∀ sub ∈ input.snapshot.subscriptions, sub.kind = "video" →
      sub.producerId = producerId → ∀ wasPaused,
        pausedAfter (input.planned A).plan.actions sub.consumerId wasPaused = true
  /-- Where each consumer has one subscription, the rules do the same to a hidden video. -/
  agrees : ∀ input ∈ inputs,
    (input.snapshot.subscriptions.map DownlinkSubscription.consumerId).Nodup →
      ∀ currentlyPaused i sub, input.snapshot.subscriptions[i]? = some sub →
        sub.kind = "video" → sub.visible = false →
          pausedAfter (input.planned A).plan.actions sub.consumerId
              (currentlyPaused.getD i false) =
            pausedAfter (DownlinkAllocator.compute input.snapshot.subscriptions currentlyPaused
              input.degradeLevel) sub.consumerId (currentlyPaused.getD i false)

/-- **The plans pause what is hidden exactly when no subscription that decides about the
consumer of a hidden video is granted.**  Where each consumer has one subscription this says
that the hidden videos that are pinned, screen shares or of the active speaker come too late
for the budget. -/
theorem hiddenPaused_iff (A : SubscriberBudgetAllocator) (root : SquareRoot)
    (hutility : A.computeUtility = computeUtility root) (nowMs : ℤ)
    (inputs : List SubscriberInput) :
    HiddenPaused A nowMs inputs ↔
      ∀ input ∈ inputs, ∀ sub ∈ input.snapshot.subscriptions, sub.kind = "video" →
        sub.visible = false → ∀ i last,
          Decides input.snapshot.subscriptions sub.consumerId i last →
            ¬Granted A input.snapshot input.degradeLevel i last := by
  constructor
  · intro h input hin sub hsub hkind hhid i last hdec
    exact (pausedAfter_allocate hutility hdec true).mp
      (h.paused input hin sub hsub hkind hhid true)
  intro h
  have hpau : ∀ input ∈ inputs, ∀ sub ∈ input.snapshot.subscriptions, sub.kind = "video" →
      sub.visible = false → ∀ wasPaused,
        pausedAfter (input.planned A).plan.actions sub.consumerId wasPaused := by
    intro input hin sub hsub hkind hhid wasPaused
    obtain ⟨i, last, hdec⟩ := exists_decides hsub
    exact (pausedAfter_allocate hutility hdec wasPaused).mpr
      (h input hin sub hsub hkind hhid i last hdec)
  refine ⟨hpau, ?_, ?_⟩
  · rintro _ hzero input hin sub hsub hkind rfl wasPaused
    cases hvis : sub.visible with
    | false => exact hpau input hin sub hsub hkind hvis wasPaused
    | true =>
      -- were it resumed, it would be counted
      obtain ⟨i, last, hdec⟩ := exists_decides hsub
      rw [SubscriberInput.planned, pausedAfter_allocate hutility hdec,
        ← pausedAfter_allocate hutility hdec true]
      by_contra hres
      have hcnt := @visibleDemand_pos (planningPass A nowMs inputs) _
        (mem_map_of_mem hin) sub hsub hvis (Bool.eq_false_of_not_eq_true hres)
      exact absurd hzero hcnt.ne'
  · intro input hin hnd currentlyPaused i sub hsub hkind hhid
    rw [hpau input hin sub (mem_of_getElem? hsub) hkind hhid,
      DownlinkAllocator.pausedAfter_compute_of_hidden hnd hsub hhid]

def hiddenCamera (pinned : Bool) : SubscriberInput where
  peerId := "alice"
  snapshot :=
    { seq := 1, subscriberPeerId := "alice",
      subscriptions :=
        [{ consumerId := "c1", producerId := "camera", kind := "video", visible := false,
           pinned := pinned }] }
  degradeLevel := 0

theorem hiddenPaused_camera : HiddenPaused roughAllocator 0 [hiddenCamera false] := by
  refine (hiddenPaused_iff roughAllocator ⟨fun x => x, fun hx => hx⟩ rfl 0 _).mpr ?_
  intro input hin sub hsub _ _ i last hdec hgrant
  obtain rfl := mem_singleton.mp hin
  obtain rfl := mem_singleton.mp (mem_of_getElem? hdec.1)
  exact absurd hgrant.1 (by decide)

/-- Alice has pinned the camera and does not see it: the plan resumes it, the demand counts
nobody who sees it, and the rules would pause it. -/
theorem resumed_hidden_pinned :
    (planningPass roughAllocator 0 [hiddenCamera true]).visibleDemand "camera" = 0 ∧
      pausedAfter ((hiddenCamera true).planned roughAllocator).plan.actions "c1" false = false ∧
      pausedAfter ((hiddenCamera true).planned roughAllocator).plan.actions "c1" true = false ∧
      pausedAfter (DownlinkAllocator.compute (hiddenCamera true).snapshot.subscriptions [false] 0)
        "c1" false = true := by
  decide +kernel

end MediasoupCpp
