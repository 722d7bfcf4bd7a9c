import MediasoupCpp.Qos.BudgetAllocator

/-!
# Who is admitted

The lowest layers are given out in the order of utility, to every video whose cost still fits.
Where videos cost the same, one that does not fit leaves no room for any that has its turn later;
so whoever is worth less than a video that is paused is paused, too.

Main result: `allocate_upwardClosed`.

Source: `src/qos/SubscriberBudgetAllocator.cpp`.
-/

namespace MediasoupCpp

open List Option

section Turns

variable {A : SubscriberBudgetAllocator} {budgetBps : ℚ} {st : AllocState}

theorem estimate_base_pos (A : SubscriberBudgetAllocator) (sub : DownlinkSubscription) :
    0 < A.estimateLayerBitrateBps sub 0 0 := by
  have hbase := A.baseBps_pos sub
  have hmult := SubscriberBudgetAllocator.kSpatialMultiplier_pos
    (min (0 : UInt8).toNat kMaxSpatial)
  refine mul_pos (mul_pos hbase hmult) (div_pos ?_ ?_) <;>
    exact Nat.cast_pos.mpr (Nat.succ_pos _)

theorem estimate_base_congr {sub sub' : DownlinkSubscription} (h : A.baseBps sub = A.baseBps sub') :
    A.estimateLayerBitrateBps sub 0 0 = A.estimateLayerBitrateBps sub' 0 0 := by
  unfold SubscriberBudgetAllocator.estimateLayerBitrateBps
  rw [h]

theorem usedBps_le_assignBase (idx : ℕ) : st.usedBps ≤ (A.assignBase budgetBps st idx).usedBps := by
  obtain hsame | ⟨row, _, -, -, hset, hcost⟩ := assignBase_cases A budgetBps st idx
  · rw [hsame]
  rw [hset]
  refine le_add_of_nonneg_right ?_
  rcases hcost with ⟨-, rfl⟩ | ⟨-, rfl, -⟩
  · exact le_rfl
  · exact (estimate_base_pos A row.sub).le

theorem usedBps_le_foldl_assignBase (order : List ℕ) (st : AllocState) :
    st.usedBps ≤ (order.foldl (A.assignBase budgetBps) st).usedBps := by
  induction order generalizing st with
  | nil => exact le_rfl
  | cons idx order ih => exact (usedBps_le_assignBase idx).trans (ih _)

end Turns

/-! ### The order of the turns -/

theorem exists_order_of_lt (A : SubscriberBudgetAllocator) {st : AllocState} {low high : ℕ}
    {lowRow highRow : Row} (hlow : st.rows[low]? = some lowRow)
    (hhigh : st.rows[high]? = some highRow) (hlt : lowRow.utility < highRow.utility) :
    ∃ before middle rest, A.order st = (before ++ high :: middle) ++ low :: rest := by
  have hmem {i : ℕ} {row : Row} (hrow : st.rows[i]? = some row) : i ∈ A.order st :=
    (order_perm A st).mem_iff.mpr
      (mem_range.mpr (List.getElem?_eq_some_iff.mp hrow).1)
  have hsort := A.stdSort.sorted _ _ (strictWeakOn_utility st (List.range st.rows.length))
  obtain ⟨before, after, hspl⟩ := append_of_mem (hmem hhigh)
  have haft : low ∈ after := by
    have hlowMem := hmem hlow
    change (A.order st).Pairwise _ at hsort
    rw [hspl] at hlowMem hsort
    rcases mem_append.mp hlowMem with hbef | hcons
    · -- what comes before the other is worth at least as much
      have hle := (pairwise_append.mp hsort).2.2 low hbef high mem_cons_self
      rw [hlow, hhigh] at hle
      exact absurd hlt (of_decide_eq_false hle)
    · rcases mem_cons.mp hcons with rfl | haft
      · rw [hlow, some_inj] at hhigh
        exact absurd hlt (hhigh ▸ lt_irrefl _)
      · exact haft
  obtain ⟨middle, rest, rfl⟩ := append_of_mem haft
  exact ⟨before, middle, rest, by rw [hspl, append_assoc, cons_append]⟩

/-! ### The plan -/

namespace SubscriberBudgetAllocator

variable (A : SubscriberBudgetAllocator)

def EqualBase (snapshot : DownlinkSnapshot) : Prop :=
  ∀ sub ∈ snapshot.subscriptions, ∀ sub' ∈ snapshot.subscriptions,
    sub.kind = "video" → sub'.kind = "video" → A.baseBps sub = A.baseBps sub'

instance decidableEqualBase (snapshot : DownlinkSnapshot) : Decidable (A.EqualBase snapshot) :=
  inferInstanceAs (Decidable (∀ sub ∈ snapshot.subscriptions, ∀ sub' ∈ snapshot.subscriptions, _))

def UpwardClosed (subscriptions : List DownlinkSubscription)
    (blocks : List (List DownlinkAction)) : Prop :=
  ∀ low lowBlock high highBlock,
    (low, lowBlock) ∈ subscriptions.zip blocks → (high, highBlock) ∈ subscriptions.zip blocks →
    low.kind = "video" → high.kind = "video" → A.computeUtility low < A.computeUtility high →
    isResumed lowBlock = true → isResumed highBlock = true

end SubscriberBudgetAllocator

section Plan

variable (A : SubscriberBudgetAllocator) {snapshot : DownlinkSnapshot} {degradeLevel : ℤ}

theorem exists_row_of_mem_zip {sub : DownlinkSubscription} {block : List DownlinkAction}
    (h : (sub, block) ∈ snapshot.subscriptions.zip
      ((A.upgraded snapshot degradeLevel).rows.map Row.actions)) :
    ∃ (i : ℕ) (row : Row), (A.start snapshot).rows[i]? = some row ∧ row.sub = sub ∧
      row.utility = A.computeUtility sub ∧ row.active = false ∧
      ((A.baseAssigned snapshot degradeLevel).rows[i]?.map Row.active) =
        some (isResumed block) := by
  obtain ⟨i, hi⟩ := mem_iff_getElem?.mp h
  obtain ⟨hsub, hblk⟩ := List.getElem?_zip_eq_some.mp hi
  refine ⟨i, { sub := sub, utility := A.computeUtility sub }, ?_, rfl, rfl, rfl, ?_⟩
  · simp [SubscriberBudgetAllocator.start, hsub]
  have hact : (A.upgraded snapshot degradeLevel).rows[i]?.map Row.active =
      some (isResumed block) := by
    rw [List.getElem?_map, map_eq_some_iff] at hblk
    obtain ⟨row, hrow, rfl⟩ := hblk
    rw [hrow, isResumed_actions]
    rfl
  rw [← List.getElem?_map] at hact ⊢
  rw [← map_upgraded (fun _ _ _ => rfl) A snapshot degradeLevel, hact]

/-- **Admission is upward closed in utility.**  The plan has a block of actions for each
subscription.  If all videos have the same base bitrate, the plan that resumes a video resumes
every video that is worth more. -/
theorem allocate_upwardClosed (snapshot : DownlinkSnapshot) (degradeLevel : ℤ)
    (hbase : A.EqualBase snapshot) :
    ∃ blocks, (A.allocate snapshot degradeLevel).actions = blocks.flatten ∧
      List.Forall₂ BlockFor snapshot.subscriptions blocks ∧
      A.UpwardClosed snapshot.subscriptions blocks := by
  refine ⟨(A.upgraded snapshot degradeLevel).rows.map Row.actions, ?_, ?_, ?_⟩
  · rw [actions_allocate, flatMap_def]
  · rw [← map_sub_upgraded A snapshot degradeLevel, forall₂_map_left_iff,
      forall₂_map_right_iff, forall₂_same]
    exact fun row _ => blockFor_actions row
  intro low lowBlock high highBlock hlowMem hhighMem hlowKind hhighKind hlt hres
  have hcost := estimate_base_congr (hbase low (of_mem_zip hlowMem).1 high
    (of_mem_zip hhighMem).1 hlowKind hhighKind)
  obtain ⟨_, _, hlow, rfl, hlowU, hlowIdle, hlowActive⟩ :=
    exists_row_of_mem_zip A hlowMem
  obtain ⟨j, _, hhigh, rfl, hhighU, hhighIdle, hhighActive⟩ :=
    exists_row_of_mem_zip A hhighMem
  rw [← hlowU, ← hhighU] at hlt
  obtain ⟨before, middle, _, hord⟩ := exists_order_of_lt A hlow hhigh hlt
  have hnd : (A.order (A.start snapshot)).Nodup :=
    (order_perm A _).nodup_iff.mpr nodup_range
  unfold SubscriberBudgetAllocator.baseAssigned at hlowActive hhighActive
  rw [hord] at hnd hlowActive hhighActive
  rw [getElem?_foldl_assignBase hnd hlow hlowIdle, hres] at hlowActive
  obtain ⟨hpos, hlowFits⟩ := of_decide_eq_true (some_inj.mp hlowActive)
  have hfits := hlowFits hlowKind
  -- at its turn, which was earlier, no more was used than at the turn of the other
  have hused := @usedBps_le_foldl_assignBase A (computeBudgetBps snapshot degradeLevel)
    (j :: middle) (before.foldl (A.assignBase (computeBudgetBps snapshot degradeLevel))
      (A.start snapshot))
  rw [foldl_append] at hfits
  rw [append_assoc, cons_append] at hnd hhighActive
  rw [getElem?_foldl_assignBase hnd hhigh hhighIdle] at hhighActive
  rw [← some_inj.mp hhighActive]
  exact decide_eq_true ⟨hpos.trans hlt, fun _ => by linarith⟩

def twoVideos : DownlinkSnapshot where
  seq := 1
  subscriberPeerId := "bob"
  availableIncomingBitrate := 50000
  subscriptions :=
    [{ consumerId := "c1", producerId := "p1" },
      { consumerId := "c2", producerId := "p2", activeSpeaker := true }]

theorem allocate_upwardClosed_twoVideos :
    roughAllocator.EqualBase twoVideos ∧
      ((roughAllocator.allocate twoVideos 0).actions.filter fun a =>
        a.type == .pause || a.type == .resume) =
        [{ type := .pause, consumerId := "c1" }, { type := .resume, consumerId := "c2" }] ∧
      ∃ blocks, (roughAllocator.allocate twoVideos 0).actions = blocks.flatten ∧
        List.Forall₂ BlockFor twoVideos.subscriptions blocks ∧
        roughAllocator.UpwardClosed twoVideos.subscriptions blocks :=
  have hbase : roughAllocator.EqualBase twoVideos := by decide +kernel
  ⟨hbase, by decide +kernel, allocate_upwardClosed roughAllocator twoVideos 0 hbase⟩

end Plan

end MediasoupCpp
