import Mathlib.Algebra.BigOperators.Group.List.Basic
import Mathlib.Tactic.Linarith
import MediasoupCpp.Lib.Loop
import MediasoupCpp.Lib.StrictWeak
import MediasoupCpp.Qos.DownlinkAllocator

/-!
# Allocation within a budget

The newer allocator spends the bitrate a subscriber has.  In the order of their utility the
subscriptions get their lowest layers, as long as the budget allows it.

Main result: `allocate_spec`.

Source: `src/qos/SubscriberBudgetAllocator.h`, `src/qos/SubscriberBudgetAllocator.cpp`.
-/

namespace MediasoupCpp

open List

/-! ### Bitrates and budgets -/

/-- The parameters of an allocator: the bitrates of the lowest layers, which the environment
may override by positive ones, the utility of a subscription, and how indices are sorted. -/
structure SubscriberBudgetAllocator where
  cameraBaseBitrateBps : ℚ := 100000
  screenShareBaseBitrateBps : ℚ := 100000
  computeUtility : DownlinkSubscription → ℚ
  stdSort : StdSort ℕ := .insertion ℕ
  cameraBase_pos : 0 < cameraBaseBitrateBps := by norm_num
  screenShareBase_pos : 0 < screenShareBaseBitrateBps := by norm_num
  computeUtility_nonneg : ∀ sub, 0 ≤ computeUtility sub

/-- The square root of the source, with whatever precision: positive numbers have positive
ones. -/
structure SquareRoot where
  sqrt : ℚ → ℚ
  pos : ∀ {x}, 0 < x → 0 < sqrt x

variable (sub : DownlinkSubscription)

def baseUtility : ℚ :=
  if sub.isScreenShare then 10
  else if sub.pinned then 8
  else if sub.activeSpeaker then 6
  else if sub.visible then 3
  else 0

variable (root : SquareRoot)

def computeUtility (sub : DownlinkSubscription) : ℚ :=
  let area : ℚ := sub.targetWidth * sub.targetHeight
  let base :=
    if 0 < area then baseUtility sub * min (root.sqrt (area / (320 * 240))) 3
    else baseUtility sub
  if 1 / 10 < sub.freezeRate then base * (7 / 10) else base

theorem computeUtility_eq (sub : DownlinkSubscription) :
    ∃ factor : ℚ, 0 < factor ∧ computeUtility root sub = baseUtility sub * factor := by
  have hmodifier : ∃ modifier : ℚ, 0 < modifier ∧
      (if 0 < (sub.targetWidth * sub.targetHeight : ℚ) then baseUtility sub *
          min (root.sqrt (sub.targetWidth * sub.targetHeight / (320 * 240))) 3
        else baseUtility sub) = baseUtility sub * modifier := by
    split
    next harea =>
      exact ⟨_, lt_min (root.pos (div_pos harea (by norm_num))) (by norm_num), rfl⟩
    · exact ⟨1, one_pos, (mul_one _).symm⟩
  obtain ⟨modifier, hpos, hbase⟩ := hmodifier
  unfold computeUtility
  dsimp only
  rw [hbase]
  split
  · exact ⟨modifier * (7 / 10), mul_pos hpos (by norm_num), mul_assoc _ _ _⟩
  · exact ⟨modifier, hpos, rfl⟩

theorem baseUtility_nonneg : 0 ≤ baseUtility sub := by
  unfold baseUtility
  split_ifs <;> norm_num

theorem computeUtility_nonneg (sub : DownlinkSubscription) : 0 ≤ computeUtility root sub := by
  obtain ⟨_, hpos, heq⟩ := computeUtility_eq root sub
  rw [heq]
  exact mul_nonneg (baseUtility_nonneg sub) hpos.le

theorem computeUtility_pos_iff (sub : DownlinkSubscription) :
    0 < computeUtility root sub ↔ sub.isScreenShare ∨ sub.pinned ∨
      sub.activeSpeaker ∨ sub.visible := by
  obtain ⟨_, hpos, heq⟩ := computeUtility_eq root sub
  rw [heq, mul_pos_iff_of_pos_right hpos]
  unfold baseUtility
  split_ifs <;> simp_all

def SubscriberBudgetAllocator.standard : SubscriberBudgetAllocator where
  computeUtility := MediasoupCpp.computeUtility root
  computeUtility_nonneg := MediasoupCpp.computeUtility_nonneg root

def roughAllocator : SubscriberBudgetAllocator := .standard ⟨fun x => x, fun hx => hx⟩

def kAlpha : ℚ := 85 / 100
def kDefaultSafetyCap : ℚ := 5000000
def kMaxSpatial : ℕ := 2
def kMaxTemporal : ℕ := 2
def kUnknownBitrateWarmupSeqLimit : ℕ := 3
def kBootstrapBitrateGraceSeqLimit : ℕ := 6

def kSpatialMultiplier : ℕ → ℚ
  | 0 => 1
  | 1 => 3
  | _ => 9

def isVisibleVideoBootstrapState : Bool :=
  if !sub.visible || sub.kind != "video" then false
  else if sub.targetWidth == 0 && sub.targetHeight == 0 then false
  else decide (sub.framesPerSecond ≤ 0) && sub.frameWidth == 0 && sub.frameHeight == 0

variable (snapshot : DownlinkSnapshot)

def hasVisibleVideo : Bool :=
  snapshot.subscriptions.any fun sub => sub.visible && sub.kind == "video"

def visibleVideosAreStillBootstrapping : Bool :=
  hasVisibleVideo snapshot &&
    (snapshot.subscriptions.filter fun sub => sub.visible && sub.kind == "video").all
      isVisibleVideoBootstrapState

variable (degradeLevel : ℤ)

/-- What may be spent.  A bitrate of zero is not known yet, unless the first reports are
over and the subscriber is degraded. -/
def computeBudgetBps : ℚ :=
  if 0 < snapshot.availableIncomingBitrate then
    min kDefaultSafetyCap (snapshot.availableIncomingBitrate * kAlpha)
  else if snapshot.availableIncomingBitrate = 0 ∧ 0 < snapshot.seq then
    if snapshot.seq ≤ kUnknownBitrateWarmupSeqLimit ∧ hasVisibleVideo snapshot then
      kDefaultSafetyCap
    else if snapshot.seq ≤ kBootstrapBitrateGraceSeqLimit ∧
        visibleVideosAreStillBootstrapping snapshot then kDefaultSafetyCap
    else if 0 < degradeLevel then 0
    else kDefaultSafetyCap
  else kDefaultSafetyCap

theorem computeBudgetBps_nonneg : 0 ≤ computeBudgetBps snapshot degradeLevel := by
  have hcap : (0 : ℚ) ≤ kDefaultSafetyCap := by norm_num [kDefaultSafetyCap]
  unfold computeBudgetBps
  split
  next hav =>
    exact le_min hcap (mul_nonneg hav.le (by norm_num [kAlpha]))
  split
  · split
    · exact hcap
    split
    · exact hcap
    split
    · exact le_rfl
    · exact hcap
  · exact hcap

def layerCaps : ℕ × ℕ :=
  if 3 ≤ degradeLevel then (0, 0)
  else if degradeLevel = 2 then (1, 1)
  else if degradeLevel = 1 then (2, 1)
  else (kMaxSpatial, kMaxTemporal)

theorem layerCaps_le :
    (layerCaps degradeLevel).1 ≤ kMaxSpatial ∧ (layerCaps degradeLevel).2 ≤ kMaxTemporal := by
  unfold layerCaps
  split_ifs <;> decide

/-! ### Allocations -/

/-- A subscription and what it has been given.  (The source keeps the two in arrays of the
same length.) -/
structure Row where
  sub : DownlinkSubscription
  spatial : UInt8 := 0
  temporal : UInt8 := 0
  active : Bool := false
  utility : ℚ := 0

structure AllocState where
  rows : List Row
  usedBps : ℚ := 0

structure UpgradeStep where
  density : ℚ := 0
  idx : ℕ := 0
  spatialLayer : UInt8 := 0
  temporalLayer : UInt8 := 0
  deltaCost : ℚ := 0

namespace SubscriberBudgetAllocator

variable (A : SubscriberBudgetAllocator)

def baseBps (sub : DownlinkSubscription) : ℚ :=
  if sub.isScreenShare then A.screenShareBaseBitrateBps else A.cameraBaseBitrateBps

def estimateLayerBitrateBps (sub : DownlinkSubscription) (spatialLayer temporalLayer : UInt8) :
    ℚ :=
  A.baseBps sub * kSpatialMultiplier (min spatialLayer.toNat kMaxSpatial) *
    ((min temporalLayer.toNat kMaxTemporal + 1 : ℕ) / (kMaxTemporal + 1 : ℕ))

def start (snapshot : DownlinkSnapshot) : AllocState where
  rows := snapshot.subscriptions.map fun sub => { sub := sub, utility := A.computeUtility sub }

def order (st : AllocState) : List ℕ :=
  let utility (i : ℕ) : ℚ := (st.rows[i]?.map Row.utility).getD 0
  A.stdSort.sort (fun a b => decide (utility b < utility a)) (List.range st.rows.length)

variable (budgetBps : ℚ)

/-- Give a row its lowest layers, if it is worth anything and the budget allows it.  What
is not a video costs nothing. -/
def assignBase (st : AllocState) (idx : ℕ) : AllocState :=
  match st.rows[idx]? with
  | none => st
  | some row =>
    if row.utility ≤ 0 then st
    else if row.sub.kind ≠ "video" then
      { st with rows := st.rows.set idx { row with active := true } }
    else
      let cost := A.estimateLayerBitrateBps row.sub 0 0
      if st.usedBps + cost ≤ budgetBps then
        { rows := st.rows.set idx { row with active := true }, usedBps := st.usedBps + cost }
      else st

def tryUpgrade (budgetBps usedBps : ℚ) (idx : ℕ) (row : Row) (spatialLayer temporalLayer : UInt8)
    (best : UpgradeStep) : UpgradeStep :=
  let delta := A.estimateLayerBitrateBps row.sub spatialLayer temporalLayer -
    A.estimateLayerBitrateBps row.sub row.spatial row.temporal
  if 0 < delta ∧ usedBps + delta ≤ budgetBps then
    let density := row.utility / delta
    if best.density < density then ⟨density, idx, spatialLayer, temporalLayer, delta⟩ else best
  else best

variable (caps : ℕ × ℕ)

def tryRow (usedBps : ℚ) (best : UpgradeStep) (row : Row)
    (idx : ℕ) : UpgradeStep :=
  if !row.active then best
  else if row.sub.kind ≠ "video" then best
  else
    let best :=
      if row.spatial.toNat < caps.1 then
        A.tryUpgrade budgetBps usedBps idx row (row.spatial + 1) row.temporal best
      else best
    if row.temporal.toNat < caps.2 then
      A.tryUpgrade budgetBps usedBps idx row row.spatial (row.temporal + 1) best
    else best

def bestUpgrade (st : AllocState) : UpgradeStep :=
  st.rows.zipIdx.foldl
    (fun best (row, idx) => A.tryRow budgetBps caps st.usedBps best row idx) {}

def upgrade? (st : AllocState) : Option AllocState :=
  let best := A.bestUpgrade budgetBps caps st
  if 0 < best.density then
    some
      { rows := st.rows.modify best.idx fun row =>
          { row with spatial := best.spatialLayer, temporal := best.temporalLayer }
        usedBps := st.usedBps + best.deltaCost }
  else none

end SubscriberBudgetAllocator

open SubscriberBudgetAllocator

def Row.headroom (row : Row) : ℕ :=
  (kMaxSpatial - row.spatial.toNat) + (kMaxTemporal - row.temporal.toNat)

def AllocState.headroom (st : AllocState) : ℕ := (st.rows.map Row.headroom).sum

def Row.actions (row : Row) : List DownlinkAction :=
  let setPriority : DownlinkAction :=
    { type := .setPriority, consumerId := row.sub.consumerId, priority := computePriority row.sub }
  if !row.active then [{ type := .pause, consumerId := row.sub.consumerId }, setPriority]
  else
    [{ type := .resume, consumerId := row.sub.consumerId }] ++
      (if row.sub.kind = "video" then
        [{ type := .setLayers, consumerId := row.sub.consumerId, spatialLayer := row.spatial,
           temporalLayer := row.temporal }]
      else []) ++ [setPriority]

namespace SubscriberBudgetAllocator

variable (A : SubscriberBudgetAllocator)

def baseAssigned (snapshot : DownlinkSnapshot) (degradeLevel : ℤ) : AllocState :=
  (A.order (A.start snapshot)).foldl (A.assignBase (computeBudgetBps snapshot degradeLevel))
    (A.start snapshot)

def upgraded (snapshot : DownlinkSnapshot) (degradeLevel : ℤ) : AllocState :=
  Loop.run (A.upgrade? (computeBudgetBps snapshot degradeLevel) (layerCaps degradeLevel))
    AllocState.headroom (A.baseAssigned snapshot degradeLevel)

def allocate (snapshot : DownlinkSnapshot) (degradeLevel : ℤ) : SubscriberBudgetPlan :=
  if snapshot.subscriptions.isEmpty then { budgetBps := computeBudgetBps snapshot degradeLevel }
  else
    { budgetBps := computeBudgetBps snapshot degradeLevel
      actions := (A.upgraded snapshot degradeLevel).rows.flatMap Row.actions }

end SubscriberBudgetAllocator

/-! ### What layers cost -/

namespace SubscriberBudgetAllocator

variable (A : SubscriberBudgetAllocator)

theorem baseBps_pos (sub : DownlinkSubscription) : 0 < A.baseBps sub := by
  unfold baseBps
  split
  · exact A.screenShareBase_pos
  · exact A.cameraBase_pos

theorem toNat_add_one {layer : UInt8} (h : layer.toNat < 2) :
    (layer + 1).toNat = layer.toNat + 1 := by
  rw [UInt8.toNat_add]
  have : (1 : UInt8).toNat = 1 := rfl
  omega

theorem kSpatialMultiplier_pos (n : ℕ) : 0 < kSpatialMultiplier n := by
  unfold kSpatialMultiplier
  split <;> norm_num

theorem kSpatialMultiplier_lt : ∀ {n : ℕ}, n < kMaxSpatial →
    kSpatialMultiplier n < kSpatialMultiplier (n + 1)
  | 0, _ => by norm_num [kSpatialMultiplier]
  | 1, _ => by norm_num [kSpatialMultiplier]

theorem estimate_lt_spatial (sub : DownlinkSubscription) {spatial temporal : UInt8}
    (h : spatial.toNat < kMaxSpatial) : A.estimateLayerBitrateBps sub spatial temporal <
      A.estimateLayerBitrateBps sub (spatial + 1) temporal := by
  unfold estimateLayerBitrateBps
  rw [toNat_add_one h, min_eq_left h.le, min_eq_left (Nat.succ_le_of_lt h)]
  have htemp : (0 : ℚ) < (min temporal.toNat kMaxTemporal + 1 : ℕ) / (kMaxTemporal + 1 : ℕ) :=
    div_pos (Nat.cast_pos.mpr (Nat.succ_pos _)) (Nat.cast_pos.mpr (Nat.succ_pos _))
  exact mul_lt_mul_of_pos_right
    (mul_lt_mul_of_pos_left (kSpatialMultiplier_lt h) (A.baseBps_pos sub)) htemp

theorem estimate_lt_temporal (sub : DownlinkSubscription) {spatial temporal : UInt8}
    (h : temporal.toNat < kMaxTemporal) : A.estimateLayerBitrateBps sub spatial temporal <
      A.estimateLayerBitrateBps sub spatial (temporal + 1) := by
  unfold estimateLayerBitrateBps
  rw [toNat_add_one h, min_eq_left h.le, min_eq_left (Nat.succ_le_of_lt h)]
  have hspat := mul_pos (A.baseBps_pos sub)
    (kSpatialMultiplier_pos (min spatial.toNat kMaxSpatial))
  refine mul_lt_mul_of_pos_left ?_ hspat
  exact div_lt_div_of_pos_right (Nat.cast_lt.mpr (Nat.lt_succ_self _))
    (Nat.cast_pos.mpr (Nat.succ_pos _))

def bitrate (row : Row) : ℚ :=
  if row.active ∧ row.sub.kind = "video" then
    A.estimateLayerBitrateBps row.sub row.spatial row.temporal
  else 0

end SubscriberBudgetAllocator

theorem sum_map_set_add {α M : Type*} [AddCommMonoid M] {f : α → M} {a b : α} :
    ∀ {l : List α} {i : ℕ}, l[i]? = some a → ((l.set i b).map f).sum + f a = (l.map f).sum + f b
  | [], _, h => nomatch h
  | x :: l, 0, h => by
    obtain rfl : x = a := by simpa using h
    simp only [set_cons_zero, map_cons, sum_cons]
    rw [add_right_comm, add_comm (f b)]
    ac_rfl
  | x :: l, i + 1, h => by
    have ih := sum_map_set_add (f := f) (b := b) (l := l) (i := i) (by simpa using h)
    simp only [set_cons_succ, map_cons, sum_cons, add_assoc, ih]

/-! ### Both phases keep to the budget and the caps -/

structure AllocInv (A : SubscriberBudgetAllocator) (budgetBps : ℚ) (caps : ℕ × ℕ)
    (st : AllocState) : Prop where
  usedBps : st.usedBps = (st.rows.map A.bitrate).sum
  within : st.usedBps ≤ budgetBps
  caps : ∀ row ∈ st.rows, row.spatial.toNat ≤ caps.1 ∧ row.temporal.toNat ≤ caps.2
  worth : ∀ row ∈ st.rows, row.active = true → 0 < row.utility

section Phases

variable {A : SubscriberBudgetAllocator} {budgetBps : ℚ} {caps : ℕ × ℕ} {st : AllocState}

theorem AllocInv.mono {caps' : ℕ × ℕ} (h : AllocInv A budgetBps caps st) (hcaps : caps ≤ caps') :
    AllocInv A budgetBps caps' st :=
  { h with caps := fun row hrow =>
      ⟨(h.caps row hrow).1.trans hcaps.1, (h.caps row hrow).2.trans hcaps.2⟩ }

variable {spatial temporal : UInt8} {st' : AllocState} {idx : ℕ} {α : Type*} {row : Row}

theorem AllocInv.set (h : AllocInv A budgetBps caps st) {row' : Row} {cost : ℚ}
    (hrow : st.rows[idx]? = some row) (hcost : A.bitrate row' = A.bitrate row + cost)
    (hwith : st.usedBps + cost ≤ budgetBps)
    (hcaps : row'.spatial.toNat ≤ caps.1 ∧ row'.temporal.toNat ≤ caps.2)
    (hworth : row'.active → 0 < row'.utility) :
    AllocInv A budgetBps caps { rows := st.rows.set idx row', usedBps := st.usedBps + cost } where
  usedBps := by
    have hsum := sum_map_set_add (f := A.bitrate) (b := row') hrow
    rw [hcost] at hsum
    change st.usedBps + cost = _
    rw [h.usedBps]
    linarith
  within := hwith
  caps row'' hrow'' := by
    rcases mem_or_eq_of_mem_set hrow'' with hmem | rfl
    · exact h.caps row'' hmem
    · exact hcaps
  worth row'' hrow'' := by
    rcases mem_or_eq_of_mem_set hrow'' with hmem | rfl
    · exact h.worth row'' hmem
    · exact hworth

theorem uint8_eq_zero {layer : UInt8} (h : layer.toNat ≤ 0) : layer = 0 :=
  UInt8.toNat_inj.mp (Nat.le_zero.mp h)

theorem assignBase_cases (A : SubscriberBudgetAllocator) (budgetBps : ℚ) (st : AllocState)
    (idx : ℕ) : A.assignBase budgetBps st idx = st ∨
      ∃ row cost, st.rows[idx]? = some row ∧ 0 < row.utility ∧ A.assignBase budgetBps st idx =
          { rows := st.rows.set idx { row with active := true }, usedBps := st.usedBps + cost } ∧
        (row.sub.kind ≠ "video" ∧ cost = 0 ∨
          row.sub.kind = "video" ∧ cost = A.estimateLayerBitrateBps row.sub 0 0 ∧
            st.usedBps + cost ≤ budgetBps) := by
  unfold assignBase
  split
  · exact .inl rfl
  rename_i row hrow
  dsimp only
  split
  · exact .inl rfl
  rename_i hworth
  split
  next hkind =>
    exact .inr ⟨row, 0, hrow, not_le.mp hworth, by rw [add_zero], .inl ⟨hkind, rfl⟩⟩
  rename_i hkind
  split
  next hfits =>
    exact .inr ⟨row, _, hrow, not_le.mp hworth, rfl, .inr ⟨not_not.mp hkind, rfl, hfits⟩⟩
  · exact .inl rfl

theorem AllocInv.assignBase (h : AllocInv A budgetBps (0, 0) st)
    (hidle : ∀ row, st.rows[idx]? = some row → row.active = false) :
    AllocInv A budgetBps (0, 0) (A.assignBase budgetBps st idx) := by
  obtain hsame | ⟨row, _, hrow, hworth, hset, hcost⟩ := assignBase_cases A budgetBps st idx
  · rwa [hsame]
  have hbef : A.bitrate row = 0 := by
    rw [bitrate, if_neg (by simp [hidle row hrow])]
  obtain ⟨hspat, htemp⟩ := h.caps row (mem_of_getElem? hrow)
  rw [hset]
  rcases hcost with ⟨hkind, rfl⟩ | ⟨hkind, rfl, hfits⟩
  · refine h.set hrow ?_ (by rw [add_zero]; exact h.within) ⟨hspat, htemp⟩ fun _ => hworth
    rw [hbef, add_zero, bitrate, if_neg (by simp [hkind])]
  refine h.set hrow ?_ hfits ⟨hspat, htemp⟩ fun _ => hworth
  rw [hbef, zero_add, bitrate, if_pos ⟨rfl, hkind⟩, uint8_eq_zero hspat, uint8_eq_zero htemp]

variable {i : ℕ}

theorem getElem?_assignBase_of_ne (hi : i ≠ idx) :
    (A.assignBase budgetBps st idx).rows[i]? = st.rows[i]? := by
  obtain hsame | ⟨_, _, -, -, hset, -⟩ := assignBase_cases A budgetBps st idx
  · rw [hsame]
  · rw [hset]
    exact List.getElem?_set_ne hi.symm

theorem getElem?_foldl_assignBase_of_notMem {order : List ℕ} (hi : i ∉ order) (st : AllocState) :
    (order.foldl (A.assignBase budgetBps) st).rows[i]? = st.rows[i]? := by
  induction order generalizing st with
  | nil => rfl
  | cons idx order ih =>
    obtain ⟨hne, hrest⟩ := ne_and_not_mem_of_not_mem_cons hi
    rw [foldl_cons, ih hrest, getElem?_assignBase_of_ne hne]

theorem getElem?_assignBase_self (hrow : st.rows[i]? = some row) (hidle : row.active = false) :
    (A.assignBase budgetBps st i).rows[i]? = some
      { row with
        active := decide (0 < row.utility ∧ (row.sub.kind = "video" →
          st.usedBps + A.estimateLayerBitrateBps row.sub 0 0 ≤ budgetBps)) } := by
  have hkeep : st.rows[i]? = some { row with active := false } := by rw [hrow, ← hidle]
  have hlt : i < st.rows.length := (List.getElem?_eq_some_iff.mp hrow).1
  unfold assignBase
  rw [hrow]
  dsimp only
  by_cases hworth : row.utility ≤ 0
  · rw [if_pos hworth, decide_eq_false fun h => absurd h.1 hworth.not_gt, hkeep]
  rw [if_neg hworth]
  split
  next hkind =>
    rw [decide_eq_true ⟨not_le.mp hworth, fun h => absurd h hkind⟩]
    exact List.getElem?_set_self hlt
  rename_i hkind
  split_ifs with hfits
  · rw [decide_eq_true ⟨not_le.mp hworth, fun _ => hfits⟩]
    exact List.getElem?_set_self hlt
  · rw [decide_eq_false fun h => hfits (h.2 (not_not.mp hkind)), hkeep]

theorem getElem?_foldl_assignBase {before rest : List ℕ} (hnd : (before ++ i :: rest).Nodup)
    (hrow : st.rows[i]? = some row) (hidle : row.active = false) :
    ((before ++ i :: rest).foldl (A.assignBase budgetBps) st).rows[i]? = some
      { row with
        active := decide (0 < row.utility ∧ (row.sub.kind = "video" →
          (before.foldl (A.assignBase budgetBps) st).usedBps +
            A.estimateLayerBitrateBps row.sub 0 0 ≤ budgetBps)) } := by
  obtain ⟨hmem, -⟩ := nodup_middle.mp hnd |> nodup_cons.mp
  rw [mem_append, not_or] at hmem
  rw [foldl_append, foldl_cons, getElem?_foldl_assignBase_of_notMem hmem.2]
  refine getElem?_assignBase_self ?_ hidle
  rw [getElem?_foldl_assignBase_of_notMem hmem.1, hrow]

theorem AllocInv.foldl_assignBase {order : List ℕ} (hnd : order.Nodup)
    (h : AllocInv A budgetBps (0, 0) st)
    (hidle : ∀ i ∈ order, ∀ row, st.rows[i]? = some row → row.active = false) :
    AllocInv A budgetBps (0, 0) (order.foldl (A.assignBase budgetBps) st) := by
  induction order generalizing st with
  | nil => exact h
  | cons idx order ih =>
    obtain ⟨hidx, hnd⟩ := nodup_cons.mp hnd
    rw [forall_mem_cons] at hidle
    refine ih hnd (h.assignBase hidle.1) fun i hi row hrow => ?_
    -- each row has its turn once, so the other ones are as they were
    rw [getElem?_assignBase_of_ne (ne_of_mem_of_not_mem hi hidx)] at hrow
    exact hidle.2 i hi row hrow

theorem strictWeakOn_utility (st : AllocState) (l : List ℕ) :
    StrictWeakOn (fun a b : ℕ => decide ((st.rows[b]?.map Row.utility).getD 0 <
      (st.rows[a]?.map Row.utility).getD 0)) l :=
  strictWeakOn_of_key (fun i => -(st.rows[i]?.map Row.utility).getD 0) (fun a b => by simp) _

theorem order_perm (A : SubscriberBudgetAllocator) (st : AllocState) :
    (A.order st).Perm (List.range st.rows.length) :=
  A.stdSort.perm _ _ (strictWeakOn_utility st _)

theorem allocInv_baseAssigned (A : SubscriberBudgetAllocator) (snapshot : DownlinkSnapshot)
    (degradeLevel : ℤ) : AllocInv A (computeBudgetBps snapshot degradeLevel) (0, 0)
      (A.baseAssigned snapshot degradeLevel) := by
  have hidle : ∀ row ∈ (A.start snapshot).rows, row.active = false ∧ row.spatial.toNat = 0 ∧
      row.temporal.toNat = 0 := by
    intro row hrow
    obtain ⟨_, -, rfl⟩ := mem_map.mp hrow
    exact ⟨rfl, rfl, rfl⟩
  refine AllocInv.foldl_assignBase ((order_perm A _).nodup_iff.mpr nodup_range) ?_
    fun i _ row hrow => (hidle row (mem_of_getElem? hrow)).1
  refine ⟨?_, computeBudgetBps_nonneg _ _, ?_, ?_⟩
  · have hzero : ∀ row ∈ (A.start snapshot).rows, A.bitrate row = 0 := fun row hrow => by
      rw [bitrate, if_neg (by simp [(hidle row hrow).1])]
    rw [sum_eq_zero fun x hx => ?_]
    · rfl
    · obtain ⟨row, hrow, rfl⟩ := mem_map.mp hx
      exact hzero row hrow
  · exact fun row hrow => ⟨(hidle row hrow).2.1.le, (hidle row hrow).2.2.le⟩
  · intro row hrow hact
    rw [(hidle row hrow).1] at hact
    cases hact

/-! ### The upgrades -/

def Row.NextLayers (row : Row) (caps : ℕ × ℕ) (spatial temporal : UInt8) : Prop :=
  row.spatial.toNat < caps.1 ∧ spatial = row.spatial + 1 ∧ temporal = row.temporal ∨
    row.temporal.toNat < caps.2 ∧ spatial = row.spatial ∧ temporal = row.temporal + 1

def IsUpgrade (A : SubscriberBudgetAllocator) (budgetBps : ℚ) (caps : ℕ × ℕ) (st : AllocState)
    (step : UpgradeStep) : Prop :=
  ∃ row, st.rows[step.idx]? = some row ∧ row.active = true ∧ row.sub.kind = "video" ∧
    row.NextLayers caps step.spatialLayer step.temporalLayer ∧
    step.deltaCost = A.estimateLayerBitrateBps row.sub step.spatialLayer step.temporalLayer -
      A.estimateLayerBitrateBps row.sub row.spatial row.temporal ∧
    st.usedBps + step.deltaCost ≤ budgetBps

/-- What other layers of a row cost more. -/
abbrev SubscriberBudgetAllocator.upgradeBps (A : SubscriberBudgetAllocator) (row : Row)
    (spatial temporal : UInt8) : ℚ :=
  A.estimateLayerBitrateBps row.sub spatial temporal -
    A.estimateLayerBitrateBps row.sub row.spatial row.temporal

theorem tryUpgrade_cases (A : SubscriberBudgetAllocator) (budgetBps usedBps : ℚ) (idx : ℕ)
    (row : Row) (spatial temporal : UInt8) (best : UpgradeStep) :
    let delta := A.upgradeBps row spatial temporal
    (A.tryUpgrade budgetBps usedBps idx row spatial temporal best = best ∨
        usedBps + delta ≤ budgetBps ∧ A.tryUpgrade budgetBps usedBps idx row spatial temporal best =
          ⟨row.utility / delta, idx, spatial, temporal, delta⟩) ∧
      best.density ≤ (A.tryUpgrade budgetBps usedBps idx row spatial temporal best).density ∧
      (0 < delta → usedBps + delta ≤ budgetBps → row.utility / delta ≤
        (A.tryUpgrade budgetBps usedBps idx row spatial temporal best).density) := by
  intro delta
  unfold tryUpgrade
  dsimp only
  split
  next hfits =>
    split_ifs with hbet
    · exact ⟨.inr ⟨hfits.2, rfl⟩, hbet.le, fun _ _ => le_rfl⟩
    · exact ⟨.inl rfl, le_rfl, fun _ _ => not_lt.mp hbet⟩
  next hno =>
    exact ⟨.inl rfl, le_rfl, fun hpos hfits => absurd ⟨hpos, hfits⟩ hno⟩

theorem density_le_tryRow (best : UpgradeStep) (row : Row) (idx : ℕ) :
    best.density ≤ (A.tryRow budgetBps caps st.usedBps best row idx).density := by
  unfold tryRow
  split
  · exact le_rfl
  split
  · exact le_rfl
  dsimp only
  have hspat : best.density ≤ (if row.spatial.toNat < caps.1 then
      A.tryUpgrade budgetBps st.usedBps idx row (row.spatial + 1) row.temporal best
      else best).density := by
    split
    · exact (tryUpgrade_cases A _ _ _ _ _ _ _).2.1
    · exact le_rfl
  split
  · exact hspat.trans (tryUpgrade_cases A _ _ _ _ _ _ _).2.1
  · exact hspat

abbrev SoundStep (A : SubscriberBudgetAllocator) (budgetBps : ℚ) (caps : ℕ × ℕ) (st : AllocState)
    (step : UpgradeStep) : Prop :=
  0 < step.density → IsUpgrade A budgetBps caps st step

theorem SoundStep.tryRow {best : UpgradeStep} (hrow : st.rows[idx]? = some row)
    (hbest : SoundStep A budgetBps caps st best) :
    SoundStep A budgetBps caps st (A.tryRow budgetBps caps st.usedBps best row idx) := by
  unfold SubscriberBudgetAllocator.tryRow
  split
  · exact hbest
  rename_i hact
  have hact : row.active := by simpa using hact
  split
  · exact hbest
  rename_i hkind
  have htry : ∀ {spatial temporal best}, row.NextLayers caps spatial temporal →
      SoundStep A budgetBps caps st best → SoundStep A budgetBps caps st
        (A.tryUpgrade budgetBps st.usedBps idx row spatial temporal best) := by
    intro spatial temporal best hnext hbest
    obtain ⟨hsame | ⟨hfits, hnew⟩, -⟩ :=
      tryUpgrade_cases A budgetBps st.usedBps idx row spatial temporal best
    · rwa [hsame]
    · rw [hnew]
      exact fun _ => ⟨row, hrow, hact, not_not.mp hkind, hnext, rfl, hfits⟩
  dsimp only
  -- first the spatial upgrade is compared, then the temporal one
  have hspat : SoundStep A budgetBps caps st (if row.spatial.toNat < caps.1 then
      A.tryUpgrade budgetBps st.usedBps idx row (row.spatial + 1) row.temporal best
      else best) := by
    split
    next hcap =>
      exact htry (.inl ⟨hcap, rfl, rfl⟩) hbest
    · exact hbest
  split
  next hcap =>
    exact htry (.inr ⟨hcap, rfl, rfl⟩) hspat
  · exact hspat

theorem le_density_tryRow (hact : row.active) (hkind : row.sub.kind = "video")
    (hnext : row.NextLayers caps spatial temporal)
    (hpos : 0 < A.upgradeBps row spatial temporal)
    (hfits : st.usedBps + A.upgradeBps row spatial temporal ≤ budgetBps)
    (best : UpgradeStep) (idx : ℕ) : row.utility / A.upgradeBps row spatial temporal ≤
      (A.tryRow budgetBps caps st.usedBps best row idx).density := by
  unfold tryRow
  rw [if_neg (by simp [hact]), if_neg (by simp [hkind])]
  dsimp only
  rcases hnext with ⟨hcap, rfl, rfl⟩ | ⟨hcap, rfl, rfl⟩
  · have hbd := (tryUpgrade_cases A budgetBps st.usedBps idx row (row.spatial + 1) row.temporal
      best).2.2 hpos hfits
    split
    · exact hbd.trans (tryUpgrade_cases A _ _ _ _ _ _ _).2.1
    · exact hbd
  · rw [if_pos hcap]
    exact (tryUpgrade_cases A budgetBps st.usedBps idx row row.spatial (row.temporal + 1) _).2.2
      hpos hfits

theorem isUpgrade_bestUpgrade :
    SoundStep A budgetBps caps st (A.bestUpgrade budgetBps caps st) := by
  refine List.foldlRecOn (motive := SoundStep A budgetBps caps st) _ _
    (fun hzero => absurd hzero (lt_irrefl 0)) fun best hbest p hp => ?_
  exact hbest.tryRow (mem_zipIdx_iff_getElem?.mp hp)

theorem Row.NextLayers.cost_pos
    (hnext : row.NextLayers caps spatial temporal) (hcaps : caps ≤ (kMaxSpatial, kMaxTemporal)) :
    0 < A.upgradeBps row spatial temporal := by
  rw [sub_pos]
  rcases hnext with ⟨hcap, rfl, rfl⟩ | ⟨hcap, rfl, rfl⟩
  · exact A.estimate_lt_spatial row.sub (hcap.trans_le hcaps.1)
  · exact A.estimate_lt_temporal row.sub (hcap.trans_le hcaps.2)

theorem lt_of_upgrade?_eq_none (h : AllocInv A budgetBps caps st)
    (hcaps : caps ≤ (kMaxSpatial, kMaxTemporal)) (hnone : A.upgrade? budgetBps caps st = none)
    (hrow : row ∈ st.rows) (hact : row.active) (hkind : row.sub.kind = "video")
    (hnext : row.NextLayers caps spatial temporal) :
    budgetBps < st.usedBps + A.upgradeBps row spatial temporal := by
  by_contra hfits
  have hpos := hnext.cost_pos (A := A) hcaps
  obtain ⟨idx, hidx⟩ := mem_iff_getElem?.mp hrow
  -- the upgrade was met, and is worth something
  have hbest := Loop.le_foldl_of_mem (m := UpgradeStep.density)
    (f := fun best (p : Row × ℕ) => A.tryRow budgetBps caps st.usedBps best p.1 p.2)
    (fun best p => density_le_tryRow best p.1 p.2) (a := (row, idx))
    (fun best => le_density_tryRow hact hkind hnext hpos (not_lt.mp hfits) best idx)
    (mem_zipIdx_iff_getElem?.mpr hidx) {}
  have hdens : 0 < (A.bestUpgrade budgetBps caps st).density :=
    (div_pos (h.worth row hrow hact) hpos).trans_le hbest
  simp [upgrade?, hdens] at hnone

theorem upgrade?_cases (hstep : A.upgrade? budgetBps caps st = some st') :
    ∃ idx row spatial temporal, st.rows[idx]? = some row ∧ row.active ∧
      row.sub.kind = "video" ∧ row.NextLayers caps spatial temporal ∧ st' =
        { rows := st.rows.set idx { row with spatial := spatial, temporal := temporal }
          usedBps := st.usedBps + A.upgradeBps row spatial temporal } ∧
      st'.usedBps ≤ budgetBps := by
  unfold upgrade? at hstep
  dsimp only at hstep
  split at hstep
  next hdens =>
    obtain ⟨row, hrow, hact, hkind, hnext, hcost, hfits⟩ := isUpgrade_bestUpgrade hdens
    cases hstep
    refine ⟨_, row, _, _, hrow, hact, hkind, hnext, ?_, hfits⟩
    rw [upgradeBps, ← hcost, modify_eq_set_getElem?, hrow]
    rfl
  · cases hstep

theorem AllocInv.upgrade? (h : AllocInv A budgetBps caps st)
    (hcaps : caps ≤ (kMaxSpatial, kMaxTemporal))
    (hstep : A.upgrade? budgetBps caps st = some st') : AllocInv A budgetBps caps st' := by
  obtain ⟨_, row, _, _, hrow, hact, hkind, hnext, rfl, hfits⟩ :=
    upgrade?_cases hstep
  have hmem := mem_of_getElem? hrow
  refine h.set hrow ?_ hfits ?_ fun _ => h.worth row hmem hact
  · rw [bitrate, bitrate, if_pos ⟨hact, hkind⟩, if_pos ⟨hact, hkind⟩]
    exact (add_sub_cancel _ _).symm
  obtain ⟨hspat, htemp⟩ := h.caps row hmem
  rcases hnext with ⟨hcap, rfl, rfl⟩ | ⟨hcap, rfl, rfl⟩
  · refine ⟨?_, htemp⟩
    rw [toNat_add_one (hcap.trans_le hcaps.1)]
    exact hcap
  · refine ⟨hspat, ?_⟩
    rw [toNat_add_one (hcap.trans_le hcaps.2)]
    exact hcap

theorem headroom_lt_of_upgrade? (hcaps : caps ≤ (kMaxSpatial, kMaxTemporal))
    (hstep : A.upgrade? budgetBps caps st = some st') : st'.headroom < st.headroom := by
  obtain ⟨_, row, spatial, temporal, hrow, -, -, hnext, rfl, -⟩ := upgrade?_cases hstep
  have hsum := sum_map_set_add (f := Row.headroom)
    (b := { row with spatial := spatial, temporal := temporal }) hrow
  have hlt : Row.headroom { row with spatial := spatial, temporal := temporal } < row.headroom := by
    simp only [Row.headroom]
    rcases hnext with ⟨hcap, rfl, rfl⟩ | ⟨hcap, rfl, rfl⟩
    · have hlow := hcap.trans_le hcaps.1
      rw [toNat_add_one hlow]
      simp only at hlow
      omega
    · have hlow := hcap.trans_le hcaps.2
      rw [toNat_add_one hlow]
      omega
  simp only [AllocState.headroom]
  omega

theorem map_set_of_eq {β : Type*} {f : α → β} {l : List α} {a b : α} (ha : l[i]? = some a)
    (hf : f b = f a) : (l.set i b).map f = l.map f := by
  refine ext_getElem? fun j => ?_
  rw [List.getElem?_map, List.getElem?_map, List.getElem?_set]
  split
  next hj =>
    subst hj
    rw [ha]
    split
    · simp [hf]
    next hlt =>
      exact absurd (List.getElem?_eq_some_iff.mp ha).1 hlt
  · rfl

theorem map_sub_foldl_assignBase (order : List ℕ) (st : AllocState) :
    (order.foldl (A.assignBase budgetBps) st).rows.map Row.sub = st.rows.map Row.sub := by
  induction order generalizing st with
  | nil => rfl
  | cons idx order ih =>
    rw [foldl_cons, ih]
    obtain hsame | ⟨_, _, hrow, -, hset, -⟩ := assignBase_cases A budgetBps st idx
    · rw [hsame]
    · rw [hset]
      exact map_set_of_eq hrow rfl

theorem map_upgrade? {f : Row → α}
    (hf : ∀ row spatial temporal, f { row with spatial := spatial, temporal := temporal } = f row)
    {st' : AllocState} (hstep : A.upgrade? budgetBps caps st = some st') :
    st'.rows.map f = st.rows.map f := by
  obtain ⟨_, row, spatial, temporal, hrow, -, -, -, rfl, -⟩ := upgrade?_cases hstep
  exact map_set_of_eq hrow (hf row spatial temporal)

theorem layerCaps_le_max (degradeLevel : ℤ) :
    layerCaps degradeLevel ≤ (kMaxSpatial, kMaxTemporal) :=
  ⟨(layerCaps_le degradeLevel).1, (layerCaps_le degradeLevel).2⟩

variable (A) (snapshot : DownlinkSnapshot) (degradeLevel : ℤ)

theorem endsIn_upgraded :
    Loop.EndsIn (A.upgrade? (computeBudgetBps snapshot degradeLevel) (layerCaps degradeLevel))
      (A.baseAssigned snapshot degradeLevel) (A.upgraded snapshot degradeLevel) :=
  Loop.endsIn_run (fun _ _ hstep => headroom_lt_of_upgrade? (layerCaps_le_max degradeLevel) hstep) _

theorem allocInv_upgraded :
    AllocInv A (computeBudgetBps snapshot degradeLevel) (layerCaps degradeLevel)
      (A.upgraded snapshot degradeLevel) :=
  (endsIn_upgraded A snapshot degradeLevel).inv _
    (fun _ _ h hstep => h.upgrade? (layerCaps_le_max degradeLevel) hstep)
    ((allocInv_baseAssigned A snapshot degradeLevel).mono ⟨Nat.zero_le _, Nat.zero_le _⟩)

theorem map_upgraded {f : Row → α}
    (hf : ∀ row spatial temporal, f { row with spatial := spatial, temporal := temporal } = f row)
    (A : SubscriberBudgetAllocator) (snapshot : DownlinkSnapshot) (degradeLevel : ℤ) :
    (A.upgraded snapshot degradeLevel).rows.map f =
      (A.baseAssigned snapshot degradeLevel).rows.map f :=
  (endsIn_upgraded A snapshot degradeLevel).inv
    (fun st => st.rows.map f = (A.baseAssigned snapshot degradeLevel).rows.map f)
    (fun _ _ h hstep => (map_upgrade? hf hstep).trans h) rfl

theorem map_sub_upgraded :
    (A.upgraded snapshot degradeLevel).rows.map Row.sub = snapshot.subscriptions := by
  rw [map_upgraded fun _ _ _ => rfl, baseAssigned, map_sub_foldl_assignBase]
  simp [start, Function.comp_def]

theorem actions_allocate : (A.allocate snapshot degradeLevel).actions =
      (A.upgraded snapshot degradeLevel).rows.flatMap Row.actions := by
  unfold allocate
  split
  next hemp =>
    have hrows := map_sub_upgraded A snapshot degradeLevel
    rw [isEmpty_iff.mp hemp, map_eq_nil_iff] at hrows
    rw [hrows]
    rfl
  · rfl

theorem budgetBps_allocate :
    (A.allocate snapshot degradeLevel).budgetBps = computeBudgetBps snapshot degradeLevel := by
  unfold allocate
  split <;> rfl

end Phases

/-! ### The plan -/

variable (block : List DownlinkAction)

def isResumed : Bool := block.any fun a => a.type == .resume

def layersOf : UInt8 × UInt8 :=
  match block.find? fun a => a.type == .setLayers with
  | some a => (a.spatialLayer, a.temporalLayer)
  | none => (0, 0)

/-- The actions for one subscription: one that pauses or resumes its consumer, one that sets
its priority, and one that sets its layers if and only if it is a video that is resumed. -/
structure BlockFor : Prop where
  consumerId : ∀ a ∈ block, a.consumerId = sub.consumerId
  pauseOrResume : block.countP (fun a => a.type == .pause || a.type == .resume) = 1
  setPriority : block.countP (fun a => a.type == .setPriority) = 1
  setLayers : block.countP (fun a => a.type == .setLayers) =
    if sub.kind = "video" ∧ isResumed block then 1 else 0

def SubscriberBudgetAllocator.blockBitrate (A : SubscriberBudgetAllocator)
    (sub : DownlinkSubscription) (block : List DownlinkAction) : ℚ :=
  if sub.kind = "video" ∧ isResumed block then
    A.estimateLayerBitrateBps sub (layersOf block).1 (layersOf block).2
  else 0

section Plan

variable (A : SubscriberBudgetAllocator) (row : Row)

theorem isResumed_actions : isResumed row.actions = row.active := by
  unfold Row.actions isResumed
  cases row.active
  · rfl
  · rfl

theorem layersOf_actions (hact : row.active) (hkind : row.sub.kind = "video") :
    layersOf row.actions = (row.spatial, row.temporal) := by
  simp [layersOf, Row.actions, hact, hkind]

theorem blockBitrate_actions : A.blockBitrate row.sub row.actions = A.bitrate row := by
  rw [blockBitrate, bitrate, isResumed_actions]
  by_cases hres : row.active ∧ row.sub.kind = "video"
  · rw [if_pos hres.symm, if_pos hres, layersOf_actions row hres.1 hres.2]
  · rw [if_neg fun h => hres h.symm, if_neg hres]

theorem blockFor_actions : BlockFor row.sub row.actions := by
  by_cases hact : row.active
  · by_cases hkind : row.sub.kind = "video"
    · constructor <;> simp [Row.actions, hact, hkind, isResumed]
    · constructor <;> simp [Row.actions, hact, hkind, isResumed]
  · constructor <;> simp [Row.actions, hact, isResumed]

/-- **The allocation within a budget.**  The upgrades come to an end, and the plan has one
block of actions for each subscription.  What the resumed videos use is within the budget;
their layers are within the caps of the level of degradation; and no layer of one of them
can be raised by one within the caps and the budget. -/
theorem allocate_spec (snapshot : DownlinkSnapshot) (degradeLevel : ℤ) :
    ∃ last blocks,
      Loop.EndsIn (A.upgrade? (computeBudgetBps snapshot degradeLevel) (layerCaps degradeLevel))
        (A.baseAssigned snapshot degradeLevel) last ∧
      blocks = last.rows.map Row.actions ∧
      (A.allocate snapshot degradeLevel).actions = blocks.flatten ∧
      List.Forall₂ BlockFor snapshot.subscriptions blocks ∧
      (List.zipWith A.blockBitrate snapshot.subscriptions blocks).sum ≤
        (A.allocate snapshot degradeLevel).budgetBps ∧
      ∀ sub block, (sub, block) ∈ snapshot.subscriptions.zip blocks → sub.kind = "video" →
        isResumed block = true →
          (layersOf block).1.toNat ≤ (layerCaps degradeLevel).1 ∧
          (layersOf block).2.toNat ≤ (layerCaps degradeLevel).2 ∧
          ((layersOf block).1.toNat < (layerCaps degradeLevel).1 →
            (A.allocate snapshot degradeLevel).budgetBps <
              (List.zipWith A.blockBitrate snapshot.subscriptions blocks).sum +
                (A.estimateLayerBitrateBps sub ((layersOf block).1 + 1) (layersOf block).2 -
                  A.estimateLayerBitrateBps sub (layersOf block).1 (layersOf block).2)) ∧
          ((layersOf block).2.toNat < (layerCaps degradeLevel).2 →
            (A.allocate snapshot degradeLevel).budgetBps <
              (List.zipWith A.blockBitrate snapshot.subscriptions blocks).sum +
                (A.estimateLayerBitrateBps sub (layersOf block).1 ((layersOf block).2 + 1) -
                  A.estimateLayerBitrateBps sub (layersOf block).1 (layersOf block).2)) := by
  have hends := endsIn_upgraded A snapshot degradeLevel
  have hinv := allocInv_upgraded A snapshot degradeLevel
  have hsubs := map_sub_upgraded A snapshot degradeLevel
  set last := A.upgraded snapshot degradeLevel
  have hsum : (List.zipWith A.blockBitrate snapshot.subscriptions
      (last.rows.map Row.actions)).sum = last.usedBps := by
    rw [hinv.usedBps, ← hsubs, zipWith_map, zipWith_self]
    exact congrArg List.sum (map_congr_left fun row _ => blockBitrate_actions A row)
  rw [budgetBps_allocate, actions_allocate, flatMap_def]
  refine ⟨last, last.rows.map Row.actions, hends, rfl, rfl, ?_, ?_, ?_⟩
  · rw [← hsubs, forall₂_map_left_iff, forall₂_map_right_iff, forall₂_same]
    exact fun row _ => blockFor_actions row
  · rw [hsum]
    exact hinv.within
  intro sub block hmem hkind hres
  rw [← hsubs, zip_map', mem_map] at hmem
  obtain ⟨row, hrow, heq⟩ := hmem
  obtain ⟨rfl, rfl⟩ := Prod.mk.inj heq
  rw [isResumed_actions] at hres
  rw [hsum, layersOf_actions row hres hkind]
  refine ⟨(hinv.caps row hrow).1, (hinv.caps row hrow).2, fun hcap => ?_, fun hcap => ?_⟩
  · exact lt_of_upgrade?_eq_none hinv (layerCaps_le_max _) hends.2 hrow hres hkind
      (.inl ⟨hcap, rfl, rfl⟩)
  · exact lt_of_upgrade?_eq_none hinv (layerCaps_le_max _) hends.2 hrow hres hkind
      (.inr ⟨hcap, rfl, rfl⟩)

end Plan

end MediasoupCpp
