import MediasoupCpp.Qos.DownlinkHealth

/-!
# Actions on consumers, and the allocation by rules

What a plan does to the consumers of a subscriber is a list of actions.  The older of the two
allocators makes them from rules alone: hidden tracks are paused, visible ones get layers by the
size they are shown at and by the level of degradation.

## Main results

* `DownlinkAllocator.pausedAfter_compute_of_hidden` — **the rules leave what is hidden paused**.

Source: `src/qos/DownlinkAllocator.h`, `src/qos/DownlinkAllocator.cpp`.
-/

namespace MediasoupCpp

open List

/-! ### Actions -/

inductive DownlinkActionType
  | none
  | pause
  | resume
  | setLayers
  | setPriority
  deriving DecidableEq

structure DownlinkAction where
  type : DownlinkActionType := .none
  consumerId : String
  spatialLayer : UInt8 := 0
  temporalLayer : UInt8 := 0
  requestKeyFrame : Bool := false
  priority : UInt8 := 0
  deriving DecidableEq

structure SubscriberBudgetPlan where
  budgetBps : ℚ := 0
  actions : List DownlinkAction := []

def DownlinkAction.pausedBy (a : DownlinkAction) (consumerId : String) (paused : Bool) : Bool :=
  if a.consumerId = consumerId then
    match a.type with
    | .pause => true
    | .resume => false
    | _ => paused
  else paused

def pausedAfter (actions : List DownlinkAction) (consumerId : String) (paused : Bool) : Bool :=
  actions.foldl (fun paused a => a.pausedBy consumerId paused) paused

/-! ### Allocation by rules -/

def kPriorityScreenShare : UInt8 := 255
def kPriorityPinned : UInt8 := 220
def kPriorityActiveSpeaker : UInt8 := 180
def kPriorityVisibleGrid : UInt8 := 120
def kPriorityHidden : UInt8 := 1

def kSmallTileMaxWidth : ℕ := 320

def computePriority (sub : DownlinkSubscription) : UInt8 :=
  if !sub.visible then kPriorityHidden
  else if sub.isScreenShare then kPriorityScreenShare
  else if sub.pinned then kPriorityPinned
  else if sub.activeSpeaker then kPriorityActiveSpeaker
  else kPriorityVisibleGrid

namespace DownlinkAllocator

def layers (sub : DownlinkSubscription) (degradeLevel : ℤ) : UInt8 × UInt8 :=
  let isLarge := sub.pinned || sub.isScreenShare || kSmallTileMaxWidth < sub.targetWidth
  let spatial : UInt8 := if isLarge then 2 else 0
  let temporal : UInt8 := if isLarge then 2 else 0
  if 3 ≤ degradeLevel then (0, 0)
  else if degradeLevel = 2 then (min spatial 1, min temporal 1)
  else if degradeLevel = 1 then (min spatial 1, min temporal 2)
  else (spatial, temporal)

def computeOne (degradeLevel : ℤ) (sub : DownlinkSubscription) (wasPaused : Bool) :
    List DownlinkAction :=
  let priority := computePriority sub
  let action (type : DownlinkActionType) : DownlinkAction :=
    { type := type, consumerId := sub.consumerId, priority := priority }
  if !sub.visible then
    (if !wasPaused then [action .pause] else []) ++ [action .setPriority]
  else if sub.kind ≠ "video" then
    (if wasPaused then [action .resume] else []) ++ [action .setPriority]
  else
    let (spatial, temporal) := layers sub degradeLevel
    (if wasPaused then [action .resume] else []) ++
      [{ action .setLayers with
          spatialLayer := spatial, temporalLayer := temporal, requestKeyFrame := wasPaused },
        action .setPriority]

/-- The actions for the subscriptions of a report.  `currentlyPaused` says which of their
consumers are paused; those it says nothing about are not. -/
def compute : List DownlinkSubscription → List Bool → ℤ → List DownlinkAction
  | [], _, _ => []
  | sub :: subs, currentlyPaused, degradeLevel =>
    computeOne degradeLevel sub (currentlyPaused.headD false) ++
      compute subs currentlyPaused.tail degradeLevel

end DownlinkAllocator

/-! ### What is hidden is paused -/

section PausedAfter

variable {actions actions' : List DownlinkAction} {consumerId : String} {paused : Bool}

theorem pausedAfter_append : pausedAfter (actions ++ actions') consumerId paused =
      pausedAfter actions' consumerId (pausedAfter actions consumerId paused) :=
  foldl_append

theorem pausedAfter_of_ne (h : ∀ a ∈ actions, a.consumerId ≠ consumerId) :
    pausedAfter actions consumerId paused = paused := by
  induction actions generalizing paused with
  | nil => rfl
  | cons a actions ih =>
    rw [forall_mem_cons] at h
    rw [pausedAfter, foldl_cons, DownlinkAction.pausedBy, if_neg h.1]
    exact ih h.2

end PausedAfter

namespace DownlinkAllocator

variable {degradeLevel : ℤ}

theorem consumerId_of_mem_computeOne {sub : DownlinkSubscription} {wasPaused : Bool}
    {a : DownlinkAction} (h : a ∈ computeOne degradeLevel sub wasPaused) :
    a.consumerId = sub.consumerId := by
  unfold computeOne at h
  cases wasPaused
  all_goals
    simp only [Bool.not_true, Bool.not_false, if_true, if_false, Bool.false_eq_true,
      nil_append, singleton_append] at h
    split at h
    · simp only [mem_cons, not_mem_nil, or_false] at h
      rcases h with rfl | rfl <;> rfl
    split at h
    · simp only [mem_cons, not_mem_nil, or_false] at h
      rcases h with rfl | rfl <;> rfl
    · simp only [mem_cons, not_mem_nil, or_false] at h
      rcases h with rfl | rfl | rfl <;> rfl

theorem consumerId_of_mem_compute {subs : List DownlinkSubscription} {currentlyPaused : List Bool}
    {a : DownlinkAction} (h : a ∈ compute subs currentlyPaused degradeLevel) :
    a.consumerId ∈ subs.map DownlinkSubscription.consumerId := by
  induction subs generalizing currentlyPaused with
  | nil => cases h
  | cons sub subs ih =>
    rw [map_cons, mem_cons]
    rcases mem_append.mp h with hone | hrest
    · exact .inl (consumerId_of_mem_computeOne hone)
    · exact .inr (ih hrest)

theorem pausedAfter_compute_of_hidden {subs : List DownlinkSubscription}
    (hnd : (subs.map DownlinkSubscription.consumerId).Nodup) {currentlyPaused : List Bool}
    {i : ℕ} {sub : DownlinkSubscription} (hsub : subs[i]? = some sub)
    (hhid : sub.visible = false) :
    pausedAfter (compute subs currentlyPaused degradeLevel) sub.consumerId
      (currentlyPaused.getD i false) := by
  induction subs generalizing i currentlyPaused with
  | nil => cases hsub
  | cons first subs ih =>
    rw [map_cons, nodup_cons] at hnd
    rw [compute, pausedAfter_append]
    cases i with
    | zero =>
      obtain rfl : first = sub := by simpa using hsub
      -- the other subscriptions are of other consumers
      have hoth : ∀ a ∈ compute subs currentlyPaused.tail degradeLevel,
          a.consumerId ≠ first.consumerId := fun a ha heq =>
        hnd.1 (heq ▸ consumerId_of_mem_compute ha)
      rw [pausedAfter_of_ne hoth]
      have hhead : currentlyPaused.getD 0 false = currentlyPaused.headD false := by
        cases currentlyPaused <;> rfl
      rw [hhead]
      cases hpau : currentlyPaused.headD false <;>
        simp [computeOne, hhid, pausedAfter, DownlinkAction.pausedBy]
    | succ i =>
      have hmem : sub.consumerId ∈ subs.map DownlinkSubscription.consumerId :=
        mem_map_of_mem (mem_of_getElem? hsub)
      have hoth : ∀ a ∈ computeOne degradeLevel first (currentlyPaused.headD false),
          a.consumerId ≠ sub.consumerId := fun a ha heq =>
        hnd.1 (by rwa [← consumerId_of_mem_computeOne ha, heq])
      rw [pausedAfter_of_ne hoth]
      have htail : currentlyPaused.getD (i + 1) false = currentlyPaused.tail.getD i false := by
        cases currentlyPaused <;> simp
      rw [htail]
      exact ih hnd.2 hsub

end DownlinkAllocator

end MediasoupCpp
