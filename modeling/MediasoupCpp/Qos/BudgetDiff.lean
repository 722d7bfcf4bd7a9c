import MediasoupCpp.Lib.Dict
import MediasoupCpp.Lib.Suppress
import MediasoupCpp.Qos.BudgetAllocator

/-!
# The difference between a plan and what was applied

A plan says for each consumer whether it is paused, at which priority it is sent, and for a video
that is sent also in which layers.  Most of this has been said before, so the server keeps the
state it has last given to each consumer and emits only the actions that change it.

## Main results

* `diffSpec_allocate` — **the emitted actions do what the plan does, and asked again nothing is
  emitted**.

Source: `src/qos/DownlinkAllocator.h`, `src/qos/DownlinkAllocator.cpp`.
-/

namespace MediasoupCpp

open List

/-! ### The difference -/

structure ConsumerLastState where
  paused : Bool := false
  spatialLayer : UInt8 := 0
  temporalLayer : UInt8 := 0
  priority : UInt8 := 0
  deriving DecidableEq

abbrev LastStates : Type := Dict String ConsumerLastState

def DownlinkAction.applyTo (state : ConsumerLastState) (action : DownlinkAction) :
    ConsumerLastState :=
  match action.type with
  | .pause => { state with paused := true }
  | .resume => { state with paused := false }
  | .setLayers =>
    { state with spatialLayer := action.spatialLayer, temporalLayer := action.temporalLayer }
  | .setPriority => { state with priority := action.priority }
  | .none => state

open DownlinkAction

def applyActionToLastState (lastState : LastStates) (action : DownlinkAction) : LastStates :=
  lastState.upsert DownlinkAction.consumerId DownlinkAction.applyTo {} action

def isRedundantAction (action : DownlinkAction) (state : ConsumerLastState) : Bool :=
  match action.type with
  | .pause => state.paused
  | .resume => !state.paused
  | .setLayers =>
    !action.requestKeyFrame && state.spatialLayer == action.spatialLayer &&
      state.temporalLayer == action.temporalLayer
  | .setPriority => state.priority == action.priority
  | .none => true

def isSuppressed (action : DownlinkAction) (lastState : LastStates) : Bool :=
  (lastState.lookup action.consumerId).any (isRedundantAction action)

variable (initialState desiredState : LastStates)

def resumingFromPause (consumerId : String) : Bool :=
  (desiredState.lookup consumerId).any (fun state => !state.paused) &&
    (initialState.lookup consumerId).any ConsumerLastState.paused

def withKeyFrame (action : DownlinkAction) :
    DownlinkAction :=
  if action.type = .setLayers ∧ resumingFromPause initialState desiredState action.consumerId then
    { action with requestKeyFrame := true }
  else action

def computeBudgetDiff (planActions : List DownlinkAction) (lastState : LastStates) :
    List DownlinkAction × LastStates :=
  let desiredState := planActions.foldl applyActionToLastState lastState
  Suppress.run isSuppressed applyActionToLastState lastState
    (planActions.map (withKeyFrame lastState desiredState))

/-! ### What actions make of the states -/

section States

variable {lastState lastState' initialState desiredState : LastStates} {action : DownlinkAction}

def SameStates (lastState lastState' : LastStates) : Prop :=
  ∀ consumerId, lastState.lookup consumerId = lastState'.lookup consumerId

theorem lookup_applyActionToLastState (consumerId : String) :
    (applyActionToLastState lastState action).lookup consumerId =
      if consumerId = action.consumerId then
        some (action.applyTo ((lastState.lookup action.consumerId).getD {}))
      else lastState.lookup consumerId :=
  Dict.lookup_insert_eq _ _ _ _

theorem applyTo_of_redundant {state : ConsumerLastState}
    (h : isRedundantAction action state) : action.applyTo state = state := by
  obtain ⟨type, _, _, _, _, _⟩ := action
  obtain ⟨_, _, _, _⟩ := state
  cases type <;> simp_all [isRedundantAction, applyTo]

theorem lookup_of_suppressed (h : isSuppressed action lastState) (consumerId : String) :
    (applyActionToLastState lastState action).lookup consumerId = lastState.lookup consumerId := by
  obtain ⟨_, hst, hred⟩ := (Option.any_eq_true _ _).mp h
  rw [lookup_applyActionToLastState]
  split
  next hid =>
    rw [hid, hst, Option.getD_some, applyTo_of_redundant hred]
  · rfl

@[simp] theorem withKeyFrame_consumerId :
    (withKeyFrame initialState desiredState action).consumerId = action.consumerId := by
  unfold withKeyFrame
  split <;> rfl

@[simp] theorem withKeyFrame_type :
    (withKeyFrame initialState desiredState action).type = action.type := by
  unfold withKeyFrame
  split <;> rfl

theorem applyAction_withKeyFrame :
    applyActionToLastState lastState (withKeyFrame initialState desiredState action) =
      applyActionToLastState lastState action := by
  unfold withKeyFrame
  split <;> rfl

theorem sameStates_computeBudgetDiff (plan : List DownlinkAction) (lastState : LastStates) :
    SameStates (computeBudgetDiff plan lastState).2
      (plan.foldl applyActionToLastState lastState) := by
  have hview : (computeBudgetDiff plan lastState).2.lookup =
      ((plan.map (withKeyFrame lastState (plan.foldl applyActionToLastState lastState))).foldl
        applyActionToLastState lastState).lookup := by
    refine Suppress.view_run (fun d : LastStates => d.lookup) ?_ ?_
    · intro action s s' hs
      have hlook : ∀ consumerId, s.lookup consumerId = s'.lookup consumerId := congrFun hs
      funext consumerId
      rw [lookup_applyActionToLastState, lookup_applyActionToLastState, hlook, hlook]
    · exact fun action s h => funext (lookup_of_suppressed h)
  rw [foldl_map] at hview
  simp only [applyAction_withKeyFrame] at hview
  exact congrFun hview

end States

/-! ### The states a plan leads to -/

section Plan

variable {rows : List Row} {row : Row}

def Row.planned (row : Row) (state : ConsumerLastState) : ConsumerLastState where
  paused := !row.active
  spatialLayer := if row.active ∧ row.sub.kind = "video" then row.spatial else state.spatialLayer
  temporalLayer :=
    if row.active ∧ row.sub.kind = "video" then row.temporal else state.temporalLayer
  priority := computePriority row.sub

theorem foldl_actions (row : Row) (state : ConsumerLastState) :
    row.actions.foldl DownlinkAction.applyTo state = row.planned state := by
  unfold Row.actions Row.planned
  cases row.active with
  | false => rfl
  | true =>
    by_cases hkind : row.sub.kind = "video" <;> simp [hkind, applyTo]

theorem planned_planned (row : Row) (state : ConsumerLastState) :
    row.planned (row.planned state) = row.planned state := by
  unfold Row.planned
  split <;> rfl

variable {a : DownlinkAction}

theorem mem_actions : a ∈ row.actions ↔
      (a = { type := .pause, consumerId := row.sub.consumerId } ∧ row.active = false) ∨
      (a = { type := .resume, consumerId := row.sub.consumerId } ∧ row.active) ∨
      (a = { type := .setLayers, consumerId := row.sub.consumerId, spatialLayer := row.spatial,
             temporalLayer := row.temporal } ∧ row.active ∧ row.sub.kind = "video") ∨
      a = { type := .setPriority, consumerId := row.sub.consumerId,
            priority := computePriority row.sub } := by
  unfold Row.actions
  cases row.active with
  | false => simp
  | true => by_cases hkind : row.sub.kind = "video" <;> simp [hkind]

theorem redundant_of_planned (ha : a ∈ row.actions)
    (state : ConsumerLastState) : isRedundantAction a (row.planned state) := by
  rcases mem_actions.mp ha with ⟨rfl, hact⟩ | ⟨rfl, hact⟩ | ⟨rfl, hact, hkind⟩ | rfl
  · simp [isRedundantAction, Row.planned, hact]
  · simp [isRedundantAction, Row.planned, hact]
  · simp [isRedundantAction, Row.planned, hact, hkind]
  · simp [isRedundantAction, Row.planned]

theorem consumerId_of_mem_actions (ha : a ∈ row.actions) : a.consumerId = row.sub.consumerId :=
  (blockFor_actions row).consumerId a ha

theorem active_of_setLayers (ha : a ∈ row.actions)
    (htype : a.type = .setLayers) : row.active ∧ a.requestKeyFrame = false := by
  rcases mem_actions.mp ha with ⟨rfl, -⟩ | ⟨rfl, -⟩ | ⟨rfl, hact, -⟩ | rfl
  · cases htype
  · cases htype
  · exact ⟨hact, rfl⟩
  · cases htype

theorem exists_resume (h : row.active) : ∃ a ∈ row.actions, a.type = .resume := by
  have hres : isResumed row.actions = true := by rw [isResumed_actions, h]
  obtain ⟨a, ha, htype⟩ := any_eq_true.mp hres
  exact ⟨a, ha, eq_of_beq htype⟩

theorem actions_ne_nil (row : Row) : row.actions ≠ [] := by
  unfold Row.actions
  split
  · exact cons_ne_nil _ _
  · simp

theorem filter_actions (hnd : (rows.map fun row => row.sub.consumerId).Nodup)
    (hrow : row ∈ rows) :
    (rows.flatMap Row.actions).filter (fun a => a.consumerId = row.sub.consumerId) =
      row.actions := by
  induction rows with
  | nil => cases hrow
  | cons first rows ih =>
    rw [map_cons, nodup_cons] at hnd
    rw [flatMap_cons, filter_append]
    rcases mem_cons.mp hrow with rfl | hrow
    · have hself : row.actions.filter (fun a => a.consumerId = row.sub.consumerId) = row.actions :=
        filter_eq_self.mpr fun a ha => decide_eq_true (consumerId_of_mem_actions ha)
      -- the other rows are of other consumers
      have hoth : (rows.flatMap Row.actions).filter
          (fun a => a.consumerId = row.sub.consumerId) = [] := by
        refine filter_eq_nil_iff.mpr fun a ha hid => ?_
        obtain ⟨other, hother, ha⟩ := mem_flatMap.mp ha
        rw [consumerId_of_mem_actions ha] at hid
        exact hnd.1 (mem_map.mpr ⟨other, hother, of_decide_eq_true hid⟩)
      rw [hself, hoth, append_nil]
    · have hfst : first.actions.filter (fun a => a.consumerId = row.sub.consumerId) = [] := by
        refine filter_eq_nil_iff.mpr fun a ha hid => ?_
        rw [consumerId_of_mem_actions ha] at hid
        exact hnd.1 (mem_map.mpr ⟨row, hrow, (of_decide_eq_true hid).symm⟩)
      rw [hfst, nil_append]
      exact ih hnd.2 hrow

theorem lookup_planned (hnd : (rows.map fun row => row.sub.consumerId).Nodup)
    (hrow : row ∈ rows) (lastState : LastStates) :
    ((rows.flatMap Row.actions).foldl applyActionToLastState lastState).lookup row.sub.consumerId =
      some (row.planned ((lastState.lookup row.sub.consumerId).getD {})) := by
  have hmem : row.sub.consumerId ∈ (rows.flatMap Row.actions).map consumerId := by
    obtain ⟨a, ha⟩ := exists_mem_of_ne_nil _ (actions_ne_nil row)
    exact mem_map.mpr
      ⟨a, mem_flatMap.mpr ⟨row, hrow, ha⟩, consumerId_of_mem_actions ha⟩
  refine (Dict.lookup_foldl_upsert consumerId applyTo {} _ lastState
    row.sub.consumerId).trans ?_
  rw [if_pos hmem, filter_actions hnd hrow, foldl_actions]

theorem exists_row (ha : a ∈ rows.flatMap Row.actions) :
    ∃ row ∈ rows, a ∈ row.actions ∧ a.consumerId = row.sub.consumerId := by
  obtain ⟨row, hrow, ha⟩ := mem_flatMap.mp ha
  exact ⟨row, hrow, ha, consumerId_of_mem_actions ha⟩

end Plan

/-! ### The difference to a plan -/

structure DiffSpec (plan : List DownlinkAction) (lastState : LastStates) : Prop where
  applied : SameStates (computeBudgetDiff plan lastState).2
    (plan.foldl applyActionToLastState lastState)
  emitted : SameStates
    ((computeBudgetDiff plan lastState).1.foldl applyActionToLastState lastState)
    (plan.foldl applyActionToLastState lastState)
  settled : (computeBudgetDiff plan (computeBudgetDiff plan lastState).2).1 = []
  /-- Key frames are asked for when a consumer that was paused is resumed with layers. -/
  keyFrames : ∀ consumerId,
    (∃ a ∈ (computeBudgetDiff plan lastState).1, a.type = .setLayers ∧
      a.requestKeyFrame = true ∧ a.consumerId = consumerId) ↔
    (∃ state, lastState.lookup consumerId = some state ∧ state.paused = true) ∧
      (∃ a ∈ plan, a.type = .resume ∧ a.consumerId = consumerId) ∧
      ∃ a ∈ plan, a.type = .setLayers ∧ a.consumerId = consumerId

section Diff

variable {rows : List Row}

theorem computeBudgetDiff_eq_nil (hnd : (rows.map fun row => row.sub.consumerId).Nodup)
    {lastState lastState' : LastStates} (hsame : SameStates lastState'
      ((rows.flatMap Row.actions).foldl applyActionToLastState lastState)) :
    (computeBudgetDiff (rows.flatMap Row.actions) lastState').1 = [] := by
  have hst : ∀ row ∈ rows, ∃ state,
      lastState'.lookup row.sub.consumerId = some (row.planned state) := fun row hrow =>
    ⟨_, (hsame _).trans (lookup_planned hnd hrow lastState)⟩
  -- no consumer is resumed, since the plan leaves those states as they are
  have hpl : ∀ a ∈ rows.flatMap Row.actions, withKeyFrame lastState'
      ((rows.flatMap Row.actions).foldl applyActionToLastState lastState') a = a := by
    intro a ha
    obtain ⟨row, hrow, -, hid⟩ := exists_row ha
    obtain ⟨state, hlook⟩ := hst row hrow
    refine if_neg fun h => ?_
    have hres := h.2
    rw [hid, resumingFromPause, lookup_planned hnd hrow, hlook, Option.getD_some,
      planned_planned] at hres
    simp at hres
  unfold computeBudgetDiff
  dsimp only
  rw [map_congr_left hpl, map_id', Suppress.run_of_redundant]
  intro a ha
  obtain ⟨row, hrow, ha, hid⟩ := exists_row ha
  obtain ⟨state, hlook⟩ := hst row hrow
  rw [isSuppressed, hid, hlook]
  exact redundant_of_planned ha state

theorem keyFrame_iff (hnd : (rows.map fun row => row.sub.consumerId).Nodup)
    (lastState : LastStates) (consumerId : String) :
    (∃ a ∈ (computeBudgetDiff (rows.flatMap Row.actions) lastState).1, a.type = .setLayers ∧
      a.requestKeyFrame ∧ a.consumerId = consumerId) ↔
    (∃ state, lastState.lookup consumerId = some state ∧ state.paused) ∧
      (∃ a ∈ rows.flatMap Row.actions, a.type = .resume ∧ a.consumerId = consumerId) ∧
      ∃ a ∈ rows.flatMap Row.actions, a.type = .setLayers ∧ a.consumerId = consumerId := by
  constructor
  · rintro ⟨a, ha, htype, hkey, rfl⟩
    obtain ⟨planned, hplan, rfl⟩ := mem_map.mp (Suppress.run_fst_sublist.mem ha)
    rw [withKeyFrame_type] at htype
    obtain ⟨row, hrow, hmem, hid⟩ := exists_row hplan
    obtain ⟨hact, hpl⟩ := active_of_setLayers hmem htype
    obtain ⟨resume, hres, hrtype⟩ := exists_resume hact
    rw [withKeyFrame_consumerId]
    refine ⟨?_, ⟨resume, mem_flatMap.mpr ⟨row, hrow, hres⟩, hrtype, ?_⟩, planned, hplan, htype, rfl⟩
    · -- the plan itself does not ask for key frames
      unfold withKeyFrame at hkey
      split at hkey
      next h =>
        have hpau := (Bool.and_eq_true_iff.mp h.2).2
        exact (Option.any_eq_true _ _).mp hpau
      · rw [hpl] at hkey
        cases hkey
    · rw [consumerId_of_mem_actions hres, hid]
  · rintro ⟨⟨state, hst, hpau⟩, -, a, ha, htype, rfl⟩
    obtain ⟨row, hrow, hmem, hid⟩ := exists_row ha
    have hresuming : resumingFromPause lastState
        ((rows.flatMap Row.actions).foldl applyActionToLastState lastState) a.consumerId =
          true := by
      rw [resumingFromPause, hst, hid, lookup_planned hnd hrow]
      simp [Row.planned, (active_of_setLayers hmem htype).1, hpau]
    have hnever : ∀ s, isSuppressed { a with requestKeyFrame := true } s = false := fun s => by
      rw [isSuppressed]
      cases s.lookup a.consumerId with
      | none => rfl
      | some state => simp [isRedundantAction, htype]
    refine ⟨{ a with requestKeyFrame := true }, Suppress.mem_run hnever ?_, htype, rfl, rfl⟩
    exact mem_map.mpr ⟨a, ha, if_pos ⟨htype, hresuming⟩⟩

theorem nodup_rows (A : SubscriberBudgetAllocator) {snapshot : DownlinkSnapshot}
    (hnd : (snapshot.subscriptions.map DownlinkSubscription.consumerId).Nodup)
    (degradeLevel : ℤ) :
    ((A.upgraded snapshot degradeLevel).rows.map fun row => row.sub.consumerId).Nodup := by
  rwa [← map_sub_upgraded A snapshot degradeLevel, map_map] at hnd

theorem diffSpec_allocate (A : SubscriberBudgetAllocator) {snapshot : DownlinkSnapshot}
    (hnd : (snapshot.subscriptions.map DownlinkSubscription.consumerId).Nodup)
    (degradeLevel : ℤ) (lastState : LastStates) :
    DiffSpec (A.allocate snapshot degradeLevel).actions lastState := by
  have hrows := nodup_rows A hnd degradeLevel
  have happ := sameStates_computeBudgetDiff (A.allocate snapshot degradeLevel).actions lastState
  have hemit := happ
  rw [computeBudgetDiff, Suppress.run_snd, ← computeBudgetDiff] at hemit
  refine ⟨happ, hemit, ?_, fun consumerId => ?_⟩
  · rw [actions_allocate] at happ ⊢
    exact computeBudgetDiff_eq_nil hrows happ
  · rw [actions_allocate]
    exact keyFrame_iff hrows lastState consumerId

end Diff

end MediasoupCpp
