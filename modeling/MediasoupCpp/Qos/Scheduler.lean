import MediasoupCpp.Lib.Dict
import MediasoupCpp.Lib.Run
import Mathlib.Algebra.Group.Nat.Defs
import Mathlib.Data.Finset.Basic
import Mathlib.Data.Finset.Insert

/-!
# Scheduling downlink planning

A room whose downlink has to be planned again is marked dirty and put into a queue.  A posted task
works the queue off: a room that was planned less than the planning interval ago is deferred, the
others get a planning pass.

Main result: `planning_scheduler_sound`.

Source: `src/RoomServiceDownlink.cpp`, `src/RoomCleanupHelpers.h`, `src/RoomService.h`.
-/

namespace MediasoupCpp

open List Runs

/-! ### The planner -/

structure DownlinkRoomPlanState where
  lastPlannedAtMs : ℤ := 0
  nextEligiblePlanAtMs : ℤ := 0
  deriving DecidableEq

/-- A run of `continueDownlinkPlanning`: its variables, and the room it has a pass for. -/
structure PlanningTask where
  nowMs : ℤ
  minDeferredDelayMs : ℤ := 0
  deferredRooms : List String := []
  pass : Option String := none
  deriving DecidableEq

inductive PlanningRecord
  | pass (roomId : String) (startMs : ℤ)
  | cleanup (roomId : String)
  deriving DecidableEq

structure Scheduler where
  pendingDownlinkRooms : List String := []
  dirtyDownlinkRooms : Finset String := ∅
  downlinkPlanningActive : Bool := false
  downlinkPlanningNextWakeAtMs : ℤ := 0
  downlinkPlanningScheduleToken : ℕ := 0
  downlinkRoomPlanStates : Dict String DownlinkRoomPlanState := ∅
  /-- The tokens of the tasks that are posted and have not run. -/
  outstanding : List ℕ := []
  running : Option PlanningTask := none
  /-- The rooms that were marked and neither planned nor cleaned up since. -/
  owed : Finset String := ∅
  /-- The passes and clean-ups so far, the newest first. -/
  log : List PlanningRecord := []

inductive SchedulerEvent
  /-- A room is marked dirty, outside of tasks or inside a pass. -/
  | mark (roomId : String)
  /-- A posted task runs; `nowMs` is the time if it reads the clock. -/
  | runTask (token : ℕ) (nowMs : ℤ)
  /-- The task takes the next room, or ends if there is none; `nowMs` is the time if it posts
  another task. -/
  | next (nowMs : ℤ)
  | endPass (threw : Bool)
  | cleanup (roomId : String)
  deriving DecidableEq

namespace Scheduler

variable (interval : ℕ) (s : Scheduler) (roomId : String)

def planState : DownlinkRoomPlanState :=
  (s.downlinkRoomPlanStates.lookup roomId).getD {}

def scheduleDownlinkPlanning (delayMs : ℕ) (nowMs : ℤ) : Scheduler :=
  { s with
    downlinkPlanningScheduleToken := s.downlinkPlanningScheduleToken + 1
    downlinkPlanningNextWakeAtMs := if 0 < delayMs then nowMs + delayMs else 0
    outstanding := s.outstanding ++ [s.downlinkPlanningScheduleToken + 1] }

def enqueue : Scheduler :=
  if roomId ∈ s.dirtyDownlinkRooms then { s with owed := insert roomId s.owed }
  else
    { s with
      owed := insert roomId s.owed
      dirtyDownlinkRooms := insert roomId s.dirtyDownlinkRooms
      pendingDownlinkRooms := s.pendingDownlinkRooms ++ [roomId] }

def markDownlinkRoomDirty : Scheduler :=
  let s := s.enqueue roomId
  -- no clock is read for a task that is posted at once
  if !s.downlinkPlanningActive then
    { s with downlinkPlanningActive := true }.scheduleDownlinkPlanning 0 0
  else if 0 < s.downlinkPlanningNextWakeAtMs then s.scheduleDownlinkPlanning 0 0
  else s

def sleep : Scheduler :=
  { s with downlinkPlanningActive := false, downlinkPlanningNextWakeAtMs := 0 }

def runTask (token : ℕ) (nowMs : ℤ) : Scheduler :=
  let s := { s with outstanding := s.outstanding.erase token }
  if !s.downlinkPlanningActive || token != s.downlinkPlanningScheduleToken then s
  else
    let s := { s with downlinkPlanningNextWakeAtMs := 0 }
    if s.pendingDownlinkRooms = [] then s.sleep else { s with running := some { nowMs } }

def endTask (task : PlanningTask) (nowMs : ℤ) : Scheduler :=
  let s := { s with
    running := none
    dirtyDownlinkRooms := s.dirtyDownlinkRooms ∪ task.deferredRooms.toFinset
    pendingDownlinkRooms := s.pendingDownlinkRooms ++ task.deferredRooms }
  if s.pendingDownlinkRooms = [] then s.sleep
  else s.scheduleDownlinkPlanning (task.minDeferredDelayMs.toNat % 2 ^ 32) nowMs

def takeRoom (task : PlanningTask) (roomId : String) (rest : List String) : Scheduler :=
  let planState := s.planState roomId
  let s := { s with
    pendingDownlinkRooms := rest
    dirtyDownlinkRooms := s.dirtyDownlinkRooms.erase roomId
    downlinkRoomPlanStates := s.downlinkRoomPlanStates.insert roomId planState }
  if task.nowMs < planState.nextEligiblePlanAtMs then
    let delayMs := max 1 (planState.nextEligiblePlanAtMs - task.nowMs)
    { s with
      running := some { task with
        minDeferredDelayMs :=
          if task.minDeferredDelayMs = 0 ∨ delayMs < task.minDeferredDelayMs then delayMs
          else task.minDeferredDelayMs
        deferredRooms := task.deferredRooms ++ [roomId] } }
  else
    { s with
      running := some { task with pass := some roomId }
      owed := s.owed.erase roomId
      log := .pass roomId task.nowMs :: s.log }

def next (nowMs : ℤ) : Scheduler :=
  match s.running with
  | none => s
  | some task =>
    match task.pass with
    | some _ => s
    | none =>
      match s.pendingDownlinkRooms with
      | [] => s.endTask task nowMs
      | roomId :: rest => s.takeRoom task roomId rest

def endPass : Scheduler :=
  match s.running with
  | none => s
  | some task =>
    match task.pass with
    | none => s
    | some roomId =>
      { s with
        running := some { task with pass := none }
        downlinkRoomPlanStates := s.downlinkRoomPlanStates.insert roomId
          ⟨task.nowMs, task.nowMs + interval⟩ }

def cleanup : Scheduler :=
  { s with
    dirtyDownlinkRooms := s.dirtyDownlinkRooms.erase roomId
    pendingDownlinkRooms := s.pendingDownlinkRooms.filter (· != roomId)
    downlinkRoomPlanStates := s.downlinkRoomPlanStates.erase roomId
    owed := s.owed.erase roomId
    log := .cleanup roomId :: s.log }

def others : Bool :=
  match s.running with
  | none => true
  | some task => task.pass.isSome

def step : SchedulerEvent → Scheduler
  | .mark roomId => if s.others then s.markDownlinkRoomDirty roomId else s
  | .runTask token nowMs =>
    if s.running = none ∧ token ∈ s.outstanding then s.runTask token nowMs else s
  | .next nowMs => s.next nowMs
  | .endPass _ => s.endPass interval
  | .cleanup roomId => if s.running = none then s.cleanup roomId else s

end Scheduler

open Scheduler

/-! ### The log -/

def lastPass (roomId : String) : List PlanningRecord → Option ℤ
  | [] => none
  | .pass r startMs :: older => if r = roomId then some startMs else lastPass roomId older
  | .cleanup r :: older => if r = roomId then none else lastPass roomId older

def Spaced (interval : ℕ) : List PlanningRecord → Prop
  | [] => True
  | .pass roomId startMs :: older =>
    (∀ t ∈ lastPass roomId older, t + interval ≤ startMs) ∧ Spaced interval older
  | .cleanup _ :: older => Spaced interval older

theorem Spaced.le_lastPass {interval : ℕ} {roomId : String} {t : ℤ}
    {newer older : List PlanningRecord} (h : Spaced interval (newer ++ .pass roomId t :: older))
    (hnewer : .cleanup roomId ∉ newer) :
    ∃ t', lastPass roomId (newer ++ .pass roomId t :: older) = some t' ∧ t ≤ t' := by
  induction newer with
  | nil => exact ⟨t, by rw [nil_append, lastPass, if_pos rfl], le_refl t⟩
  | cons record newer ih =>
    rw [mem_cons, not_or] at hnewer
    cases record with
    | pass r startMs =>
      obtain ⟨t', hlast, hle⟩ := ih h.2 hnewer.2
      rw [cons_append, lastPass]
      split
      next hr =>
        subst hr
        have hgap := h.1 t' hlast
        exact ⟨startMs, rfl, by omega⟩
      · exact ⟨t', hlast, hle⟩
    | cleanup r =>
      have hr : r ≠ roomId := fun hr => hnewer.1 (by rw [hr])
      rw [cons_append, lastPass, if_neg hr]
      exact ih h hnewer.2

theorem Spaced.gap {interval : ℕ} {roomId : String} {t t' : ℤ}
    {newest newer older : List PlanningRecord}
    (h : Spaced interval (newest ++ .pass roomId t' :: (newer ++ .pass roomId t :: older)))
    (hnewer : .cleanup roomId ∉ newer) : t + interval ≤ t' := by
  induction newest with
  | nil =>
    obtain ⟨t'', hlast, _⟩ := Spaced.le_lastPass h.2 hnewer
    have hgap := h.1 t'' hlast
    omega
  | cons record newest ih =>
    cases record with
    | pass r startMs => exact ih h.2
    | cleanup r => exact ih h

/-! ### What a step can do -/

namespace Scheduler

variable {interval : ℕ} {s s' : Scheduler} {e : SchedulerEvent}

inductive Transition (interval : ℕ) (s : Scheduler) : SchedulerEvent → Scheduler → Prop
  | stay (e : SchedulerEvent) : Transition interval s e s
  | mark (roomId : String) : Transition interval s (.mark roomId) (s.markDownlinkRoomDirty roomId)
  | runTask (token : ℕ) (nowMs : ℤ) (hrun : s.running = none) :
    Transition interval s (.runTask token nowMs) (s.runTask token nowMs)
  | endTask (nowMs : ℤ) {task : PlanningTask} (hrun : s.running = some task)
    (hpass : task.pass = none) (hpend : s.pendingDownlinkRooms = []) :
    Transition interval s (.next nowMs) (s.endTask task nowMs)
  | takeRoom (nowMs : ℤ) {task : PlanningTask} {roomId : String} {rest : List String}
    (hrun : s.running = some task) (hpass : task.pass = none)
    (hpend : s.pendingDownlinkRooms = roomId :: rest) :
    Transition interval s (.next nowMs) (s.takeRoom task roomId rest)
  | endPass (threw : Bool) {task : PlanningTask} {roomId : String}
    (hrun : s.running = some task) (hpass : task.pass = some roomId) :
    Transition interval s (.endPass threw) { s with
      running := some { task with pass := none }
      downlinkRoomPlanStates := s.downlinkRoomPlanStates.insert roomId
        ⟨task.nowMs, task.nowMs + interval⟩ }
  | cleanup (roomId : String) (hrun : s.running = none) :
    Transition interval s (.cleanup roomId) (s.cleanup roomId)

theorem step_transition (interval : ℕ) (s : Scheduler) (e : SchedulerEvent) :
    Transition interval s e (s.step interval e) := by
  cases e with
  | mark roomId =>
    unfold step
    dsimp only
    split
    · exact .mark roomId
    · exact .stay _
  | runTask token nowMs =>
    unfold step
    dsimp only
    split
    next hruns =>
      exact .runTask token nowMs hruns.1
    · exact .stay _
  | next nowMs =>
    unfold step next
    dsimp only
    split
    · exact .stay _
    rename_i hrun
    split
    · exact .stay _
    rename_i hpass
    split
    next hpend =>
      exact .endTask nowMs hrun hpass hpend
    next roomId rest hpend =>
      exact .takeRoom nowMs hrun hpass hpend
  | endPass threw =>
    unfold step endPass
    dsimp only
    split
    · exact .stay _
    rename_i hrun
    split
    · exact .stay _
    next roomId hpass =>
      exact .endPass threw hrun hpass
  | cleanup roomId =>
    unfold step
    dsimp only
    split
    next hrun =>
      exact .cleanup roomId hrun
    · exact .stay _

/-! ### What every step keeps -/

/-- What holds of the rooms.  Outside of tasks the queue and the dirty rooms are the same rooms; a
room that is owed a pass is in the queue or deferred; the next pass of a room is due the interval
after its last one. -/
structure Rooms (interval : ℕ) (s : Scheduler) : Prop where
  dirty : ∀ r ∈ s.dirtyDownlinkRooms, r ∈ s.pendingDownlinkRooms
  pending : s.running = none → ∀ r ∈ s.pendingDownlinkRooms, r ∈ s.dirtyDownlinkRooms
  owed : ∀ r ∈ s.owed, r ∈ s.pendingDownlinkRooms ∨ ∃ task ∈ s.running, r ∈ task.deferredRooms
  eligible : ∀ task ∈ s.running, ∀ r ∈ task.pass,
    (s.planState r).nextEligiblePlanAtMs ≤ task.nowMs
  last : ∀ r, ∀ t ∈ lastPass r s.log,
    (∃ task ∈ s.running, task.pass = some r ∧ task.nowMs = t) ∨
      t + interval ≤ (s.planState r).nextEligiblePlanAtMs
  spaced : Spaced interval s.log

/-- **What holds between any two steps.**  If there is something to do, a task runs or the one
with the current token is posted. -/
structure Inv (interval : ℕ) (s : Scheduler) : Prop extends Rooms interval s where
  active : s.running ≠ none ∨ s.pendingDownlinkRooms ≠ [] → s.downlinkPlanningActive = true
  posted : s.running = none → s.downlinkPlanningActive = true →
    s.downlinkPlanningScheduleToken ∈ s.outstanding

theorem Inv.init : Inv interval {} where
  dirty r h := by cases h
  pending _ r h := by cases h
  owed r h := by cases h
  eligible task h := by cases h
  last r t h := by cases h
  spaced := trivial
  active h := by simp at h
  posted _ h := by cases h

theorem Rooms.owed_of_idle (h : s.Rooms interval) (hrun : s.running = none) :
    ∀ r ∈ s.owed, r ∈ s.pendingDownlinkRooms := by
  intro r hr
  obtain hr | ⟨_, htask, -⟩ := h.owed r hr
  · exact hr
  · rw [hrun] at htask
    cases htask

variable {task : PlanningTask}

section

variable (h : s.Rooms interval)
include h

theorem Rooms.owed_of_running (hrun : s.running = some task) :
    ∀ r ∈ s.owed, r ∈ s.pendingDownlinkRooms ∨ r ∈ task.deferredRooms := by
  intro r hr
  refine (h.owed r hr).imp_right ?_
  rintro ⟨_, htask', hr⟩
  rw [hrun] at htask'
  cases htask'
  exact hr

theorem Rooms.last_of_no_pass (hpass : ∀ task ∈ s.running, task.pass = none) (r : String) :
    ∀ t ∈ lastPass r s.log, t + interval ≤ (s.planState r).nextEligiblePlanAtMs := by
  intro t ht
  refine (h.last r t ht).resolve_left ?_
  rintro ⟨task, htask, hsome, -⟩
  rw [hpass task htask] at hsome
  cases hsome

theorem Rooms.schedule (hact : s.downlinkPlanningActive) (delayMs : ℕ) (nowMs : ℤ) :
    (s.scheduleDownlinkPlanning delayMs nowMs).Inv interval where
  toRooms := ⟨h.dirty, h.pending, h.owed, h.eligible, h.last, h.spaced⟩
  active _ := hact
  posted _ _ := by simp [scheduleDownlinkPlanning]

theorem Rooms.sleep (hrun : s.running = none) (hpend : s.pendingDownlinkRooms = []) :
    s.sleep.Inv interval where
  toRooms := ⟨h.dirty, h.pending, h.owed, h.eligible, h.last, h.spaced⟩
  active hsome := by
    rcases hsome with hsome | hsome
    · exact absurd hrun hsome
    · exact absurd hpend hsome
  posted _ hact := by cases hact

theorem Rooms.enqueue (roomId : String) : (s.enqueue roomId).Rooms interval := by
  unfold Scheduler.enqueue
  split
  next hmem =>
    refine ⟨h.dirty, h.pending, fun r hr => ?_, h.eligible, h.last, h.spaced⟩
    rcases Finset.mem_insert.mp hr with rfl | hr
    · exact .inl (h.dirty r hmem)
    · exact h.owed r hr
  refine ⟨fun r hr => ?_, fun hrun r hr => ?_, fun r hr => ?_, h.eligible, h.last, h.spaced⟩
  · rcases Finset.mem_insert.mp hr with rfl | hr
    · exact mem_append_right _ (mem_singleton.mpr rfl)
    · exact mem_append_left _ (h.dirty r hr)
  · rcases mem_append.mp hr with hr | hr
    · exact Finset.mem_insert_of_mem (h.pending hrun r hr)
    · rw [mem_singleton.mp hr]
      exact Finset.mem_insert_self ..
  · rcases Finset.mem_insert.mp hr with rfl | hr
    · exact .inl (mem_append_right _ (mem_singleton.mpr rfl))
    · exact (h.owed r hr).imp_left (mem_append_left _)

end

theorem enqueue_eq (roomId : String) :
    (s.enqueue roomId).downlinkPlanningActive = s.downlinkPlanningActive ∧
      (s.enqueue roomId).downlinkPlanningScheduleToken = s.downlinkPlanningScheduleToken ∧
      (s.enqueue roomId).outstanding = s.outstanding ∧ (s.enqueue roomId).running = s.running := by
  unfold enqueue
  split <;> exact ⟨rfl, rfl, rfl, rfl⟩

theorem Inv.mark (h : s.Inv interval) (roomId : String) :
    (s.markDownlinkRoomDirty roomId).Inv interval := by
  have hrms := h.toRooms.enqueue roomId
  obtain ⟨hact, htoken, hout, hrun⟩ := s.enqueue_eq roomId
  unfold markDownlinkRoomDirty
  dsimp only
  split
  · refine Rooms.schedule ?_ rfl 0 0
    exact ⟨hrms.dirty, hrms.pending, hrms.owed, hrms.eligible, hrms.last, hrms.spaced⟩
  rename_i hawake
  rw [Bool.not_eq_true, Bool.not_eq_false'] at hawake
  split
  · exact hrms.schedule hawake 0 0
  -- a task runs, or the one with the current token is posted already
  refine ⟨hrms, fun _ => hawake, fun hnone _ => ?_⟩
  rw [hact] at hawake
  rw [hrun] at hnone
  rw [htoken, hout]
  exact h.posted hnone hawake

theorem Inv.runTask (h : s.Inv interval) (token : ℕ) (nowMs : ℤ) (hrun : s.running = none) :
    (s.runTask token nowMs).Inv interval := by
  have hrms : ∀ outstanding, Rooms interval { s with outstanding } := fun _ =>
    ⟨h.dirty, h.pending, h.owed, h.eligible, h.last, h.spaced⟩
  unfold Scheduler.runTask
  dsimp only
  split
  next hstal =>
    refine ⟨hrms _, h.active, fun _ hact => ?_⟩
    -- a task with an older token is not the one that is waited for
    have hne : token ≠ s.downlinkPlanningScheduleToken := by
      dsimp only at hact
      simpa [hact] using hstal
    exact (mem_erase_of_ne (Ne.symm hne)).mpr (h.posted hrun hact)
  next hcur =>
    have hact : s.downlinkPlanningActive := by
      rw [Bool.not_eq_true, Bool.or_eq_false_iff, Bool.not_eq_false'] at hcur
      exact hcur.1
    split
    next hpend =>
      exact Rooms.sleep ⟨h.dirty, h.pending, h.owed, h.eligible, h.last, h.spaced⟩ hrun hpend
    refine ⟨⟨h.dirty, fun hnone => (by cases hnone), fun r hr => ?_, ?_, fun r t ht => ?_,
      h.spaced⟩, fun _ => hact, fun hnone => by cases hnone⟩
    · exact .inl (h.owed_of_idle hrun r hr)
    · rintro task ⟨⟩ r hr
      cases hr
    refine .inr (h.last_of_no_pass (fun task htask => ?_) r t ht)
    rw [hrun] at htask
    cases htask

theorem Inv.endTask (h : s.Inv interval) (hrun : s.running = some task)
    (hpass : task.pass = none) (hpend : s.pendingDownlinkRooms = []) (nowMs : ℤ) :
    (s.endTask task nowMs).Inv interval := by
  have hrms : Rooms interval { s with
      running := none
      dirtyDownlinkRooms := s.dirtyDownlinkRooms ∪ task.deferredRooms.toFinset
      pendingDownlinkRooms := s.pendingDownlinkRooms ++ task.deferredRooms } := by
    refine ⟨fun r hr => ?_, fun _ r hr => ?_, fun r hr => ?_, fun _ hnone => (by cases hnone),
      fun r t ht => ?_, h.spaced⟩
    · rcases Finset.mem_union.mp hr with hr | hr
      · exact mem_append_left _ (h.dirty r hr)
      · exact mem_append_right _ (mem_toFinset.mp hr)
    · rcases mem_append.mp hr with hr | hr
      · rw [hpend] at hr
        cases hr
      · exact Finset.mem_union_right _ (mem_toFinset.mpr hr)
    · -- what was deferred is in the queue now
      exact .inl (mem_append.mpr (h.owed_of_running hrun r hr))
    · refine .inr (h.last_of_no_pass (fun task' htask' => ?_) r t ht)
      rw [hrun] at htask'
      cases htask'
      exact hpass
  unfold Scheduler.endTask
  dsimp only
  split
  next hnil =>
    exact hrms.sleep rfl hnil
  · exact hrms.schedule (h.active (.inl (by rw [hrun]; simp))) _ nowMs

theorem planState_of_insert {s' : Scheduler} {roomId : String} {st : DownlinkRoomPlanState}
    (hsts : s'.downlinkRoomPlanStates = s.downlinkRoomPlanStates.insert roomId st) (r : String) :
    s'.planState r = if r = roomId then st else s.planState r := by
  unfold planState
  rw [hsts, Dict.lookup_insert_eq]
  split <;> rfl

theorem planState_of_touch {s' : Scheduler} {roomId : String} (hsts : s'.downlinkRoomPlanStates =
      s.downlinkRoomPlanStates.insert roomId (s.planState roomId)) (r : String) :
    s'.planState r = s.planState r := by
  rw [planState_of_insert hsts]
  split
  next hr =>
    rw [hr]
  · rfl

section

variable (h : s.Inv interval)
include h

theorem Inv.takeRoom (hrun : s.running = some task)
    (hpass : task.pass = none) {roomId : String} {rest : List String}
    (hpend : s.pendingDownlinkRooms = roomId :: rest) :
    (s.takeRoom task roomId rest).Inv interval := by
  have hact : s.downlinkPlanningActive = true := h.active (.inl (by rw [hrun]; simp))
  have hdirty : ∀ r ∈ s.dirtyDownlinkRooms.erase roomId, r ∈ rest := by
    intro r hr
    obtain ⟨hne, hr⟩ := Finset.mem_erase.mp hr
    have hmem := h.dirty r hr
    rw [hpend] at hmem
    exact (mem_cons.mp hmem).resolve_left hne
  have howed : ∀ r ∈ s.owed, r = roomId ∨ r ∈ rest ∨ r ∈ task.deferredRooms := by
    intro r hr
    have hcs := h.owed_of_running hrun r hr
    rw [hpend, mem_cons, or_assoc] at hcs
    exact hcs
  have hlast := h.last_of_no_pass fun task' htask' => by
    rw [hrun] at htask'
    cases htask'
    exact hpass
  unfold Scheduler.takeRoom
  dsimp only
  split
  · -- deferred
    refine ⟨⟨hdirty, fun hnone => (by cases hnone), fun r hr => ?_, ?_, fun r t ht => .inr ?_,
      h.spaced⟩, fun _ => hact, fun hnone => by cases hnone⟩
    · obtain rfl | hr | hr := howed r hr
      · exact .inr ⟨_, rfl, mem_append_right _ (mem_singleton.mpr rfl)⟩
      · exact .inl hr
      · exact .inr ⟨_, rfl, mem_append_left _ hr⟩
    · rintro task' ⟨⟩ r hr
      rw [hpass] at hr
      cases hr
    · rw [@planState_of_touch s _ roomId rfl]
      exact hlast r t ht
  · -- a pass begins: the room is not owed one any more, and its time has come
    rename_i hnow
    rw [not_lt] at hnow
    refine ⟨⟨hdirty, fun hnone => (by cases hnone), fun r hr => ?_, ?_, fun r t ht => ?_, ?_⟩,
      fun _ => hact, fun hnone => by cases hnone⟩
    · obtain ⟨hne, hr⟩ := Finset.mem_erase.mp hr
      obtain rfl | hr | hr := howed r hr
      · exact absurd rfl hne
      · exact .inl hr
      · exact .inr ⟨_, rfl, hr⟩
    · rintro task' ⟨⟩ r ⟨⟩
      exact (congrArg DownlinkRoomPlanState.nextEligiblePlanAtMs
        (planState_of_touch (s := s) rfl roomId)).trans_le hnow
    · rw [lastPass] at ht
      split at ht
      next hr =>
        cases ht
        exact .inl ⟨_, rfl, by rw [hr], rfl⟩
      · refine .inr ?_
        rw [@planState_of_touch s _ roomId rfl]
        exact hlast r t ht
    · exact ⟨fun t ht => le_trans (hlast roomId t ht) hnow, h.spaced⟩

theorem Inv.endPass (hrun : s.running = some task) {roomId : String}
    (hpass : task.pass = some roomId) : Inv interval { s with
      running := some { task with pass := none }
      downlinkRoomPlanStates := s.downlinkRoomPlanStates.insert roomId
        ⟨task.nowMs, task.nowMs + interval⟩ } := by
  have helig := h.eligible task hrun roomId hpass
  refine ⟨⟨h.dirty, fun hnone => (by cases hnone), fun r hr => ?_, ?_, fun r t ht => .inr ?_,
    h.spaced⟩, fun _ => h.active (.inl (by rw [hrun]; simp)), fun hnone => by cases hnone⟩
  · exact (h.owed_of_running hrun r hr).imp_right fun hr => ⟨_, rfl, hr⟩
  · rintro task' ⟨⟩ r hr
    cases hr
  rw [@planState_of_insert s _ roomId _ rfl]
  obtain ⟨task', htask', hpass', rfl⟩ | hlast := h.last r t ht
  · rw [hrun] at htask'
    cases htask'
    rw [hpass] at hpass'
    cases hpass'
    rw [if_pos rfl]
  split
  · -- the pass began when the time of the room had come
    rename_i hr
    subst hr
    dsimp only
    omega
  · exact hlast

theorem Inv.cleanup (hrun : s.running = none) (roomId : String) :
    (s.cleanup roomId).Inv interval := by
  have hnil : (s.cleanup roomId).pendingDownlinkRooms ≠ [] → s.pendingDownlinkRooms ≠ [] := by
    intro hne hnil
    exact hne (by simp [Scheduler.cleanup, hnil])
  refine ⟨⟨fun r hr => ?_, fun _ r hr => ?_, fun r hr => .inl ?_, fun task htask => ?_,
    fun r t ht => .inr ?_, h.spaced⟩, fun hsome => ?_, h.posted⟩
  · obtain ⟨hne, hr⟩ := Finset.mem_erase.mp hr
    exact mem_filter.mpr ⟨h.dirty r hr, by simpa using hne⟩
  · obtain ⟨hr, hne⟩ := mem_filter.mp hr
    exact Finset.mem_erase.mpr ⟨by simpa using hne, h.pending hrun r hr⟩
  · obtain ⟨hne, hr⟩ := Finset.mem_erase.mp hr
    exact mem_filter.mpr ⟨h.owed_of_idle hrun r hr, by simpa using hne⟩
  · rw [Scheduler.cleanup, hrun] at htask
    cases htask
  · rw [Scheduler.cleanup, lastPass] at ht
    split at ht
    · cases ht
    rename_i hr
    have hsame : (s.cleanup roomId).planState r = s.planState r := by
      unfold planState Scheduler.cleanup
      rw [Dict.lookup_erase_eq, if_neg (Ne.symm hr)]
    rw [hsame]
    refine h.last_of_no_pass (fun task htask => ?_) r t ht
    rw [hrun] at htask
    cases htask
  · rcases hsome with hsome | hsome
    · exact absurd hrun hsome
    · exact h.active (.inr (hnil hsome))

theorem Inv.step (hstep : Transition interval s e s') : s'.Inv interval := by
  cases hstep with
  | stay e => exact h
  | mark roomId => exact h.mark roomId
  | runTask token nowMs hrun => exact h.runTask token nowMs hrun
  | endTask nowMs hrun hpass hpend => exact h.endTask hrun hpass hpend nowMs
  | takeRoom nowMs hrun hpass hpend => exact h.takeRoom hrun hpass hpend
  | endPass threw hrun hpass => exact h.endPass hrun hpass
  | cleanup roomId hrun => exact h.cleanup hrun roomId

end

/-! ### Rooms whose time has come -/

def Due (nowMs : ℤ) (roomId : String) (s : Scheduler) : Prop :=
  ∃ task ∈ s.running, task.nowMs = nowMs ∧ roomId ∈ s.pendingDownlinkRooms ∧
    task.pass ≠ some roomId ∧ (s.planState roomId).nextEligiblePlanAtMs ≤ nowMs

def PlannedSince (log : List PlanningRecord) (nowMs : ℤ) (roomId : String) (s : Scheduler) : Prop :=
  ∃ newer, s.log = newer ++ log ∧ .pass roomId nowMs ∈ newer

theorem markDownlinkRoomDirty_frame (s : Scheduler) (roomId : String) :
    let s' := s.markDownlinkRoomDirty roomId
    s'.log = s.log ∧ s'.running = s.running ∧
      s'.downlinkRoomPlanStates = s.downlinkRoomPlanStates ∧
      s.pendingDownlinkRooms <+: s'.pendingDownlinkRooms := by
  have henq : (s.enqueue roomId).log = s.log ∧ (s.enqueue roomId).running = s.running ∧
      (s.enqueue roomId).downlinkRoomPlanStates = s.downlinkRoomPlanStates ∧
      s.pendingDownlinkRooms <+: (s.enqueue roomId).pendingDownlinkRooms := by
    unfold enqueue
    split
    · exact ⟨rfl, rfl, rfl, prefix_refl _⟩
    · exact ⟨rfl, rfl, rfl, prefix_append _ _⟩
  unfold markDownlinkRoomDirty
  dsimp only
  split
  · exact henq
  split <;> exact henq

theorem log_step (hstep : Transition interval s e s') : ∃ newer, s'.log = newer ++ s.log := by
  cases hstep with
  | stay | endPass => exact ⟨[], rfl⟩
  | mark roomId => exact ⟨[], (s.markDownlinkRoomDirty_frame roomId).1⟩
  | runTask token nowMs hrun =>
    refine ⟨[], ?_⟩
    unfold runTask
    dsimp only
    split
    · rfl
    · split <;> rfl
  | endTask nowMs hrun hpass hpend =>
    refine ⟨[], ?_⟩
    unfold endTask
    dsimp only
    split <;> rfl
  | takeRoom nowMs hrun hpass hpend =>
    unfold takeRoom
    dsimp only
    split
    · exact ⟨[], rfl⟩
    · exact ⟨[_], rfl⟩
  | cleanup roomId hrun => exact ⟨[_], rfl⟩

theorem PlannedSince.step {log : List PlanningRecord} {nowMs : ℤ} {roomId : String}
    (h : PlannedSince log nowMs roomId s) (hstep : Transition interval s e s') :
    PlannedSince log nowMs roomId s' := by
  obtain ⟨newer, hlog, hmem⟩ := h
  obtain ⟨newest, hnewest⟩ := log_step hstep
  exact ⟨newest ++ newer, by rw [hnewest, hlog, append_assoc], mem_append_right _ hmem⟩

theorem Due.step {nowMs : ℤ} {roomId : String} (h : Due nowMs roomId s)
    {log : List PlanningRecord} (hlog : ∃ newer, s.log = newer ++ log)
    (hstep : Transition interval s e s') :
    PlannedSince log nowMs roomId s' ∨ Due nowMs roomId s' := by
  have hdue := h
  obtain ⟨task, htask, rfl, hq, hnot, helig⟩ := h
  cases hstep with
  | stay e => exact .inr hdue
  | mark r =>
    obtain ⟨-, hrun, hsts, hgrow⟩ := s.markDownlinkRoomDirty_frame r
    refine .inr ⟨task, by rw [hrun]; exact htask, rfl, hgrow.subset hq, hnot, ?_⟩
    unfold planState at helig ⊢
    rw [hsts]
    exact helig
  | runTask token nowMs hrun | cleanup r hrun =>
    rw [hrun] at htask
    cases htask
  | endTask nowMs hrun hpass hpend =>
    rw [hpend] at hq
    cases hq
  | @takeRoom nowMs _ r rest hrun hpass hpend =>
    rw [hrun] at htask
    cases htask
    rw [hpend] at hq
    unfold takeRoom
    dsimp only
    by_cases hr : r = roomId
    · -- its turn: it gets a pass
      subst hr
      rw [if_neg (not_lt.mpr helig)]
      obtain ⟨newer, hlog⟩ := hlog
      exact .inl ⟨_ :: newer, by rw [hlog]; rfl, mem_cons_self⟩
    refine .inr ?_
    have hrest : roomId ∈ rest := (mem_cons.mp hq).resolve_left (Ne.symm hr)
    split
    · refine ⟨_, rfl, rfl, hrest, hnot, ?_⟩
      rw [@planState_of_touch s _ r rfl]
      exact helig
    · refine ⟨_, rfl, rfl, hrest, fun hpass => hr (Option.some.inj hpass), ?_⟩
      rw [@planState_of_touch s _ r rfl]
      exact helig
  | @endPass threw _ r hrun hpass =>
    rw [hrun] at htask
    cases htask
    refine .inr ⟨_, rfl, rfl, hq, by simp, ?_⟩
    rw [@planState_of_insert s _ r _ rfl, if_neg fun hr => hnot (by rw [hpass, hr])]
    exact helig

theorem Inv.plans_eligible (h : s.Inv interval) (hrun : s.running = none) {roomId : String}
    (hroom : roomId ∈ s.pendingDownlinkRooms) {nowMs : ℤ}
    (helig : (s.planState roomId).nextEligiblePlanAtMs ≤ nowMs) (es : List SchedulerEvent)
    (hdone : (runFrom (Scheduler.step interval) s
      (.runTask s.downlinkPlanningScheduleToken nowMs :: es)).running = none) :
    PlannedSince s.log nowMs roomId (runFrom (Scheduler.step interval) s
        (.runTask s.downlinkPlanningScheduleToken nowMs :: es)) := by
  have hne : s.pendingDownlinkRooms ≠ [] := ne_nil_of_mem hroom
  have hact := h.active (.inr hne)
  have hpost := h.posted hrun hact
  have hst : Due nowMs roomId
      (s.step interval (.runTask s.downlinkPlanningScheduleToken nowMs)) ∧
      (s.step interval (.runTask s.downlinkPlanningScheduleToken nowMs)).log = s.log := by
    unfold Scheduler.step Scheduler.runTask
    dsimp only
    rw [if_pos ⟨hrun, hpost⟩, if_neg (by simp [hact]), if_neg hne]
    exact ⟨⟨_, rfl, rfl, hroom, by simp, helig⟩, rfl⟩
  rw [runFrom_cons] at hdone ⊢
  have hkeep : ∀ (s' : Scheduler) (e : SchedulerEvent),
      (∃ newer, s'.log = newer ++ s.log) ∧
        (PlannedSince s.log nowMs roomId s' ∨ Due nowMs roomId s') →
      (∃ newer, (s'.step interval e).log = newer ++ s.log) ∧
        (PlannedSince s.log nowMs roomId (s'.step interval e) ∨
          Due nowMs roomId (s'.step interval e)) := by
    rintro s' e ⟨⟨newer, hlog⟩, hcs⟩
    have hstep := step_transition interval s' e
    obtain ⟨newest, hnewest⟩ := log_step hstep
    refine ⟨⟨newest ++ newer, by rw [hnewest, hlog, append_assoc]⟩, ?_⟩
    obtain hplan | hdue := hcs
    · exact .inl (hplan.step hstep)
    · exact hdue.step ⟨newer, hlog⟩ hstep
  obtain ⟨-, hplan | ⟨_, htask, -⟩⟩ :=
    runFrom_inv _ hkeep es _ ⟨⟨[], hst.2⟩, .inr hst.1⟩
  · exact hplan
  · rw [hdone] at htask
    cases htask

/-! ### Rooms twice in the queue -/

def deferred (s : Scheduler) : List String :=
  match s.running with
  | none => []
  | some task => task.deferredRooms

def NoRemark (s : Scheduler) : SchedulerEvent → Prop
  | .mark roomId => roomId ∉ s.deferred
  | _ => True

instance (s : Scheduler) : DecidablePred s.NoRemark
  | .mark _ => inferInstanceAs (Decidable (_ ∉ _))
  | .runTask .. => .isTrue trivial
  | .next _ => .isTrue trivial
  | .endPass _ => .isTrue trivial
  | .cleanup _ => .isTrue trivial

/-- No room is twice in the queue or among those deferred, and those in the queue are dirty. -/
structure Distinct (s : Scheduler) : Prop where
  nodup : (s.pendingDownlinkRooms ++ s.deferred).Nodup
  pending : ∀ r ∈ s.pendingDownlinkRooms, r ∈ s.dirtyDownlinkRooms

section

variable (h : s.Distinct)
include h

theorem Distinct.enqueue {roomId : String} (hnew : roomId ∉ s.deferred) :
    (s.enqueue roomId).Distinct := by
  unfold Scheduler.enqueue
  split
  · exact ⟨h.nodup, h.pending⟩
  rename_i hcln
  refine ⟨?_, fun r hr => ?_⟩
  · have hpend : roomId ∉ s.pendingDownlinkRooms := fun hmem => hcln (h.pending roomId hmem)
    rw [append_assoc, singleton_append, (perm_middle).nodup_iff, nodup_cons]
    refine ⟨fun hmem => ?_, h.nodup⟩
    rcases mem_append.mp hmem with hmem | hmem
    · exact hpend hmem
    · exact hnew hmem
  · rcases mem_append.mp hr with hr | hr
    · exact Finset.mem_insert_of_mem (h.pending r hr)
    · rw [mem_singleton.mp hr]
      exact Finset.mem_insert_self ..

theorem Distinct.mark {roomId : String} (hnew : roomId ∉ s.deferred) :
    (s.markDownlinkRoomDirty roomId).Distinct := by
  have henq := h.enqueue hnew
  unfold markDownlinkRoomDirty
  dsimp only
  split
  · exact ⟨henq.nodup, henq.pending⟩
  split
  · exact ⟨henq.nodup, henq.pending⟩
  · exact henq

section

variable (hrun : s.running = some task)
include hrun

theorem Distinct.nodup_of_running : (s.pendingDownlinkRooms ++ task.deferredRooms).Nodup := by
  have hnd := h.nodup
  unfold deferred at hnd
  rw [hrun] at hnd
  exact hnd

theorem Distinct.takeRoom {roomId : String}
    {rest : List String} (hpend : s.pendingDownlinkRooms = roomId :: rest) :
    (s.takeRoom task roomId rest).Distinct := by
  have hnd := h.nodup_of_running hrun
  rw [hpend, cons_append] at hnd
  have hdirty : ∀ r ∈ rest, r ∈ s.dirtyDownlinkRooms.erase roomId := by
    intro r hr
    refine Finset.mem_erase.mpr ⟨?_, h.pending r (hpend ▸ mem_cons_of_mem _ hr)⟩
    rintro rfl
    exact (nodup_cons.mp hnd).1 (mem_append_left _ hr)
  unfold Scheduler.takeRoom
  dsimp only
  split
  · refine ⟨?_, hdirty⟩
    change (rest ++ (task.deferredRooms ++ [roomId])).Nodup
    rw [← append_assoc, (perm_append_singleton roomId _).nodup_iff]
    exact hnd
  · exact ⟨(nodup_cons.mp hnd).2, hdirty⟩

theorem Distinct.endTask (hpend : s.pendingDownlinkRooms = []) (nowMs : ℤ) :
    (s.endTask task nowMs).Distinct := by
  have hq : Distinct { s with
      running := none
      dirtyDownlinkRooms := s.dirtyDownlinkRooms ∪ task.deferredRooms.toFinset
      pendingDownlinkRooms := s.pendingDownlinkRooms ++ task.deferredRooms } := by
    refine ⟨?_, fun r hr => ?_⟩
    · change (s.pendingDownlinkRooms ++ task.deferredRooms ++ []).Nodup
      rw [append_nil]
      exact h.nodup_of_running hrun
    · rw [hpend, nil_append] at hr
      exact Finset.mem_union_right _ (mem_toFinset.mpr hr)
  unfold Scheduler.endTask
  dsimp only
  split <;> exact ⟨hq.nodup, hq.pending⟩

end

theorem Distinct.step (he : s.NoRemark e) (hstep : Transition interval s e s') : s'.Distinct := by
  cases hstep with
  | stay e => exact h
  | mark roomId => exact h.mark he
  | runTask token nowMs hrun =>
    have hnd := h.nodup
    unfold deferred at hnd
    rw [hrun] at hnd
    unfold runTask
    dsimp only
    split
    · exact ⟨h.nodup, h.pending⟩
    split
    · exact ⟨h.nodup, h.pending⟩
    · exact ⟨hnd, h.pending⟩
  | endTask nowMs hrun hpass hpend => exact h.endTask hrun hpend nowMs
  | takeRoom nowMs hrun hpass hpend => exact h.takeRoom hrun hpend
  | endPass threw hrun hpass =>
    have hnd := h.nodup_of_running hrun
    exact ⟨hnd, h.pending⟩
  | cleanup roomId hrun =>
    refine ⟨h.nodup.sublist (List.Sublist.append filter_sublist (List.Sublist.refl _)),
      fun r hr => ?_⟩
    obtain ⟨hr, hne⟩ := mem_filter.mp hr
    exact Finset.mem_erase.mpr ⟨by simpa using hne, h.pending r hr⟩

end

/-! ### Every run -/

structure Sound (interval : ℕ) (s : Scheduler) : Prop where
  /-- Outside of tasks the queue and the dirty rooms are the same rooms. -/
  queue : s.running = none → ∀ r, r ∈ s.pendingDownlinkRooms ↔ r ∈ s.dirtyDownlinkRooms
  /-- Outside of tasks, if there is something to plan, planning is active and the task with the
  current token is posted. -/
  awake : s.running = none → s.pendingDownlinkRooms ≠ [] →
    s.downlinkPlanningActive = true ∧ s.downlinkPlanningScheduleToken ∈ s.outstanding
  /-- When all tasks have run, no room is owed a pass. -/
  planned : s.running = none → s.outstanding = [] → s.owed = ∅
  /-- A room that is owed a pass gets it from the task with the current token, once its time has
  come. -/
  catches : s.running = none → ∀ r ∈ s.owed, ∀ nowMs,
    (s.planState r).nextEligiblePlanAtMs ≤ nowMs → ∀ es,
    (runFrom (Scheduler.step interval) s
      (.runTask s.downlinkPlanningScheduleToken nowMs :: es)).running = none →
    PlannedSince s.log nowMs r
      (runFrom (Scheduler.step interval) s (.runTask s.downlinkPlanningScheduleToken nowMs :: es))
  /-- Two passes of a room that is not cleaned up between them are spaced by the interval. -/
  spaced : ∀ newest newer older r (t t' : ℤ),
    s.log = newest ++ .pass r t' :: (newer ++ .pass r t :: older) → .cleanup r ∉ newer →
    t + interval ≤ t'

theorem Inv.sound (h : s.Inv interval) : s.Sound interval where
  queue hrun r := ⟨h.pending hrun r, h.dirty r⟩
  awake hrun hne := by
    have hact := h.active (.inr hne)
    exact ⟨hact, h.posted hrun hact⟩
  planned hrun hout := by
    refine Finset.eq_empty_of_forall_notMem fun r hr => ?_
    have hpend := h.owed_of_idle hrun r hr
    have hpost := h.posted hrun (h.active (.inr (ne_nil_of_mem hpend)))
    rw [hout] at hpost
    cases hpost
  catches hrun r hr nowMs helig es hdone :=
    h.plans_eligible hrun (h.owed_of_idle hrun r hr) helig es hdone
  spaced newest newer older r t t' hlog hnewer := by
    have hspace := h.spaced
    rw [hlog] at hspace
    exact hspace.gap hnewer

end Scheduler

def deferredOnce : List SchedulerEvent :=
  [.mark "A", .runTask 1 1000, .next 1000, .endPass false, .next 1000, .mark "A", .mark "B",
    .runTask 2 1050, .next 1050, .next 1050]

/-- **A room can be in the queue twice**: the pass for the other room marks it again, and the
task defers it a second time. -/
theorem room_pending_twice :
    let s := runFrom (Scheduler.step 100) {}
      (deferredOnce ++ [.mark "A", .endPass false, .next 1050, .next 1050])
    s.running = none ∧ s.pendingDownlinkRooms = ["A", "A"] := by
  decide

/-- **No wake-up is lost.**  In every interleaving of marks, tasks in any order, passes that mark
rooms or throw, and clean-ups, the queue is what is dirty, a task is posted for it, and passes
are spaced; and outside of tasks the queue has no room twice, provided that no pass marks a room
dirty that its task has deferred before. -/
theorem planning_scheduler_sound (interval : ℕ) (es : List SchedulerEvent) :
    (runFrom (Scheduler.step interval) {} es).Sound interval ∧
      (StepsMeet (Scheduler.step interval) Scheduler.NoRemark {} es →
        (runFrom (Scheduler.step interval) {} es).running = none →
        (runFrom (Scheduler.step interval) {} es).pendingDownlinkRooms.Nodup) := by
  constructor
  · have hstep := fun s e (h : Scheduler.Inv interval s) =>
      h.step (step_transition interval s e)
    exact (runFrom_inv (Scheduler.Inv interval) hstep es {} .init).sound
  intro hmeet _
  have hstep := fun s e (h : Scheduler.Distinct s) (he : s.NoRemark e) =>
    h.step he (step_transition interval s e)
  have hdist := StepsMeet.inv Scheduler.Distinct hstep es {} hmeet
    ⟨nodup_nil, fun r hr => by cases hr⟩
  exact (nodup_append.mp hdist.nodup).1

/-- Without that mark the room is there once. -/
theorem planning_scheduler_sound_deferredOnce :
    StepsMeet (Scheduler.step 100) Scheduler.NoRemark {}
        (deferredOnce ++ [.endPass true, .next 1050]) ∧
      (runFrom (Scheduler.step 100) {} (deferredOnce ++ [.endPass true, .next 1050])).running =
        none ∧
      (runFrom (Scheduler.step 100) {}
        (deferredOnce ++ [.endPass true, .next 1050])).pendingDownlinkRooms.Nodup := by
  have hmeet : StepsMeet (step 100) Scheduler.NoRemark {}
      (deferredOnce ++ [.endPass true, .next 1050]) := by
    decide
  have hrun : (runFrom (step 100) {}
      (deferredOnce ++ [.endPass true, .next 1050])).running = none := by
    decide
  exact ⟨hmeet, hrun, (planning_scheduler_sound 100 _).2 hmeet hrun⟩

end MediasoupCpp
