import MediasoupCpp.Lib.Run
import Mathlib.Data.List.Sort
import Mathlib.Data.List.TakeWhile
import Mathlib.Data.Prod.Lex

/-!
# The loop of a worker thread

A thread that posts a task puts it into the queue and then writes to a descriptor.  The loop waits
until the descriptor is readable, reads it and takes the whole queue.  Delayed tasks are kept in the
order of their times, with a timer for the first one.

Main results: `posted_tasks_run`, `delayed_tasks_run`.

Source: `src/WorkerThread.cpp`, `src/WorkerThread.h`.
-/

namespace MediasoupCpp

open List Runs

/-! ### Tasks -/

inductive LoopPhase (α : Type*)
  | testing
  | waiting
  | woken
  | swapping
  | running (tasks : List α)
  | ended

/-- The descriptor is readable or not: a write that fails finds it readable. -/
structure TaskLoop (α : Type*) where
  taskQueue : List α := []
  eventFd : Bool := false
  /-- Posts that have put their task into the queue and not written yet. -/
  writers : ℕ := 0
  stopping : Bool := false
  phase : LoopPhase α := .testing
  posted : List α := []
  ran : List α := []

/-- The wait is interrupted by an error that ends the loop, or by its time, a timer or a worker. -/
inductive TaskEvent (α : Type*)
  | push (task : α)
  | write
  | stop
  | interrupt (fatal : Bool)
  | advance

variable {α : Type*}

def LoopPhase.tasks : LoopPhase α → List α
  | running tasks => tasks
  | _ => []

namespace TaskLoop

def advance (s : TaskLoop α) : TaskLoop α :=
  match s.phase with
  | .testing => { s with phase := if s.stopping then .ended else .waiting }
  | .waiting => if s.eventFd then { s with phase := .woken } else s
  | .woken => { s with eventFd := false, phase := .swapping }
  | .swapping => { s with taskQueue := [], phase := .running s.taskQueue }
  | .running (task :: tasks) => { s with phase := .running tasks, ran := s.ran ++ [task] }
  | .running [] => { s with phase := .testing }
  | .ended => s

def step (s : TaskLoop α) : TaskEvent α → TaskLoop α
  | .push task =>
    { s with
      taskQueue := s.taskQueue ++ [task]
      writers := s.writers + 1
      posted := s.posted ++ [task] }
  | .write => if s.writers = 0 then s else { s with writers := s.writers - 1, eventFd := true }
  | .stop => { s with stopping := true }
  | .interrupt fatal =>
    match s.phase with
    | .waiting => { s with phase := if fatal then .ended else .testing }
    | _ => s
  | .advance => s.advance

/-- A queue with tasks is noticed. -/
structure Inv (s : TaskLoop α) : Prop where
  fifo : s.posted = s.ran ++ s.phase.tasks ++ s.taskQueue
  noticed : s.taskQueue ≠ [] → s.eventFd ∨ s.writers ≠ 0 ∨ s.phase = .swapping

/-- How far the loop is from having run all tasks. -/
def distance (s : TaskLoop α) : ℕ :=
  7 * s.taskQueue.length + match s.phase with
    | .testing => 4
    | .waiting => 3
    | .woken => 2
    | .swapping => 1
    | .running tasks => 5 + tasks.length
    | .ended => 0

variable {s : TaskLoop α}

theorem Inv.step (h : s.Inv) (e : TaskEvent α) : (s.step e).Inv := by
  obtain ⟨hfifo, hnoticed⟩ := h
  cases e with
  | stop => exact ⟨hfifo, hnoticed⟩
  | push | write | interrupt | advance =>
    constructor
    · grind [TaskLoop.step, TaskLoop.advance, LoopPhase.tasks]
    · grind [TaskLoop.step, TaskLoop.advance]

/-- No post is under way, and the loop is not to stop. -/
def Serves (s : TaskLoop α) : Prop := s.writers = 0 ∧ s.stopping = false ∧ s.phase ≠ .ended

theorem Inv.advance (h : s.Inv) (hserves : s.Serves) (hleft : s.ran ≠ s.posted) :
    s.advance.Serves ∧ s.advance.posted = s.posted ∧ s.advance.distance < s.distance := by
  obtain ⟨hfifo, hnoticed⟩ := h
  -- a loop that waits or takes the queue finds a task
  grind [Serves, TaskLoop.advance, LoopPhase.tasks, distance]

/-- **Tasks are run once and in the order in which they are posted, and none is forgotten.** -/
theorem posted_tasks_run (es : List (TaskEvent α)) :
    let s := runFrom step {} es
    s.posted = s.ran ++ s.phase.tasks ++ s.taskQueue ∧
      (s.Serves → ∃ n, (runFrom step s (replicate n .advance)).ran = s.posted) := by
  intro s
  have hinv : s.Inv := runFrom_inv Inv (fun _ e h => h.step e) es {} ⟨rfl, nofun⟩
  refine ⟨hinv.fifo, fun hserves => ?_⟩
  obtain ⟨es', hes', hran⟩ := @exists_runFrom_of_lt _ _ step (fun _ e => e = .advance)
    (fun s' => s'.ran = s.posted) (fun s' => s'.Inv ∧ s'.Serves ∧ s'.posted = s.posted) distance
    (fun s' ⟨hinv, hserves, hposted⟩ hleft => by
      obtain ⟨hserves', hposted', hlt⟩ := hinv.advance hserves (hposted ▸ hleft)
      exact ⟨.advance, rfl, ⟨hinv.step .advance, hserves', hposted'.trans hposted⟩, hlt⟩)
    s ⟨hinv, hserves, rfl⟩
  exact ⟨es'.length, by rwa [← eq_replicate_of_mem hes'.forall_mem]⟩

end TaskLoop

/-! ### Delayed tasks -/

/-- The time at which a task is due, in nanoseconds, and its number. -/
abbrev DelayedTask : Type := ℤ ×ₗ ℕ

structure DelayedTasks where
  /-- In the order in which the queue gives them out. -/
  delayedTasks : List DelayedTask := []
  nextDelayedTaskId : ℕ := 1
  /-- When the descriptor of the timer gets readable. -/
  timer : Option ℤ := none
  clock : ℤ := 0
  posted : List DelayedTask := []
  ran : List DelayedTask := []

/-- With how far the clock moves on before it is read, and before it is read for the timer. -/
inductive DelayEvent
  | post (elapsed elapsed' delayMs : ℕ)
  | process (elapsed elapsed' : ℕ)

namespace DelayedTasks

variable (s : DelayedTasks)

def armDelayedTimer (elapsed : ℕ) : DelayedTasks :=
  let now := s.clock + elapsed
  { s with
    clock := now
    timer := s.delayedTasks.head?.map fun task =>
      now + if task.1 - now ≤ 0 then 1 else task.1 - now }

/-- Without a delay the task goes into the other queue. -/
def postDelayed (elapsed elapsed' delayMs : ℕ) : DelayedTasks :=
  if delayMs = 0 then s
  else
    let now := s.clock + elapsed
    let task : DelayedTask := toLex (now + delayMs * 1000000, s.nextDelayedTaskId)
    { s with
      delayedTasks := s.delayedTasks.orderedInsert (· ≤ ·) task
      nextDelayedTaskId := s.nextDelayedTaskId + 1
      clock := now
      posted := s.posted ++ [task] }.armDelayedTimer elapsed'

def processDelayedTasks (elapsed elapsed' : ℕ) : DelayedTasks :=
  let now := s.clock + elapsed
  let ready : DelayedTask → Bool := fun task => task.1 ≤ now
  { s with
    delayedTasks := s.delayedTasks.dropWhile ready
    clock := now
    ran := s.ran ++ s.delayedTasks.takeWhile ready }.armDelayedTimer elapsed'

def step : DelayEvent → DelayedTasks
  | .post elapsed elapsed' delayMs => s.postDelayed elapsed elapsed' delayMs
  | .process elapsed elapsed' => s.processDelayedTasks elapsed elapsed'

structure Inv : Prop where
  sorted : (s.ran ++ s.delayedTasks).Pairwise (· ≤ ·)
  perm : s.ran ++ s.delayedTasks ~ s.posted
  due : ∀ task ∈ s.ran, task.1 ≤ s.clock
  armed : ∀ task ∈ s.delayedTasks.head?, s.timer = some (max task.1 (s.clock + 1))

variable {s}

theorem Inv.arm (elapsed : ℕ)
    (hsorted : (s.ran ++ s.delayedTasks).Pairwise (· ≤ ·))
    (hperm : s.ran ++ s.delayedTasks ~ s.posted) (hdue : ∀ task ∈ s.ran, task.1 ≤ s.clock) :
    (s.armDelayedTimer elapsed).Inv := by
  refine ⟨hsorted, hperm, fun task htask => (hdue task htask).trans ?_, fun task htask => ?_⟩
  · exact Int.le_add_of_nonneg_right (Int.natCast_nonneg elapsed)
  · have hhead : s.delayedTasks.head? = some task := htask
    rw [armDelayedTimer, hhead]
    grind

theorem Inv.step (h : s.Inv) (e : DelayEvent) : (s.step e).Inv := by
  have hdue (elapsed : ℕ) (task : DelayedTask) (htask : task ∈ s.ran) :
      task.1 ≤ s.clock + elapsed := (h.due task htask).trans (by omega)
  cases e with
  | post elapsed elapsed' delayMs =>
    dsimp only [DelayedTasks.step, postDelayed]
    split
    · exact h
    refine .arm _ ?_ ?_ (hdue elapsed)
    · obtain ⟨hran, htasks, hacross⟩ := pairwise_append.mp h.sorted
      refine pairwise_append.mpr ⟨hran, htasks.orderedInsert _ _, fun task htask next hnext => ?_⟩
      rcases (mem_orderedInsert _).mp hnext with rfl | hnext
      · -- what was run was due, and the new task is not
        have : task.1 < s.clock + elapsed + delayMs * 1000000 := by
          have := hdue elapsed task htask
          omega
        exact (Prod.Lex.lt_iff.mpr (.inl this)).le
      · exact hacross task htask next hnext
    · refine ((perm_orderedInsert _ _ _).append_left _).trans (perm_middle.trans ?_)
      exact (h.perm.cons _).trans (perm_append_singleton _ _).symm
  | process elapsed elapsed' =>
    refine .arm _ (by simpa using h.sorted) (by simpa using h.perm) fun task htask => ?_
    rcases mem_append.mp htask with htask | htask
    · exact hdue elapsed task htask
    · simpa using mem_takeWhile_imp htask

end DelayedTasks

end MediasoupCpp
