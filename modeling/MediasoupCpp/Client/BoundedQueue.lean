import MediasoupCpp.Lib.Run
import Mathlib.Data.List.Basic

/-!
# Bounded queues

Each operation of a queue is one critical section, so what its threads do is a list of operations.

Main result: `boundedQueue_spec`.

Source: `webrtc_qos_plain_client/common/BoundedQueue.h`.
-/

namespace MediasoupCpp

open List Runs

variable {α : Type*}

structure BoundedQueue (α : Type*) where
  capacity : ℕ
  items : List α := []
  closed : Bool := false
  pushed : ℕ := 0
  popped : ℕ := 0
  dropped : ℕ := 0
  maxDepth : ℕ := 0

namespace BoundedQueue

variable (q : BoundedQueue α)

def pushDropOldest (value : α) : BoundedQueue α × Bool :=
  if q.closed then (q, false)
  else
    let evicted := if q.capacity ≤ q.items.length then 1 else 0
    let items := q.items.drop evicted ++ [value]
    ({ q with
      items
      dropped := q.dropped + evicted
      maxDepth := max q.maxDepth items.length
      pushed := q.pushed + 1 }, true)

def tryPop : BoundedQueue α × Option α :=
  match q.items with
  | [] => (q, none)
  | item :: items => ({ q with items, popped := q.popped + 1 }, some item)

/-- Nothing as long as it waits. -/
def pop : Option (BoundedQueue α × Option α) :=
  if q.closed || !q.items.isEmpty then some q.tryPop else none

/-- The wait ends when something can be popped or the time is over. -/
def popFor : BoundedQueue α × Option α := q.tryPop

end BoundedQueue

open BoundedQueue

inductive QueueEvent (α : Type*)
  | pushDropOldest (value : α)
  | pop
  | popFor
  | tryPop
  | close

/-- A queue with what was pushed, popped and dropped, the last with the items it made room for. -/
structure QueueRun (α : Type*) where
  queue : BoundedQueue α
  pushes : List α := []
  pops : List α := []
  drops : List (α × List α) := []

namespace QueueRun

def init (capacity : ℕ) : QueueRun α := { queue.capacity := if capacity = 0 then 1 else capacity }

variable (r : QueueRun α)

def push (value : α) : QueueRun α :=
  let (queue, ok) := r.queue.pushDropOldest value
  { r with
    queue
    pushes := r.pushes ++ if ok then [value] else []
    drops := r.drops ++
      (r.queue.items.take (queue.dropped - r.queue.dropped)).map (·, queue.items) }

def take (out : BoundedQueue α × Option α) : QueueRun α :=
  { r with queue := out.1, pops := r.pops ++ out.2.toList }

def step : QueueEvent α → QueueRun α
  | .pushDropOldest value => r.push value
  | .pop => (r.queue.pop.map r.take).getD r
  | .popFor => r.take r.queue.popFor
  | .tryPop => r.take r.queue.tryPop
  | .close => { r with queue.closed := true }

/-- What was pushed before the items of the queue was popped or dropped. -/
structure Inv (capacity : ℕ) (r : QueueRun α) : Prop where
  capacity_eq : r.queue.capacity = max 1 capacity
  depth : r.queue.items.length ≤ r.queue.capacity
  counts : r.queue.pushed = r.pushes.length ∧ r.queue.popped = r.pops.length ∧
    r.queue.dropped = r.drops.length
  conserved : r.queue.pushed = r.queue.popped + r.queue.dropped + r.queue.items.length
  ordered : ∃ older, r.pops <+ older ∧ r.pushes = older ++ r.queue.items
  dropped : ∀ item ∈ r.drops, item.2.length = r.queue.capacity ∧ item.1 :: item.2 <:+: r.pushes

variable {capacity : ℕ} {r : QueueRun α}

theorem Inv.push (h : r.Inv capacity) (value : α) : (r.push value).Inv capacity := by
  unfold QueueRun.push pushDropOldest
  by_cases hcl : r.queue.closed
  · simpa [hcl] using h
  rw [if_neg hcl]
  obtain ⟨hcap, hdepth, hcnts, hcons, ⟨older, hpops, hpush⟩, hdrop⟩ := h
  dsimp only
  rw [Nat.add_sub_cancel_left, if_pos rfl]
  generalize hevicted : (if r.queue.capacity ≤ r.queue.items.length then 1 else 0) = evicted
  have hcs : evicted = 1 ∧ r.queue.items.length = r.queue.capacity ∨
      evicted = 0 ∧ r.queue.items.length < r.queue.capacity := by
    split at hevicted <;> omega
  have hlen : (r.queue.items.drop evicted ++ [value]).length =
      r.queue.items.length - evicted + 1 := by simp
  refine ⟨hcap, ?_, ?_, ?_, ⟨older ++ r.queue.items.take evicted, ?_, ?_⟩, ?_⟩
  · dsimp only
    omega
  · simp
    omega
  · dsimp only
    omega
  · exact hpops.trans (sublist_append_left ..)
  · rw [hpush, append_assoc, append_assoc, ← append_assoc (List.take ..), take_append_drop]
  rw [forall_mem_append, forall_mem_map]
  refine ⟨fun item hitem => ?_, fun oldest holdest => ?_⟩
  · exact (hdrop item hitem).imp_right (·.trans (prefix_append ..).isInfix)
  obtain ⟨rfl, hfull⟩ | ⟨rfl, -⟩ := hcs
  · refine ⟨by dsimp only; omega, older, [], ?_⟩
    cases hits : r.queue.items with
    | nil => simp [hits] at holdest
    | cons item items =>
      rw [hits] at holdest
      simp [hpush, hits, mem_singleton.mp holdest]
  · cases holdest

theorem Inv.take (h : r.Inv capacity) : (r.take r.queue.tryPop).Inv capacity := by
  unfold QueueRun.take tryPop
  split
  · simpa using h
  rename_i item items hits
  obtain ⟨hcap, hdepth, hcnts, hcons, ⟨older, hpops, hpush⟩, hdrop⟩ := h
  rw [hits] at hdepth hcons hpush
  rw [length_cons] at hdepth hcons
  refine ⟨hcap, Nat.le_of_succ_le hdepth, by simp [hcnts], ?_,
    ⟨older ++ [item], hpops.append_right _, by simp [hpush]⟩, hdrop⟩
  dsimp only
  omega

theorem step_pop (r : QueueRun α) : r.step .pop = r.take r.queue.tryPop := by
  unfold step pop tryPop
  cases r.queue.items <;> cases r.queue.closed <;> simp [take]

theorem Inv.step (h : r.Inv capacity) (e : QueueEvent α) : (r.step e).Inv capacity := by
  cases e with
  | pushDropOldest value => exact h.push value
  | pop => exact r.step_pop ▸ h.take
  | popFor | tryPop => exact h.take
  | close => exact ⟨h.1, h.2, h.3, h.4, h.5, h.6⟩

theorem inv_init (capacity : ℕ) : (init capacity : QueueRun α).Inv capacity := by
  refine ⟨?_, Nat.zero_le _, ⟨rfl, rfl, rfl⟩, rfl, ⟨[], .slnil, rfl⟩, nofun⟩
  unfold init
  dsimp only
  split <;> omega

theorem closed_step (e : QueueEvent α) (h : r.queue.closed) : (r.step e).queue.closed := by
  have htake : (r.take r.queue.tryPop).queue.closed := by
    unfold take tryPop
    split <;> exact h
  cases e with
  | pushDropOldest value => simp [step, push, pushDropOldest, h]
  | pop => exact r.step_pop ▸ htake
  | popFor | tryPop => exact htake
  | close => rfl

theorem closed_of_mem {es : List (QueueEvent α)} (h : .close ∈ es) :
    (runFrom step r es).queue.closed := by
  obtain ⟨before, after, rfl⟩ := append_of_mem h
  rw [runFrom_append, runFrom_cons]
  exact runFrom_inv (fun r : QueueRun α => r.queue.closed) (fun _ e => closed_step e) _ _ rfl

theorem pops_all (r : QueueRun α) :
    (runFrom step r (replicate r.queue.items.length .pop)).pops = r.pops ++ r.queue.items := by
  generalize hits : r.queue.items = items
  induction items generalizing r with
  | nil => exact (append_nil _).symm
  | cons item items ih =>
    rw [length_cons, replicate_succ, runFrom_cons, step_pop, ih]
    · simp [tryPop, hits, take]
    · simp [tryPop, hits, take]

end QueueRun

/-- **What becomes of the items of a queue**: none is lost, they keep their order, only the oldest
ones give way, and a closed queue takes nothing and gives what it has. -/
theorem boundedQueue_spec (capacity : ℕ) (es : List (QueueEvent α)) :
    let r := runFrom QueueRun.step (.init capacity) es
    let q := r.queue
    q.capacity = max 1 capacity ∧ q.items.length ≤ q.capacity ∧
      q.pushed = q.popped + q.dropped + q.items.length ∧
      (q.pushed = r.pushes.length ∧ q.popped = r.pops.length ∧ q.dropped = r.drops.length) ∧
      r.pops ++ q.items <+ r.pushes ∧
      (∀ item ∈ r.drops, item.2.length = q.capacity ∧ item.1 :: item.2 <:+: r.pushes) ∧
      (.close ∈ es → ∀ value, (q.pushDropOldest value).2 = false) ∧
      (runFrom QueueRun.step r (replicate q.items.length .pop)).pops = r.pops ++ q.items := by
  intro r q
  have h : r.Inv capacity :=
    runFrom_inv (QueueRun.Inv capacity) (fun _ e h => h.step e) es _ (QueueRun.inv_init capacity)
  obtain ⟨older, hpops, hpush⟩ := h.ordered
  refine ⟨h.capacity_eq, h.depth, h.conserved, h.counts, ?_, h.dropped, fun hclose value => ?_,
    r.pops_all⟩
  · rw [hpush]
    exact hpops.append_right _
  · have hcl : q.closed := QueueRun.closed_of_mem hclose
    rw [pushDropOldest, if_pos hcl]

end MediasoupCpp
