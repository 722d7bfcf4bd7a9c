import Mathlib.Algebra.BigOperators.Group.Finset.Piecewise
import Mathlib.Algebra.Order.BigOperators.Group.Finset
import Mathlib.Data.List.Perm.Subperm
import Mathlib.Data.Nat.ModEq
import MediasoupCpp.Client.BoundedQueue
import MediasoupCpp.Lib.Loop

/-!
# Draining the queues of the tracks

Main result: `drainEncodedQueues_spec`.

Source: `webrtc_qos_plain_client/push/PushSdkTransportThread.cpp`.
-/

namespace MediasoupCpp

open List

variable {α : Type*}

structure Drain (α : Type*) where
  trackQueues : ℕ → Option (BoundedQueue α)
  nextDrainIndex : ℕ
  localDrained : ℕ := 0
  madeProgress : Bool := true
  /-- Every push has been successful. -/
  ok : Bool := true
  /-- What each track has given. -/
  popped : ℕ → List α := fun _ => []

def Drain.queued (s : Drain α) (index : ℕ) : List α :=
  ((s.trackQueues index).map (·.items)).getD []

structure DrainCall (α : Type*) where
  push : ℕ → α → Bool
  trackCount : ℕ
  maxItems : ℕ
  startIndex : ℕ

namespace DrainCall

variable (c : DrainCall α)

def drainTrack (s : Drain α) (index : ℕ) : Drain α :=
  if !s.ok || c.maxItems ≤ s.localDrained then s
  else
    match (s.trackQueues index).map (·.tryPop) with
    | some (queue, some item) =>
      let s := { s with
        trackQueues := Function.update s.trackQueues index (some queue)
        madeProgress := true
        popped := Function.update s.popped index (s.popped index ++ [item]) }
      if c.push index item then
        { s with localDrained := s.localDrained + 1, nextDrainIndex := (index + 1) % c.trackCount }
      else { s with ok := false }
    | _ => s

def order : List ℕ :=
  (range c.trackCount).map fun offset => (c.startIndex + offset) % c.trackCount

def drainRound (s : Drain α) : Option (Drain α) :=
  if s.localDrained < c.maxItems ∧ s.madeProgress = true ∧ s.ok = true then
    some (c.order.foldl c.drainTrack { s with madeProgress := false })
  else none

end DrainCall

/-- Each round but the last pushes something. -/
def drainEncodedQueues (push : ℕ → α → Bool) (trackCount maxItems nextDrainIndex : ℕ)
    (trackQueues : ℕ → Option (BoundedQueue α)) : Drain α :=
  let s : Drain α := { trackQueues, nextDrainIndex }
  if trackCount = 0 ∨ maxItems = 0 then s
  else
    let c : DrainCall α := ⟨push, trackCount, maxItems, nextDrainIndex % trackCount⟩
    Loop.iterate c.drainRound maxItems s

namespace DrainCall

variable {c : DrainCall α} {s s' : Drain α} {contents : ℕ → List α} {k index : ℕ} {todo : List ℕ}

theorem perm_order (c : DrainCall α) : c.order.Perm (range c.trackCount) := by
  have hnd : c.order.Nodup := by
    refine nodup_range.map_on fun a ha b hb heq => ?_
    exact (Nat.ModEq.add_left_cancel' _ heq).eq_of_lt_of_lt (mem_range.mp ha) (mem_range.mp hb)
  refine (subperm_of_subset hnd fun index hidx => ?_).perm_of_length_le (by simp [order])
  obtain ⟨offset, hoff, rfl⟩ := mem_map.mp hidx
  exact mem_range.mpr (Nat.mod_lt _ (Nat.zero_lt_of_lt (mem_range.mp hoff)))

/-- A track that has an item gives it. -/
structure Pops (s : Drain α) (index : ℕ) (item : α) (s' : Drain α) : Prop where
  queued : s.queued index = item :: s'.queued index
  popped : s'.popped index = s.popped index ++ [item]
  others : ∀ i ≠ index, s'.queued i = s.queued i ∧ s'.popped i = s.popped i
  drained : s'.localDrained = s.localDrained + 1
  progress : s'.madeProgress = true
  ok : s'.ok = true

/-- Where round `k` stands: the tracks of `todo` are still to come. -/
structure Level (c : DrainCall α) (contents : ℕ → List α) (k : ℕ) (todo : List ℕ) (s : Drain α) :
    Prop where
  ok : s.ok = true
  taken : ∀ i, s.popped i ++ s.queued i = contents i
  total : ∑ i ∈ Finset.range c.trackCount, (s.popped i).length = s.localDrained
  limit : s.localDrained ≤ c.maxItems
  rounds : k ≤ s.localDrained + if s.madeProgress then 0 else 1
  le : ∀ i, (s.popped i).length ≤ k
  ge : ∀ i < c.trackCount, s.queued i ≠ [] → k ≤ (s.popped i).length + 1
  lt_of_mem : ∀ i ∈ todo, (s.popped i).length < k
  done : s.localDrained < c.maxItems → ∀ i < c.trackCount, i ∉ todo → s.queued i ≠ [] →
    s.madeProgress = true ∧ k ≤ (s.popped i).length

section Pushed

variable (hpush : ∀ index item, c.push index item = true)
include hpush

theorem drainTrack_cases (hok : s.ok) :
    (c.drainTrack s index = s ∧ (c.maxItems ≤ s.localDrained ∨ s.queued index = [])) ∨
      s.localDrained < c.maxItems ∧ ∃ item, Pops s index item (c.drainTrack s index) := by
  unfold drainTrack
  by_cases hlim : c.maxItems ≤ s.localDrained
  · exact .inl ⟨by simp [hlim], .inl hlim⟩
  rw [if_neg (by simp [hok, hlim])]
  cases hq : s.trackQueues index with
  | none => exact .inl ⟨rfl, .inr (by simp [Drain.queued, hq])⟩
  | some queue =>
    cases hits : queue.items with
    | nil => exact .inl (by simp [BoundedQueue.tryPop, hits, Drain.queued, hq])
    | cons item items =>
      refine .inr ⟨Nat.lt_of_not_le hlim, item, ?_⟩
      simp only [Option.map_some, BoundedQueue.tryPop, hits, hpush, if_true]
      exact ⟨by simp [Drain.queued, hq, hits], by simp, fun i hi => by simp [Drain.queued, hi], rfl,
        rfl, hok⟩

theorem Level.drainTrack (h : c.Level contents k (index :: todo) s) (hidx : index < c.trackCount)
    (hnew : index ∉ todo) : c.Level contents k todo (c.drainTrack s index) := by
  obtain ⟨heq, hstuck⟩ | ⟨hlt, item, hpops⟩ := drainTrack_cases hpush h.ok
  · rw [heq]
    refine { h with
      lt_of_mem := fun i hi => h.lt_of_mem i (mem_cons_of_mem _ hi)
      done := fun hlt i hi htodo hne => h.done hlt i hi ?_ hne }
    rw [mem_cons, not_or]
    refine ⟨?_, htodo⟩
    rintro rfl
    exact hstuck.elim (Nat.not_le.mpr hlt) hne
  generalize c.drainTrack s index = s' at hpops ⊢
  have hlen : ∀ i, (s'.popped i).length = (s.popped i).length + if i = index then 1 else 0 := by
    intro i
    split
    · simp [*, hpops.popped]
    · simp [hpops.others i ‹_›]
  have hless := h.lt_of_mem index mem_cons_self
  have hge := h.ge index hidx (by simp [hpops.queued])
  refine ⟨hpops.ok, fun i => ?_, ?_, ?_, ?_, fun i => ?_, fun i hi hne => ?_, fun i hi => ?_,
    fun _ i hi htodo hne => ⟨hpops.progress, ?_⟩⟩
  · by_cases hi : i = index
    · rw [hi, hpops.popped, append_assoc, singleton_append, ← hpops.queued, h.taken]
    · rw [(hpops.others i hi).1, (hpops.others i hi).2, h.taken]
  · simp [hlen, Finset.sum_add_distrib, h.total, hidx, hpops.drained]
  · rw [hpops.drained]
    omega
  · have := h.rounds
    rw [hpops.drained, hpops.progress]
    grind
  · have := h.le i
    grind
  · have := h.ge i hi
    grind [hpops.others i]
  · have := h.lt_of_mem i
    grind
  · have := h.done hlt i hi
    grind [hpops.others i]

theorem Level.round (h : c.Level contents k todo s) (htodo : ∀ i ∈ todo, i < c.trackCount)
    (hnd : todo.Nodup) : c.Level contents k [] (todo.foldl c.drainTrack s) := by
  induction todo generalizing s with
  | nil => exact h
  | cons index todo ih =>
    obtain ⟨hidx, htodo⟩ := forall_mem_cons.mp htodo
    obtain ⟨hnew, hnd⟩ := nodup_cons.mp hnd
    exact ih (h.drainTrack hpush hidx hnew) htodo hnd

theorem Level.drainRound (h : c.Level contents k [] s) (hround : c.drainRound s = some s') :
    c.Level contents (k + 1) [] s' := by
  obtain ⟨⟨hlt, hprog, hok⟩, heq⟩ := Option.ite_none_right_eq_some.mp hround
  cases heq
  have hrounds := h.rounds
  rw [hprog] at hrounds
  refine round hpush ⟨hok, h.taken, h.total, h.limit, ?_, fun i => ?_, fun i hi hne => ?_,
    fun i _ => ?_, fun _ i hi htodo => ?_⟩ (fun i hi => mem_range.mp (c.perm_order.mem_iff.mp hi))
    (c.perm_order.nodup_iff.mpr nodup_range)
  · exact Nat.succ_le_succ hrounds
  · exact (h.le i).trans (Nat.le_succ k)
  · exact Nat.succ_le_succ (h.done hlt i hi not_mem_nil hne).2
  · exact Nat.lt_succ_of_le (h.le i)
  · exact absurd (c.perm_order.mem_iff.mpr (mem_range.mpr hi)) htodo

end Pushed

theorem Level.total_eq (h : c.Level contents k [] s)
    (hend : s.localDrained < c.maxItems → ∀ i < c.trackCount, s.queued i = []) :
    s.localDrained = min c.maxItems (∑ i ∈ Finset.range c.trackCount, (contents i).length) := by
  have hle : s.localDrained ≤ ∑ i ∈ Finset.range c.trackCount, (contents i).length := by
    rw [← h.total]
    refine Finset.sum_le_sum fun i _ => ?_
    simp [← h.taken i]
  rcases h.limit.lt_or_eq with hlt | heq
  · have hall : ∑ i ∈ Finset.range c.trackCount, (contents i).length = s.localDrained := by
      rw [← h.total]
      refine Finset.sum_congr rfl fun i hi => ?_
      simp [← h.taken i, hend hlt i (Finset.mem_range.mp hi)]
    omega
  · omega

end DrainCall

/-- **What a drain takes**: the items of each track in order, as many as there are up to the limit,
and about as many of each track that still has some. -/
theorem drainEncodedQueues_spec (push : ℕ → α → Bool) (hpush : ∀ index item, push index item = true)
    (trackCount maxItems nextDrainIndex : ℕ) (trackQueues : ℕ → Option (BoundedQueue α)) :
    let s : Drain α := { trackQueues, nextDrainIndex }
    let s' := drainEncodedQueues push trackCount maxItems nextDrainIndex trackQueues
    (∀ i, s'.popped i ++ s'.queued i = s.queued i) ∧
      ∑ i ∈ Finset.range trackCount, (s'.popped i).length = s'.localDrained ∧
      s'.localDrained = min maxItems (∑ i ∈ Finset.range trackCount, (s.queued i).length) ∧
      ∀ i, ∀ j < trackCount, s'.queued j ≠ [] →
        (s'.popped i).length ≤ (s'.popped j).length + 1 := by
  intro s s'
  let c : DrainCall α := ⟨push, trackCount, maxItems, nextDrainIndex % trackCount⟩
  have hinit : c.Level s.queued 0 [] s :=
    ⟨rfl, fun _ => rfl, by simp [s], Nat.zero_le _, Nat.zero_le _, fun _ => Nat.le_refl _,
      fun _ _ _ => Nat.zero_le _, nofun, fun _ _ _ _ _ => ⟨rfl, Nat.zero_le _⟩⟩
  have hend : ∃ k, c.Level s.queued k [] s' ∧
      (s'.localDrained < maxItems → ∀ i < trackCount, s'.queued i = []) := by
    by_cases hnone : trackCount = 0 ∨ maxItems = 0
    · rw [show s' = s from if_pos hnone]
      exact ⟨0, hinit, fun hlt i hi => by dsimp only [s] at hlt; omega⟩
    have hstop : ∀ k s', c.Level s.queued k [] s' → maxItems ≤ k → c.drainRound s' = none := by
      intro k s' h hk
      refine if_neg fun ⟨hlt, hprog, _⟩ => ?_
      have hrounds := h.rounds
      rw [hprog] at hrounds
      exact absurd (hk.trans hrounds) (Nat.not_le.mpr hlt)
    rw [show s' = Loop.iterate c.drainRound maxItems s from if_neg hnone]
    obtain ⟨k, h, hlast⟩ := Loop.iterate_of_rounds (c.Level s.queued · [])
      (fun _ _ _ h => h.drainRound hpush) hstop maxItems 0 (Nat.le_add_left ..) hinit
    refine ⟨k, h, fun hlt i hi => by_contra fun hne => ?_⟩
    have hprog := (h.done hlt i hi not_mem_nil hne).1
    rw [DrainCall.drainRound, if_pos ⟨hlt, hprog, h.ok⟩] at hlast
    cases hlast
  obtain ⟨k, h, hend⟩ := hend
  exact ⟨h.taken, h.total, h.total_eq hend, fun i j hj hne => (h.le i).trans (h.ge j hj hne)⟩

theorem drainEncodedQueues_spec_two :
    let queue : ℕ → Option (BoundedQueue ℕ) := fun i => some { capacity := 3, items := [i, i, i] }
    let s' := drainEncodedQueues (fun _ _ => true) 2 3 1 queue
    s'.popped 1 = [1, 1] ∧ s'.localDrained = 3 :=
  ⟨by decide, (drainEncodedQueues_spec (fun _ _ => true) (fun _ _ => rfl) 2 3 1 _).2.2.1⟩

end MediasoupCpp
