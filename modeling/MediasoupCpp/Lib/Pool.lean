import Mathlib.Algebra.BigOperators.Group.List.Basic
import Mathlib.Algebra.Order.Group.Multiset

/-!
# Threads over a shared state

A thread has a state of its own and takes atomic steps that read and write the shared state; which
thread steps next is up to the scheduler.  A step is given by what it does to the shared state and
to the thread itself, so an argument about it is about these two alone; what is here carries it
over to the whole pool.

## Main results

* `Pool.total_run` — **what one step conserves is conserved in the pool**, and the same for what
  does not get less.
-/

structure Pool (σ τ : Type*) where
  shared : σ
  threads : List τ

namespace Pool

open List

variable {σ τ ι M : Type*}

def run (next : σ → τ → ι → σ × τ) (i : ℕ) (x : ι) (p : Pool σ τ) : Pool σ τ :=
  match p.threads[i]? with
  | none => p
  | some t => ⟨(next p.shared t x).1, p.threads.set i (next p.shared t x).2⟩

def total [AddMonoid M] (g : σ → M) (f : τ → M) (p : Pool σ τ) : M :=
  g p.shared + (p.threads.map f).sum

variable {next : σ → τ → ι → σ × τ} {i : ℕ} {x : ι} {p : Pool σ τ} {t t' : τ}

section

variable (ht : p.threads[i]? = some t)
include ht

theorem run_eq :
    p.run next i x = ⟨(next p.shared t x).1, p.threads.set i (next p.shared t x).2⟩ := by
  rw [run, ht]

theorem mem_run : (next p.shared t x).2 ∈ (p.run next i x).threads := by
  rw [run_eq ht]
  exact mem_set (List.getElem?_eq_some_iff.mp ht).1 _

theorem mem_run_of_ne (hne : t' ≠ t) (h : t' ∈ p.threads) : t' ∈ (p.run next i x).threads := by
  obtain ⟨j, hj⟩ := mem_iff_getElem?.mp h
  have hij : i ≠ j := by
    rintro rfl
    exact hne (Option.some.inj (hj.symm.trans ht))
  rw [run_eq ht]
  exact mem_iff_getElem?.mpr ⟨j, by rwa [List.getElem?_set_ne hij]⟩

theorem mem_of_mem_run (h : t' ∈ (p.run next i x).threads) :
    t' = (next p.shared t x).2 ∨ t' ∈ p.threads := by
  rw [run_eq ht] at h
  exact (mem_or_eq_of_mem_set h).symm

end

theorem exists_frame [AddCommMonoid M] (g : σ → M) (f : τ → M) (ht : p.threads[i]? = some t) :
    ∃ m, total g f p = g p.shared + f t + m ∧ total g f (p.run next i x) =
        g (next p.shared t x).1 + f (next p.shared t x).2 + m := by
  obtain ⟨hi, rfl⟩ := List.getElem?_eq_some_iff.mp ht
  -- the list of the threads, cut at the one that steps
  have hcut : ∀ t', ((p.threads.set i t').map f).sum =
      f t' + (((p.threads.take i).map f).sum + ((p.threads.drop (i + 1)).map f).sum) := by
    intro t'
    rw [set_eq_take_append_cons_drop, if_pos hi]
    simp only [map_append, map_cons, sum_append, sum_cons]
    exact add_left_comm _ _ _
  refine ⟨((p.threads.take i).map f).sum + ((p.threads.drop (i + 1)).map f).sum, ?_, ?_⟩
  · have hself := hcut p.threads[i]
    rw [set_getElem_self hi] at hself
    rw [total, hself, add_assoc]
  · rw [run_eq ht, total, hcut, add_assoc]

theorem total_run [AddCommMonoid M] {g : σ → M} {f : τ → M} (ht : p.threads[i]? = some t)
    (hstep : g (next p.shared t x).1 + f (next p.shared t x).2 = g p.shared + f t) :
    total g f (p.run next i x) = total g f p := by
  obtain ⟨_, hp, hrun⟩ := exists_frame g f ht
  rw [hp, hrun, hstep]

theorem total_le_run [AddCommMonoid M] [Preorder M] [AddLeftMono M] [AddRightMono M]
    {g : σ → M} {f : τ → M} (ht : p.threads[i]? = some t)
    (hstep : g p.shared + f t ≤ g (next p.shared t x).1 + f (next p.shared t x).2) :
    total g f p ≤ total g f (p.run next i x) := by
  obtain ⟨m, hp, hrun⟩ := exists_frame g f ht
  rw [hp, hrun]
  exact add_le_add_left hstep m

theorem total_spawn [AddCommMonoid M] (g : σ → M) (f : τ → M) (s : σ) (t : τ) :
    total g f ⟨s, p.threads ++ [t]⟩ = total g f ⟨s, p.threads⟩ + f t := by
  simp only [total, map_append, map_singleton, sum_append, sum_singleton, add_assoc]

theorem total_add [AddCommMonoid M] (g g' : σ → M) (f f' : τ → M) (p : Pool σ τ) :
    total (fun s => g s + g' s) (fun t => f t + f' t) p = total g f p + total g' f' p := by
  rw [total, sum_map_add, add_add_add_comm]
  rfl

theorem mem_total {α : Type*} {g : σ → Multiset α} {f : τ → Multiset α} {a : α} :
    a ∈ total g f p ↔ a ∈ g p.shared ∨ ∃ t ∈ p.threads, a ∈ f t := by
  have hsum : ∀ l : List τ, a ∈ (l.map f).sum ↔ ∃ t ∈ l, a ∈ f t := by
    intro l
    induction l with
    | nil => simp
    | cons t l ih => simp [ih]
  rw [total, Multiset.mem_add, hsum]

end Pool
