import Mathlib.Data.Nat.Notation
import Mathlib.Logic.Relation
import Mathlib.Order.Basic

/-!
# Loops that run until there is nothing left to do

The body of a loop `while (progress) …` either finds something to do and does it, or finds
nothing, and then the loop is over.  It is a function to `Option`.

Main result: `Loop.EndsIn.inv`.
-/

namespace Loop

variable {σ : Type*} {body : σ → Option σ} {s s' : σ}

def EndsIn (body : σ → Option σ) (s s' : σ) : Prop :=
  Relation.ReflTransGen (fun a b => body a = some b) s s' ∧ body s' = none

def iterate (body : σ → Option σ) : ℕ → σ → σ
  | 0, s => s
  | n + 1, s =>
    match body s with
    | none => s
    | some s' => iterate body n s'

def run (body : σ → Option σ) (μ : σ → ℕ) (s : σ) : σ := iterate body (μ s) s

theorem EndsIn.inv (inv : σ → Prop) (hbody : ∀ a b, inv a → body a = some b → inv b)
    (h : EndsIn body s s') (hs : inv s) : inv s' := by
  obtain ⟨hpath, -⟩ := h
  induction hpath with
  | refl => exact hs
  | tail _ hstep ih => exact hbody _ _ ih hstep

theorem EndsIn.unique {a b : σ} (ha : EndsIn body s a) (hb : EndsIn body s b) : a = b := by
  obtain ⟨hpath, hnone⟩ := ha
  induction hpath using Relation.ReflTransGen.head_induction_on with
  | refl =>
    rcases hb.1.cases_head with rfl | ⟨c, hstep, -⟩
    · rfl
    · cases hnone.symm.trans hstep
  | head hstep _ ih =>
    rcases hb.1.cases_head with rfl | ⟨c, hstep', hpath'⟩
    · cases hb.2.symm.trans hstep
    · cases hstep.symm.trans hstep'
      exact ih ⟨hpath', hb.2⟩

variable {μ : σ → ℕ}

section

variable (hμ : ∀ a b, body a = some b → μ b < μ a)
include hμ

theorem endsIn_iterate (n : ℕ) (s : σ) (hn : μ s ≤ n) : EndsIn body s (iterate body n s) := by
  induction n generalizing s with
  | zero =>
    refine ⟨.refl, ?_⟩
    cases hbody : body s with
    | none => exact hbody
    | some s' => exact absurd (hμ s s' hbody) (by omega)
  | succ n ih =>
    rw [iterate]
    cases hbody : body s with
    | none => exact ⟨.refl, hbody⟩
    | some s' =>
      obtain ⟨hpath, hend⟩ := ih s' (by have := hμ s s' hbody; omega)
      exact ⟨.head hbody hpath, hend⟩

theorem endsIn_run (s : σ) : EndsIn body s (run body μ s) :=
  endsIn_iterate hμ (μ s) s (Nat.le_refl _)

theorem run_of_some (h : body s = some s') : run body μ s = run body μ s' :=
  (endsIn_run hμ s).unique ⟨.head h (endsIn_run hμ s').1, (endsIn_run hμ s').2⟩

end

/-- A loop that the invariant allows only `n` rounds ends. -/
theorem iterate_of_rounds (inv : ℕ → σ → Prop)
    (hbody : ∀ k a b, inv k a → body a = some b → inv (k + 1) b) {n : ℕ}
    (hstop : ∀ k a, inv k a → n ≤ k → body a = none) (fuel k : ℕ) (hfuel : n ≤ k + fuel)
    (hs : inv k s) : ∃ k', inv k' (iterate body fuel s) ∧ body (iterate body fuel s) = none := by
  induction fuel generalizing k s with
  | zero => exact ⟨k, hs, hstop k s hs hfuel⟩
  | succ fuel ih =>
    rw [iterate]
    cases hnext : body s with
    | none => exact ⟨k, hs, hnext⟩
    | some s' => exact ih (k + 1) (by omega) (hbody k s s' hs hnext)

section Fold

variable {α β ν : Type*} [Preorder ν] {f : β → α → β} {m : β → ν}

theorem le_foldl (hmono : ∀ b a, m b ≤ m (f b a)) (l : List α) (b : β) : m b ≤ m (l.foldl f b) := by
  induction l generalizing b with
  | nil => exact le_rfl
  | cons a l ih => exact (hmono b a).trans (ih (f b a))

theorem le_foldl_of_mem (hmono : ∀ b a, m b ≤ m (f b a)) {v : ν} {a : α}
    (hv : ∀ b, v ≤ m (f b a)) {l : List α} (ha : a ∈ l) (b : β) : v ≤ m (l.foldl f b) := by
  induction l generalizing b with
  | nil => cases ha
  | cons a' l ih =>
    rcases List.mem_cons.mp ha with rfl | ha
    · exact (hv b).trans (le_foldl hmono l _)
    · exact ih ha _

end Fold

theorem foldl_rel {α β : Type*} {r : β → β → Prop} (hrefl : ∀ b, r b b)
    (htrans : ∀ {a b c}, r a b → r b c → r a c) {f : β → α → β} {l : List α} {b : β}
    (h : ∀ a ∈ l, ∀ b', r b b' → r b' (f b' a)) : r b (l.foldl f b) := by
  have hall : ∀ b', r b b' → r b (l.foldl f b') := by
    induction l with
    | nil => exact fun b' hb' => hb'
    | cons a l ih =>
      intro b' hb'
      exact ih (fun a' ha' => h a' (List.mem_cons_of_mem a ha')) _
        (htrans hb' (h a List.mem_cons_self b' hb'))
  exact hall b (hrefl b)

theorem foldl_iff_or_exists {α β : Type*} {f : β → α → β} (P : β → Prop) (Q : α → Prop)
    (hstep : ∀ b a, P (f b a) ↔ P b ∨ Q a) (l : List α) (b : β) :
    P (l.foldl f b) ↔ P b ∨ ∃ a ∈ l, Q a := by
  induction l generalizing b with
  | nil => simp
  | cons a l ih => simp only [List.foldl_cons, ih, hstep, List.mem_cons, exists_eq_or_imp, or_assoc]

end Loop
