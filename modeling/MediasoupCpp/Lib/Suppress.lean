import Mathlib.Data.List.Basic

/-!
# Suppressing actions that change nothing

A list of actions is worked through from a state.  An action that is redundant in the state
reached so far is left out, the others are emitted and carried out.

## Main results

* `Suppress.view_run` — **it looks as the one all actions lead to**.
-/

namespace Suppress

variable {σ α τ : Type} {redundant : α → σ → Bool} {apply : σ → α → σ} {s : σ} {a : α}
  {actions : List α}

def run (redundant : α → σ → Bool) (apply : σ → α → σ) : σ → List α → List α × σ
  | s, [] => ([], s)
  | s, a :: actions =>
    if redundant a s then run redundant apply s actions
    else
      let (emitted, s') := run redundant apply (apply s a) actions
      (a :: emitted, s')

theorem run_cons_of_pos (h : redundant a s) :
    run redundant apply s (a :: actions) = run redundant apply s actions := by
  rw [run, if_pos h]

theorem run_cons_of_neg (h : redundant a s = false) : run redundant apply s (a :: actions) =
      (a :: (run redundant apply (apply s a) actions).1,
        (run redundant apply (apply s a) actions).2) := by
  rw [run, if_neg (by simp [h])]

theorem run_snd :
    (run redundant apply s actions).2 = (run redundant apply s actions).1.foldl apply s := by
  induction actions generalizing s with
  | nil => rfl
  | cons a actions ih =>
    cases h : redundant a s with
    | true => rw [run_cons_of_pos h, ih]
    | false =>
      rw [run_cons_of_neg h]
      exact ih

theorem run_fst_sublist : (run redundant apply s actions).1.Sublist actions := by
  induction actions generalizing s with
  | nil => exact .slnil
  | cons a actions ih =>
    cases h : redundant a s with
    | true =>
      rw [run_cons_of_pos h]
      exact ih.cons a
    | false =>
      rw [run_cons_of_neg h]
      exact ih.cons_cons a

theorem view_run (view : σ → τ)
    (hview : ∀ a s s', view s = view s' → view (apply s a) = view (apply s' a))
    (hred : ∀ a s, redundant a s → view (apply s a) = view s) :
    view (run redundant apply s actions).2 = view (actions.foldl apply s) := by
  -- the state reached and the one all actions lead to may differ, but look the same
  have hrun : ∀ s', view s = view s' →
      view (run redundant apply s actions).2 = view (actions.foldl apply s') := by
    induction actions generalizing s with
    | nil => exact fun s' hs => hs
    | cons a actions ih =>
      intro s' hs
      cases h : redundant a s with
      | true =>
        rw [run_cons_of_pos h]
        exact ih _ ((hred a s h).symm.trans (hview a s s' hs))
      | false =>
        rw [run_cons_of_neg h]
        exact ih _ (hview a s s' hs)
  exact hrun s rfl

theorem run_of_redundant (h : ∀ a ∈ actions, redundant a s) :
    run redundant apply s actions = ([], s) := by
  induction actions with
  | nil => rfl
  | cons a actions ih =>
    rw [List.forall_mem_cons] at h
    rw [run_cons_of_pos h.1, ih h.2]

theorem mem_run (h : ∀ s, redundant a s = false) (hmem : a ∈ actions) :
    a ∈ (run redundant apply s actions).1 := by
  induction actions generalizing s with
  | nil => cases hmem
  | cons b actions ih =>
    cases hb : redundant b s with
    | true =>
      rw [run_cons_of_pos hb]
      rcases List.mem_cons.mp hmem with rfl | hmem
      · rw [h s] at hb
        cases hb
      · exact ih hmem
    | false =>
      rw [run_cons_of_neg hb]
      rcases List.mem_cons.mp hmem with rfl | hmem
      · exact List.mem_cons_self
      · exact List.mem_cons_of_mem _ (ih hmem)

end Suppress
