import Mathlib.Data.Nat.Notation
import Mathlib.Logic.Function.Basic

/-!
# Runs of an event-driven system

A system is a state type `σ`, an event type `ε` and a total step function: an event that is not
enabled leaves the state alone, so an interleaving of the system's parties is simply a list of
events.  A side condition on a run is a predicate on single steps — the state before the step and
the event taken — that every step of the run has to meet.

## Main results

* `StepsMeet.inv` — **the invariant rule for runs whose steps meet a condition**.
-/

namespace Runs

variable {σ ε : Type*} {step : σ → ε → σ} {ok : σ → ε → Prop}

def runFrom (step : σ → ε → σ) (s : σ) (es : List ε) : σ := es.foldl step s

def StepsMeet (step : σ → ε → σ) (ok : σ → ε → Prop) : σ → List ε → Prop
  | _, [] => True
  | s, e :: es => ok s e ∧ StepsMeet step ok (step s e) es

variable (s : σ)

@[simp] theorem runFrom_nil : runFrom step s [] = s := rfl

@[simp] theorem runFrom_cons (e : ε) (es : List ε) :
    runFrom step s (e :: es) = runFrom step (step s e) es := rfl

theorem runFrom_append (es es' : List ε) :
    runFrom step s (es ++ es') = runFrom step (runFrom step s es) es' :=
  List.foldl_append

theorem runFrom_concat (es : List ε) (e : ε) :
    runFrom step s (es ++ [e]) = step (runFrom step s es) e := by
  rw [runFrom_append, runFrom_cons, runFrom_nil]

@[simp] theorem stepsMeet_nil : StepsMeet step ok s [] := trivial

@[simp] theorem stepsMeet_cons (e : ε) (es : List ε) :
    StepsMeet step ok s (e :: es) ↔ ok s e ∧ StepsMeet step ok (step s e) es := Iff.rfl

theorem stepsMeet_append (es es' : List ε) : StepsMeet step ok s (es ++ es')
      ↔ StepsMeet step ok s es ∧ StepsMeet step ok (runFrom step s es) es' := by
  induction es generalizing s with
  | nil => simp
  | cons e es ih => simp [ih, and_assoc]

/-- Whether a given run meets a decidable condition can be evaluated. -/
instance StepsMeet.decidable (step : σ → ε → σ) (ok : σ → ε → Prop)
    [∀ s e, Decidable (ok s e)] : ∀ s es, Decidable (StepsMeet step ok s es)
  | _, [] => .isTrue trivial
  | s, e :: es =>
    have := StepsMeet.decidable step ok (step s e) es
    inferInstanceAs (Decidable (_ ∧ _))

variable {es : List ε} {ok' : σ → ε → Prop} {s : σ}

theorem StepsMeet.mono (himp : ∀ s e, ok s e → ok' s e) (h : StepsMeet step ok s es) :
    StepsMeet step ok' s es := by
  induction es generalizing s with
  | nil => trivial
  | cons e es ih => exact ⟨himp s e h.1, ih h.2⟩

theorem StepsMeet.and (h : StepsMeet step ok s es) (h' : StepsMeet step ok' s es) :
    StepsMeet step (fun s e => ok s e ∧ ok' s e) s es := by
  induction es generalizing s with
  | nil => trivial
  | cons e es ih => exact ⟨⟨h.1, h'.1⟩, ih h.2 h'.2⟩

theorem stepsMeet_of_forall {P : ε → Prop} (h : ∀ e ∈ es, P e) (s : σ) :
    StepsMeet step (fun _ e => P e) s es := by
  induction es generalizing s with
  | nil => trivial
  | cons e es ih =>
    exact ⟨h e List.mem_cons_self, ih (fun e he => h e (List.mem_cons_of_mem _ he)) _⟩

theorem StepsMeet.forall_mem {P : ε → Prop} (h : StepsMeet step (fun _ e => P e) s es) :
    ∀ e ∈ es, P e := by
  induction es generalizing s with
  | nil => exact fun _ he => absurd he List.not_mem_nil
  | cons e es ih => exact List.forall_mem_cons.mpr ⟨h.1, ih h.2⟩

theorem runFrom_inv (inv : σ → Prop) (hstep : ∀ s e, inv s → inv (step s e)) :
    ∀ (es : List ε) (s : σ), inv s → inv (runFrom step s es) := by
  intro es
  induction es with
  | nil => intro s hs; exact hs
  | cons e es ih => intro s hs; exact ih (step s e) (hstep s e hs)

theorem StepsMeet.inv (inv : σ → Prop) (hstep : ∀ s e, inv s → ok s e → inv (step s e)) :
    ∀ (es : List ε) (s : σ), StepsMeet step ok s es → inv s → inv (runFrom step s es) := by
  intro es
  induction es with
  | nil => intro s _ hs; exact hs
  | cons e es ih =>
    intro s hmeet hs
    exact ih (step s e) hmeet.2 (hstep s e hs hmeet.1)

theorem exists_runFrom_of_lt {goal : σ → Prop} (inv : σ → Prop) (μ : σ → ℕ)
    (hstep : ∀ s, inv s → ¬goal s → ∃ e, ok s e ∧ inv (step s e) ∧ μ (step s e) < μ s) (s : σ)
    (hs : inv s) : ∃ es, StepsMeet step ok s es ∧ goal (runFrom step s es) := by
  -- strong induction on the measure
  induction hn : μ s using Nat.strongRecOn generalizing s with
  | ind n ih =>
    by_cases hgoal : goal s
    · exact ⟨[], trivial, hgoal⟩
    obtain ⟨e, he, hinv, hlt⟩ := hstep s hs hgoal
    obtain ⟨es, hes, hend⟩ := ih _ (hn ▸ hlt) (step s e) hinv rfl
    exact ⟨e :: es, ⟨he, hes⟩, hend⟩

theorem StepsMeet.last {e : ε} (h : StepsMeet step ok s (es ++ [e])) :
    StepsMeet step ok s es ∧ ok (runFrom step s es) e := by
  rw [stepsMeet_append] at h
  exact ⟨h.1, h.2.1⟩

theorem StepsMeet.take (h : StepsMeet step ok s es) (n : ℕ) : StepsMeet step ok s (es.take n) := by
  rw [← List.take_append_drop n es, stepsMeet_append] at h
  exact h.1

theorem stepsMeet_congr (inv : σ → Prop) (hstep : ∀ s e, inv s → inv (step s e))
    (hok : ∀ s e, inv s → (ok s e ↔ ok' s e)) :
    ∀ (es : List ε) (s : σ), inv s → (StepsMeet step ok s es ↔ StepsMeet step ok' s es) := by
  intro es
  induction es with
  | nil => intro s _; exact Iff.rfl
  | cons e es ih =>
    intro s hs
    exact and_congr (hok s e hs) (ih (step s e) (hstep s e hs))

theorem runFrom_iff_stepsMeet {P : σ → Prop} (inv : σ → Prop)
    (hstep : ∀ s e, inv s → inv (step s e)) (hok : ∀ s e, inv s → (P (step s e) ↔ P s ∧ ok s e)) :
    ∀ (es : List ε) (s : σ), inv s → (P (runFrom step s es) ↔ P s ∧ StepsMeet step ok s es) := by
  intro es
  induction es with
  | nil => intro s _; simp
  | cons e es ih =>
    intro s hs
    rw [runFrom_cons, ih _ (hstep s e hs), hok s e hs, stepsMeet_cons, and_assoc]

theorem StepsMeet.forall_take_iff {dom : σ → ε → Prop} {P : σ → Prop} (inv : σ → Prop)
    (hstep : ∀ s e, inv s → dom s e → inv (step s e))
    (hok : ∀ s e, inv s → dom s e → P s → (P (step s e) ↔ ok s e)) :
    ∀ (es : List ε) (s : σ), StepsMeet step dom s es → inv s → P s →
      ((∀ n, P (runFrom step s (es.take n))) ↔ StepsMeet step ok s es) := by
  intro es
  induction es with
  | nil => intro s _ _ hP; simp [hP]
  | cons e es ih =>
    intro s hdom hs hP
    have hrest := ih (step s e) hdom.2 (hstep s e hs hdom.1)
    constructor
    · intro hall
      have hnext : P (step s e) := by simpa using hall 1
      exact ⟨(hok s e hs hdom.1 hP).mp hnext, (hrest hnext).mp fun n => by simpa using hall (n + 1)⟩
    rintro ⟨hmeet, hmeets⟩ n
    have hnext : P (step s e) := (hok s e hs hdom.1 hP).mpr hmeet
    cases n with
    | zero => exact hP
    | succ n => exact (hrest hnext).mpr hmeets n

theorem forall_take_iff_stepsMeet {P : σ → Prop} (inv : σ → Prop)
    (hstep : ∀ s e, inv s → inv (step s e))
    (hok : ∀ s e, inv s → P s → (P (step s e) ↔ ok s e)) (es : List ε) (s : σ) (hs : inv s)
    (hP : P s) : (∀ n, P (runFrom step s (es.take n))) ↔ StepsMeet step ok s es :=
  @StepsMeet.forall_take_iff _ _ step ok (fun _ _ => True) P inv (fun s e h _ => hstep s e h)
    (fun s e h _ => hok s e h) es s (stepsMeet_of_forall (fun _ _ => trivial) s) hs hP

theorem forall_take_iff_of_stronger {P : σ → Prop} (Q : σ → Prop) (hQ : ∀ s, Q s → P s)
    (hkeep : ∀ s e, Q s → ok s e → Q (step s e)) (hseen : ∀ s e, Q s → P (step s e) → ok s e) :
    ∀ (es : List ε) (s : σ), Q s →
      ((∀ n, P (runFrom step s (es.take n))) ↔ StepsMeet step ok s es) := by
  intro es s hs
  constructor
  · intro hall
    induction es generalizing s with
    | nil => trivial
    | cons e es ih =>
      have hmeet : ok s e := hseen s e hs (by simpa using hall 1)
      exact ⟨hmeet, ih (step s e) (hkeep s e hs hmeet) fun n => by simpa using hall (n + 1)⟩
  · intro hmeets n
    exact hQ _ (StepsMeet.inv Q hkeep (es.take n) s (hmeets.take n) hs)

end Runs
