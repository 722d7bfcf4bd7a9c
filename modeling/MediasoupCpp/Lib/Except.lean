import Mathlib.Data.List.Forall2
import Mathlib.Data.Nat.Notation

/-!
# Computations that may fail

A computation in `Except` stops at its first error.  What is needed to reason about one: what a
sequence of two gives, what a search by a test that may itself fail finds, and what a loop keeps.

Main results: `Except.bind_eq_ok`, `Except.bind_eq_error`.
-/

namespace Except

variable {ε α β σ : Type} {x : Except ε α}

theorem bind_eq_ok {f : α → Except ε β} {b : β} :
    (x >>= f) = .ok b ↔ ∃ a, x = .ok a ∧ f a = .ok b := by
  cases x with
  | error e =>
    refine ⟨fun h => (by cases h), ?_⟩
    rintro ⟨_, h, _⟩
    cases h
  | ok a =>
    refine ⟨fun h => ⟨a, rfl, h⟩, ?_⟩
    rintro ⟨_, h, hf⟩
    cases h
    exact hf

theorem bind_eq_error {f : α → Except ε β} {e : ε} :
    (x >>= f) = .error e ↔ x = .error e ∨ ∃ a, x = .ok a ∧ f a = .error e := by
  cases x with
  | error e' =>
    constructor
    · intro h
      cases h
      exact .inl rfl
    rintro (h | ⟨_, h, _⟩)
    · cases h
      rfl
    · cases h
  | ok a =>
    refine ⟨fun h => .inr ⟨a, rfl, h⟩, ?_⟩
    rintro (h | ⟨_, h, hf⟩)
    · cases h
    · cases h
      exact hf

theorem exists_ok_of_toOption {f : α → β} {b : β} (h : x.toOption.map f = some b) :
    ∃ a, x = .ok a ∧ f a = b := by
  cases x with
  | error e => cases h
  | ok a => exact ⟨a, rfl, Option.some.inj h⟩

section Find

variable {p : α → Except ε Bool} {l : List α} {a : α}

theorem findM?_cons (p : α → Except ε Bool) (a : α) (l : List α) :
    (a :: l).findM? p = (p a >>= fun b => if b then .ok (some a) else l.findM? p) := by
  rw [List.findM?]
  congr 1
  funext b
  cases b <;> rfl

theorem mem_of_findM? (h : l.findM? p = .ok (some a)) : a ∈ l ∧ p a = .ok true := by
  induction l with
  | nil => cases h
  | cons x l ih =>
    rw [findM?_cons, bind_eq_ok] at h
    obtain ⟨b, hb, hrest⟩ := h
    cases b with
    | true =>
      cases hrest
      exact ⟨List.mem_cons_self, hb⟩
    | false => exact ⟨List.mem_cons_of_mem _ (ih hrest).1, (ih hrest).2⟩

theorem findM?_eq_none : l.findM? p = .ok none ↔ ∀ a ∈ l, p a = .ok false := by
  induction l with
  | nil => exact ⟨fun _ _ h => (by cases h), fun _ => rfl⟩
  | cons x l ih =>
    rw [findM?_cons, bind_eq_ok, List.forall_mem_cons, ← ih]
    constructor
    · rintro ⟨b, hb, hrest⟩
      cases b with
      | true => cases hrest
      | false => exact ⟨hb, hrest⟩
    · rintro ⟨hb, hrest⟩
      exact ⟨false, hb, hrest⟩

end Find

section Map

variable {f : α → Except ε β} {l : List α}

theorem mapM_eq_ok {bs : List β} :
    l.mapM f = .ok bs ↔ List.Forall₂ (fun a b => f a = .ok b) l bs := by
  induction l generalizing bs with
  | nil =>
    rw [List.mapM_nil, List.forall₂_nil_left_iff]
    exact ⟨fun h => by cases h; rfl, fun h => by rw [h]; rfl⟩
  | cons a l ih =>
    rw [List.mapM_cons, bind_eq_ok, List.forall₂_cons_left_iff]
    constructor
    · rintro ⟨b, hb, hrest⟩
      obtain ⟨bs', hbs', heq⟩ := bind_eq_ok.mp hrest
      cases heq
      exact ⟨b, bs', hb, ih.mp hbs', rfl⟩
    · rintro ⟨b, bs', hb, hbs', rfl⟩
      exact ⟨b, hb, bind_eq_ok.mpr ⟨bs', ih.mpr hbs', rfl⟩⟩

theorem exists_of_mem_mapM {bs : List β} (h : l.mapM f = .ok bs) {b : β} (hb : b ∈ bs) :
    ∃ a ∈ l, f a = .ok b := by
  rw [mapM_eq_ok] at h
  induction h with
  | nil => cases hb
  | cons hab _ ih =>
    rcases List.mem_cons.mp hb with rfl | hb
    · exact ⟨_, List.mem_cons_self, hab⟩
    · obtain ⟨a, ha, hfa⟩ := ih hb
      exact ⟨a, List.mem_cons_of_mem _ ha, hfa⟩

theorem mapM_fails_iff : (∃ e, l.mapM f = .error e) ↔ ∃ a ∈ l, ∃ e, f a = .error e := by
  induction l with
  | nil =>
    refine ⟨fun ⟨_, h⟩ => (by cases h), fun ⟨_, h, _⟩ => (by cases h)⟩
  | cons a l ih =>
    rw [List.exists_mem_cons_iff, ← ih]
    simp only [List.mapM_cons, bind_eq_error]
    constructor
    · rintro ⟨e, he | ⟨b, -, he | ⟨_, -, he⟩⟩⟩
      · exact .inl ⟨e, he⟩
      · exact .inr ⟨e, he⟩
      · cases he
    rintro (⟨e, he⟩ | ⟨e, he⟩)
    · exact ⟨e, .inl he⟩
    cases hb : f a with
    | error e' => exact ⟨e', .inl rfl⟩
    | ok b => exact ⟨e, .inr ⟨b, rfl, .inl he⟩⟩

end Map

theorem foldlM_inv {step : σ → α → Except ε σ} (inv : List α → σ → Prop)
    (hstep : ∀ a l s s', inv (a :: l) s → step s a = .ok s' → inv l s') {l : List α} {s s' : σ}
    (hs : inv l s) (h : l.foldlM step s = .ok s') : inv [] s' := by
  induction l generalizing s with
  | nil =>
    cases h
    exact hs
  | cons a l ih =>
    rw [List.foldlM_cons, bind_eq_ok] at h
    obtain ⟨t, ht, hrest⟩ := h
    exact ih (hstep a l s t hs ht) hrest

end Except
