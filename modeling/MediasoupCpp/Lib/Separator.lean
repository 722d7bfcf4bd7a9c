import Mathlib.Data.List.Basic
import Mathlib.Data.List.Infix

/-!
# Words with a separator

A word `a ++ sep :: b` can be taken apart again at the first separator if the part before has
none, and at the last one if the part behind has none.  The words that begin with `a ++ [sep]` are
then exactly those whose first part is `a`.

## Main results

* `append_cons_inj_left`, `append_cons_inj_right` — **the two parts of a word are determined**.
-/

namespace Separator

open List

variable {α : Type*} {sep : α} {a a' b b' : List α}

theorem append_cons_inj_left (ha : sep ∉ a) (ha' : sep ∉ a') :
    a ++ sep :: b = a' ++ sep :: b' ↔ a = a' ∧ b = b' := by
  constructor
  · intro heq
    induction a generalizing a' with
    | nil =>
      cases a' with
      | nil => exact ⟨rfl, tail_eq_of_cons_eq heq⟩
      | cons x a' => exact absurd (head_eq_of_cons_eq heq ▸ mem_cons_self) ha'
    | cons y a ih =>
      cases a' with
      | nil => exact absurd (head_eq_of_cons_eq heq ▸ mem_cons_self) ha
      | cons x a' =>
        obtain ⟨rfl, hrest⟩ := cons_eq_cons.mp heq
        obtain ⟨rfl, rfl⟩ := ih (fun h => ha (mem_cons_of_mem _ h))
          (fun h => ha' (mem_cons_of_mem _ h)) hrest
        exact ⟨rfl, rfl⟩
  · rintro ⟨rfl, rfl⟩
    rfl

theorem append_cons_inj_right (hb : sep ∉ b) (hb' : sep ∉ b') :
    a ++ sep :: b = a' ++ sep :: b' ↔ a = a' ∧ b = b' := by
  -- read backwards, the last separator is the first one
  have hrev : ∀ x y : List α, (x ++ sep :: y).reverse = y.reverse ++ sep :: x.reverse := by simp
  rw [← reverse_inj, hrev, hrev, append_cons_inj_left (by simpa) (by simpa),
    reverse_inj, reverse_inj, and_comm]

theorem concat_isPrefix_iff (ha : sep ∉ a) (ha' : sep ∉ a') :
    a ++ [sep] <+: a' ++ sep :: b ↔ a = a' := by
  constructor
  · rintro ⟨_, hrest⟩
    rw [append_assoc, singleton_append] at hrest
    exact ((append_cons_inj_left ha ha').mp hrest).1
  · rintro rfl
    exact ⟨b, by simp⟩

theorem eq_of_concat_isPrefix (ha' : sep ∉ a') (hb : sep ∉ b) (h : a ++ [sep] <+: a' ++ sep :: b) :
    a = a' := by
  obtain ⟨rest, hrest⟩ := h
  rw [append_assoc, singleton_append, append_eq_append_iff] at hrest
  obtain ⟨between, rfl, hbetween⟩ | ⟨between, rfl, hbetween⟩ := hrest
  · -- what stands between the parts is empty: its head would be a separator in `a'`
    cases between with
    | nil => rw [append_nil]
    | cons x between =>
      have hx : sep = x := head_eq_of_cons_eq hbetween
      exact absurd (mem_append_right a (hx ▸ mem_cons_self)) ha'
  · cases between with
    | nil => rw [append_nil]
    | cons x between =>
      have hrest : b = between ++ sep :: rest := tail_eq_of_cons_eq hbetween
      exact absurd (hrest ▸ mem_append_right between mem_cons_self) hb

theorem findIdx?_append_cons [DecidableEq α] (ha : sep ∉ a) :
    (a ++ sep :: b).findIdx? (· == sep) = some a.length := by
  induction a with
  | nil => simp [List.findIdx?_cons]
  | cons x a ih =>
    rw [mem_cons, not_or] at ha
    rw [cons_append, List.findIdx?_cons, beq_false_of_ne (Ne.symm ha.1), ih ha.2]
    rfl

theorem findIdx?_eq_none [DecidableEq α] (ha : sep ∉ a) : a.findIdx? (· == sep) = none := by
  rw [List.findIdx?_eq_none_iff]
  intro x hx
  exact beq_false_of_ne fun h => ha (h ▸ hx)

end Separator
