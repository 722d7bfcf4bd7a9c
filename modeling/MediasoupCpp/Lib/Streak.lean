import Mathlib.Data.Nat.Notation

/-!
# Streaks

A counter that goes up with every element that matches and back to zero with every other one
counts the elements a sequence ends in that match.

Main result: `Streak.endsIn_next`.
-/

namespace Streak

variable {α : Type*} {p : α → Bool} {k n : ℕ} {l : List α} {x : α}

def next (n : ℕ) (matched : Bool) : ℕ := if matched then n + 1 else 0

@[simp] theorem next_true (n : ℕ) : next n true = n + 1 := rfl

@[simp] theorem next_false (n : ℕ) : next n false = 0 := rfl

def EndsIn (p : α → Bool) (k : ℕ) (l : List α) : Prop :=
  ∃ earlier last, l = earlier ++ last ∧ last.length = k ∧ ∀ x ∈ last, p x = true

theorem endsIn_zero (p : α → Bool) (l : List α) : EndsIn p 0 l :=
  ⟨l, [], by simp, rfl, by simp⟩

theorem EndsIn.concat (h : EndsIn p k l) (hx : p x) : EndsIn p (k + 1) (l ++ [x]) := by
  obtain ⟨earlier, last, rfl, rfl, hlast⟩ := h
  refine ⟨earlier, last ++ [x], by simp, by simp, ?_⟩
  intro y hy
  rcases List.mem_append.mp hy with hy | hy
  · exact hlast y hy
  · rw [List.mem_singleton.mp hy, hx]

theorem endsIn_of_le (h : EndsIn p n l) (hle : k ≤ n) : EndsIn p k l := by
  obtain ⟨earlier, last, rfl, rfl, hlast⟩ := h
  refine ⟨earlier ++ last.take (last.length - k), last.drop (last.length - k), ?_, ?_, ?_⟩
  · rw [List.append_assoc, List.take_append_drop]
  · rw [List.length_drop]
    omega
  · intro y hy
    exact hlast y (List.mem_of_mem_drop hy)

theorem endsIn_next (h : EndsIn p n l) (x : α) : EndsIn p (next n (p x)) (l ++ [x]) := by
  cases hx : p x with
  | true => exact h.concat hx
  | false => exact endsIn_zero p _

end Streak
