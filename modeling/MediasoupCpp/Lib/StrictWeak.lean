import Mathlib.Data.List.Sort

/-!
# Strict weak orderings on a list, and unstable sorting

`std::sort` takes a comparator that has to be a strict weak ordering on the elements being sorted;
if it is not, nothing is promised.  The requirement is about the elements of one list, not about
the whole type, so the ordering here is relative to a list, and a sort is any function that keeps
the promise where the requirement is met.

Main result: `strictWeakOn_iff`.
-/

section StrictWeak

variable {α : Type*} {lt : α → α → Bool} {l : List α}

def Incomparable (lt : α → α → Bool) (a b : α) : Prop := lt a b = false ∧ lt b a = false

structure StrictWeakOn (lt : α → α → Bool) (l : List α) : Prop where
  irrefl : ∀ a ∈ l, lt a a = false
  trans : ∀ a ∈ l, ∀ b ∈ l, ∀ c ∈ l, lt a b = true → lt b c = true → lt a c = true
  incomparable_trans : ∀ a ∈ l, ∀ b ∈ l, ∀ c ∈ l,
    Incomparable lt a b → Incomparable lt b c → Incomparable lt a c

theorem StrictWeakOn.asymm (h : StrictWeakOn lt l) {a b : α} (ha : a ∈ l) (hb : b ∈ l)
    (hab : lt a b) : lt b a = false := by
  by_contra hba
  have hba : lt b a := by simpa using hba
  have haa := h.trans a ha b hb a ha hab hba
  simp [h.irrefl a ha] at haa

theorem StrictWeakOn.neg_trans (h : StrictWeakOn lt l) {a b c : α} (ha : a ∈ l) (hb : b ∈ l)
    (hc : c ∈ l) (hab : lt a b = false) (hbc : lt b c = false) : lt a c = false := by
  by_contra hac
  have hac : lt a c := by simpa using hac
  -- were `b` above `a` or below `c`, transitivity through `a < c` would contradict the rest
  have hba : lt b a = false := by
    by_contra hba
    simp [h.trans b hb a ha c hc (by simpa using hba) hac] at hbc
  have hcb : lt c b = false := by
    by_contra hcb
    simp [h.trans a ha c hc b hb hac (by simpa using hcb)] at hab
  simp [(h.incomparable_trans a ha b hb c hc ⟨hab, hba⟩ ⟨hbc, hcb⟩).1] at hac

theorem strictWeakOn_iff (hasymm : ∀ a ∈ l, ∀ b ∈ l, lt a b → lt b a = false) : StrictWeakOn lt l ↔
      ∀ a ∈ l, ∀ b ∈ l, ∀ c ∈ l, lt a b = false → lt b c = false → lt a c = false := by
  refine ⟨fun h a ha b hb c hc => h.neg_trans ha hb hc, fun hneg => ⟨?_, ?_, ?_⟩⟩
  · intro a ha
    by_contra haa
    have haa : lt a a := by simpa using haa
    simp [hasymm a ha a ha haa] at haa
  · intro a ha b hb c hc hab hbc
    by_contra hac
    have hba := hasymm a ha b hb hab
    have hbc' := hneg b hb a ha c hc hba (by simpa using hac)
    simp [hbc'] at hbc
  · rintro a ha b hb c hc ⟨hab, hba⟩ ⟨hbc, hcb⟩
    exact ⟨hneg a ha b hb c hc hab hbc, hneg c hc b hb a ha hcb hba⟩

theorem strictWeakOn_of_key {κ : Type*} [LinearOrder κ] (key : α → κ)
    (hlt : ∀ a b, lt a b ↔ key a < key b) (l : List α) : StrictWeakOn lt l := by
  have hfalse : ∀ a b, lt a b = false ↔ key b ≤ key a := by
    intro a b
    rw [← not_lt, ← hlt, Bool.not_eq_true]
  refine (strictWeakOn_iff ?_).mpr ?_
  · intro a _ b _ hab
    exact (hfalse b a).mpr ((hlt a b).mp hab).le
  · intro a _ b _ c _ hab hbc
    exact (hfalse a c).mpr (((hfalse b c).mp hbc).trans ((hfalse a b).mp hab))

end StrictWeak

/-- A sort with the guarantees of `std::sort`: where the comparator is a strict
weak ordering on the list, the result is a rearrangement of it in which no
element is ordered before an earlier one.  Elements the comparator does not
separate may come in any order, and nothing at all is promised for a comparator
that is not a strict weak ordering. -/
structure StdSort (α : Type) where
  sort : (α → α → Bool) → List α → List α
  perm : ∀ lt l, StrictWeakOn lt l → (sort lt l).Perm l
  /-- No element is ordered before an earlier one. -/
  sorted : ∀ lt l, StrictWeakOn lt l → (sort lt l).Pairwise fun a b => lt b a = false

namespace StdSort

variable {α : Type} {lt : α → α → Bool} {l : List α}

theorem front_minimal (S : StdSort α) (h : StrictWeakOn lt l) {a : α} {rest : List α}
    (hfro : S.sort lt l = a :: rest) : a ∈ l ∧ ∀ b ∈ l, lt b a = false := by
  have hperm := S.perm lt l h
  have hsort := S.sorted lt l h
  rw [hfro] at hperm hsort
  have ha : a ∈ l := hperm.mem_iff.mp (List.mem_cons_self ..)
  refine ⟨ha, fun b hb => ?_⟩
  rcases List.mem_cons.mp (hperm.mem_iff.mpr hb) with rfl | hmem
  · exact h.irrefl b hb
  · exact (List.pairwise_cons.mp hsort).1 b hmem

theorem sort_ne_nil (S : StdSort α) (h : StrictWeakOn lt l) (hl : l ≠ []) : S.sort lt l ≠ [] := by
  intro hnil
  have hperm := S.perm lt l h
  rw [hnil] at hperm
  exact hl hperm.nil_eq.symm

def insertionSort (lt : α → α → Bool) (l : List α) : List α :=
  (l.attach.insertionSort fun a b => lt b.1 a.1 = false).map Subtype.val

def insertion (α : Type) : StdSort α where
  sort := insertionSort
  perm := by
    intro lt l _
    have hperm := (List.perm_insertionSort
      (fun a b : {x // x ∈ l} => lt b.1 a.1 = false) l.attach).map Subtype.val
    rwa [List.attach_map_subtype_val] at hperm
  sorted := by
    intro lt l h
    -- on the elements of the list, `lt b a = false` is a total preorder
    have htotal : Std.Total fun a b : {x // x ∈ l} => lt b.1 a.1 = false := by
      refine ⟨fun a b => ?_⟩
      by_cases hba : lt b.1 a.1 = false
      · exact .inl hba
      · exact .inr (h.asymm b.2 a.2 (by simpa using hba))
    have htrans : IsTrans {x // x ∈ l} fun a b => lt b.1 a.1 = false :=
      ⟨fun a b c hab hbc => h.neg_trans c.2 b.2 a.2 hbc hab⟩
    exact List.pairwise_map.mpr (List.pairwise_insertionSort _ l.attach)

end StdSort

theorem StrictWeakOn.exists_minimal {α : Type} {lt : α → α → Bool} {l : List α}
    (h : StrictWeakOn lt l) (hl : l ≠ []) : ∃ a ∈ l, ∀ b ∈ l, lt b a = false := by
  cases hsort : (StdSort.insertion α).sort lt l with
  | nil => exact absurd hsort ((StdSort.insertion α).sort_ne_nil h hl)
  | cons a rest =>
    obtain ⟨ha, hmin⟩ := (StdSort.insertion α).front_minimal h hsort
    exact ⟨a, ha, hmin⟩
