import Mathlib.Data.List.AList
import Mathlib.Data.List.Induction

/-!
# Hash maps

A hash map is an association list without duplicate keys, `AList`; the order of its entries stands
for the order the map happens to be iterated in.  Mathlib has lookup, insertion and erasure; what
is added is erasing by a predicate on the entries, the `erase_if` loop over a map, replacing all
values, and setting a key in a map that remembers the order its keys were inserted in.

Main results: `Dict.lookup_filter`, `Dict.lookup_mapValues`.
-/

abbrev Dict (κ υ : Type) : Type := AList fun _ : κ => υ

namespace Dict

open List AList

variable {κ υ : Type} [DecidableEq κ]

def filter (p : κ → υ → Bool) (d : Dict κ υ) : Dict κ υ where
  entries := d.entries.filter fun e => p e.1 e.2
  nodupKeys := d.nodupKeys.sublist filter_sublist

@[simp] theorem lookup_filter (p : κ → υ → Bool) (d : Dict κ υ) (k : κ) :
    (d.filter p).lookup k = (d.lookup k).filter (p k) := by
  -- without duplicate keys, looking up is membership of the entry
  ext v
  rw [Option.filter_eq_some_iff, ← Option.mem_def, ← Option.mem_def, mem_lookup_iff, mem_lookup_iff]
  exact mem_filter

theorem mem_filter {p : κ → υ → Bool} {d : Dict κ υ} {k : κ} :
    k ∈ d.filter p ↔ ∃ v, d.lookup k = some v ∧ p k v := by
  rw [← lookup_isSome, lookup_filter, Option.isSome_iff_exists]
  simp only [Option.filter_eq_some_iff]

theorem mem_of_lookup {d : Dict κ υ} {k : κ} {v : υ} (h : d.lookup k = some v) : k ∈ d :=
  lookup_isSome.mp (Option.isSome_of_eq_some h)

theorem mem_of_mem_filter {p : κ → υ → Bool} {d : Dict κ υ} {k : κ} (h : k ∈ d.filter p) :
    k ∈ d := by
  obtain ⟨_, hv, -⟩ := mem_filter.mp h
  exact mem_of_lookup hv

def mapValues {υ' : Type} (f : κ → υ → υ') (d : Dict κ υ) : Dict κ υ' where
  entries := d.entries.map (Sigma.map id f)
  nodupKeys := by
    rw [List.NodupKeys, List.keys, map_map]
    exact d.nodupKeys

@[simp] theorem lookup_mapValues {υ' : Type} (f : κ → υ → υ') (d : Dict κ υ) (k : κ) :
    (d.mapValues f).lookup k = (d.lookup k).map (f k) :=
  dlookup_map₂ k

@[simp] theorem keys_mapValues {α υ' : Type} (f : α → υ → υ') (d : Dict α υ) :
    (d.mapValues f).keys = d.keys :=
  map_map

variable (d : Dict κ υ)

theorem lookup_insert_eq (k k' : κ) (v : υ) :
    (d.insert k v).lookup k' = if k' = k then some v else d.lookup k' := by
  split
  · rename_i h; subst h; exact lookup_insert d
  · rename_i h; exact lookup_insert_ne h

theorem lookup_erase_eq (k k' : κ) :
    (d.erase k).lookup k' = if k' = k then none else d.lookup k' := by
  split
  · rename_i h; subst h; exact lookup_erase k' d
  · rename_i h; exact lookup_erase_ne h

def setEntry (k : κ) (v : υ) : List (Sigma fun _ : κ => υ) → List (Sigma fun _ : κ => υ)
  | [] => [⟨k, v⟩]
  | e :: l => if e.1 = k then ⟨k, v⟩ :: l else e :: setEntry k v l

theorem keys_setEntry (k : κ) (v : υ) (l : List (Sigma fun _ : κ => υ)) :
    (setEntry k v l).keys = if k ∈ l.keys then l.keys else l.keys ++ [k] := by
  induction l with
  | nil => simp [setEntry]
  | cons e l ih =>
    rw [setEntry]
    by_cases he : e.1 = k
    · simp [he]
    · rw [if_neg he, keys_cons, ih, keys_cons]
      by_cases hk : k ∈ l.keys <;> simp [hk, Ne.symm he]

/-- Set the value of a key.  A key that is there keeps its place, a new one goes to the
end. -/
def set (k : κ) (v : υ) (d : Dict κ υ) : Dict κ υ where
  entries := setEntry k v d.entries
  nodupKeys := by
    rw [List.NodupKeys, keys_setEntry]
    split
    · exact d.nodupKeys
    rename_i hk
    exact nodup_append.mpr ⟨d.nodupKeys, nodup_singleton k,
      fun a ha b hb heq => hk (mem_singleton.mp hb ▸ heq ▸ ha)⟩

variable {k : κ} {v : υ}

theorem mem_setEntry {k' : κ} {w : υ} (hk : k' ≠ k) {l : List (Sigma fun _ : κ => υ)} :
    (⟨k', w⟩ : Sigma fun _ : κ => υ) ∈ setEntry k v l ↔ ⟨k', w⟩ ∈ l := by
  induction l with
  | nil => simp [setEntry, hk]
  | cons e l ih =>
    rw [setEntry]
    split
    next he =>
      have hne : (⟨k', w⟩ : Sigma fun _ : κ => υ) ≠ e := fun h => hk (by rw [← he, ← h])
      simp [hk, hne]
    · simp [ih]

theorem mem_setEntry_self (k : κ) (v : υ) (l : List (Sigma fun _ : κ => υ)) :
    (⟨k, v⟩ : Sigma fun _ : κ => υ) ∈ setEntry k v l := by
  induction l with
  | nil => simp [setEntry]
  | cons e l ih => rw [setEntry]; split <;> simp [ih]

theorem lookup_set (k k' : κ) (v : υ) :
    (d.set k v).lookup k' = if k' = k then some v else d.lookup k' := by
  split_ifs with hk
  · subst hk
    exact mem_lookup_iff.mpr (mem_setEntry_self k' v d.entries)
  ext w
  rw [← Option.mem_def, ← Option.mem_def, mem_lookup_iff, mem_lookup_iff]
  exact mem_setEntry hk

def toPairs : List (κ × υ) := d.entries.map fun e => (e.1, e.2)

variable {d : Dict κ υ}

theorem mem_toPairs : (k, v) ∈ d.toPairs ↔ d.lookup k = some v := by
  rw [← Option.mem_def, mem_lookup_iff]
  constructor
  · intro h
    obtain ⟨⟨_, _⟩, hmem, heq⟩ := mem_map.mp h
    cases heq
    exact hmem
  · intro h
    exact mem_map.mpr ⟨⟨k, v⟩, h, rfl⟩

theorem map_fst_toPairs {α β : Type} (d : Dict α β) : d.toPairs.map Prod.fst = d.keys := by
  rw [toPairs, map_map]
  rfl

def values (d : Dict κ υ) : List υ := d.entries.map Sigma.snd

theorem mem_values : v ∈ d.values ↔ ∃ k, d.lookup k = some v := by
  constructor
  · intro h
    obtain ⟨⟨k, _⟩, hmem, rfl⟩ := mem_map.mp h
    exact ⟨k, mem_lookup_iff.mpr hmem⟩
  · rintro ⟨k, h⟩
    exact mem_map.mpr ⟨⟨k, v⟩, mem_lookup_iff.mp h, rfl⟩

theorem values_insert_of_lookup (hk : d.lookup k = none) (v : υ) :
    values (d.insert k v) = v :: d.values := by
  rw [values, entries_insert_of_notMem (lookup_eq_none.mp hk)]
  rfl

theorem values_perm_erase (hk : d.lookup k = some v) : d.values.Perm (v :: values (d.erase k)) := by
  have hmem : k ∈ d.entries.keys := lookup_isSome.mp (by rw [hk]; rfl)
  obtain ⟨v', l₁, l₂, -, hents, herase⟩ := exists_of_kerase hmem
  have hv : v' = v := by
    have hv' : v' ∈ d.lookup k := by
      rw [mem_lookup_iff, hents]
      exact mem_append_right _ mem_cons_self
    exact Option.some.inj (hv'.symm.trans hk)
  have hvals : values (d.erase k) = (l₁ ++ l₂).map Sigma.snd := congrArg _ herase
  rw [values, hents, hvals, hv, map_append, map_append, map_cons]
  exact perm_middle

def indexBy (key : υ → κ) (l : List υ) : Dict κ υ := l.foldl (fun d v => d.insert (key v) v) ∅

theorem indexBy_concat (key : υ → κ) (l : List υ) (v : υ) :
    indexBy key (l ++ [v]) = (indexBy key l).insert (key v) v := by
  rw [indexBy, foldl_append]
  rfl

theorem mem_of_lookup_indexBy {key : υ → κ} {l : List υ} (h : (indexBy key l).lookup k = some v) :
    v ∈ l ∧ key v = k := by
  induction l using List.reverseRecOn with
  | nil => cases h
  | append_singleton l w ih =>
    rw [indexBy_concat, lookup_insert_eq] at h
    split at h
    next hk =>
      cases h
      exact ⟨mem_append_right _ (mem_singleton_self v), hk.symm⟩
    · exact ⟨mem_append_left _ (ih h).1, (ih h).2⟩

theorem lookup_indexBy {key : υ → κ} {l : List υ} (hnd : (l.map key).Nodup) :
    (indexBy key l).lookup k = some v ↔ v ∈ l ∧ key v = k := by
  refine ⟨mem_of_lookup_indexBy, ?_⟩
  rintro ⟨hv, rfl⟩
  induction l using List.reverseRecOn with
  | nil => cases hv
  | append_singleton l w ih =>
    rw [map_append, map_singleton, nodup_append] at hnd
    rw [indexBy_concat, lookup_insert_eq]
    rcases mem_append.mp hv with hl | hw
    · -- the last element has another key
      have hne : key v ≠ key w :=
        hnd.2.2 _ (mem_map_of_mem hl) _ (mem_singleton_self _)
      rw [if_neg hne]
      exact ih hnd.1 hl
    · rw [mem_singleton.mp hw, if_pos rfl]

def upsert {ε : Type} (key : ε → κ) (f : υ → ε → υ) (init : υ) (d : Dict κ υ) (e : ε) : Dict κ υ :=
  d.insert (key e) (f ((d.lookup (key e)).getD init) e)

theorem lookup_foldl_upsert {ε : Type} (key : ε → κ) (f : υ → ε → υ) (init : υ) (es : List ε)
    (d : Dict κ υ) (k : κ) : (es.foldl (upsert key f init) d).lookup k = if k ∈ es.map key then
        some ((es.filter fun e => key e = k).foldl f ((d.lookup k).getD init)) else d.lookup k := by
  induction es generalizing d with
  | nil => rfl
  | cons e es ih =>
    rw [foldl_cons, ih, upsert, lookup_insert_eq]
    by_cases hk : k = key e
    · subst hk
      simp only [if_true, Option.getD_some, map_cons, mem_cons, true_or,
        filter_cons_of_pos, foldl_cons, decide_true]
      split
      · rfl
      rename_i hnone
      have hnil : es.filter (fun e' => key e' = key e) = [] :=
        filter_eq_nil_iff.mpr fun e' he' heq =>
          hnone (mem_map.mpr ⟨e', he', of_decide_eq_true heq⟩)
      rw [hnil]
      rfl
    · have hk' : ¬key e = k := fun h => hk h.symm
      simp [hk, hk']

end Dict
