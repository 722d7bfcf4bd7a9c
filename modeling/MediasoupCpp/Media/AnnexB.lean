import Mathlib.Data.List.Infix
import Mathlib.Data.UInt
import MediasoupCpp.Lib.Loop

/-!
# Annex-B byte streams

An access unit comes as a byte stream in which every NAL unit is preceded by a start code of three
or four bytes.  The reader looks for a start code, passes over further ones right behind it, and
takes what is there up to the next one.

## Main results

* `AnnexBReader.next_annexB` — **the reader takes a NAL unit off the stream**.

Source: `common/media/h264/AnnexB.cpp`.
-/

namespace MediasoupCpp

open List

/-! ### The reader -/

def findStartCode : List UInt8 → ℕ × ℕ
  | [] => (0, 0)
  | b :: rest =>
    if [0, 0, 1] <+: b :: rest then (0, 3)
    else if [0, 0, 0, 1] <+: b :: rest then (0, 4)
    else ((findStartCode rest).1 + 1, (findStartCode rest).2)

def skipStartCodes : List UInt8 → List UInt8 :=
  Loop.run
    (fun rest =>
      if rest ≠ [] ∧ (findStartCode rest).1 = 0 then some (rest.drop (findStartCode rest).2)
      else none)
    List.length

def AnnexBReader.nextLoop : ℕ → List UInt8 → Option (List UInt8) × List UInt8
  | 0, rest => (none, rest)
  | fuel + 1, rest =>
    if rest = [] then (none, rest)
    else
      let (start, startCodeSize) := findStartCode rest
      if start = rest.length then (none, [])
      else
        let nal := skipStartCodes (rest.drop (start + startCodeSize))
        if nal = [] then (none, [])
        else
          let nextStart := (findStartCode nal).1
          if 0 < nextStart then (some (nal.take nextStart), nal.drop nextStart)
          else nextLoop fuel (nal.drop 1)

variable (rest : List UInt8)

def AnnexBReader.next : Option (List UInt8) × List UInt8 :=
  nextLoop rest.length rest

/-! ### Start codes -/

theorem findStartCode_cons {b : UInt8} {rest : List UInt8} (h₃ : ¬[0, 0, 1] <+: b :: rest)
    (h₄ : ¬[0, 0, 0, 1] <+: b :: rest) :
    findStartCode (b :: rest) = ((findStartCode rest).1 + 1, (findStartCode rest).2) := by
  rw [findStartCode, if_neg h₃, if_neg h₄]

variable {data : List UInt8}

theorem findStartCode_size_pos (hdata : data ≠ [])
    (h : (findStartCode data).1 = 0) : 0 < (findStartCode data).2 := by
  match data with
  | [] => exact absurd rfl hdata
  | b :: rest =>
    by_cases h₃ : [0, 0, 1] <+: b :: rest
    · rw [findStartCode, if_pos h₃]
      decide
    by_cases h₄ : [0, 0, 0, 1] <+: b :: rest
    · rw [findStartCode, if_neg h₃, if_pos h₄]
      decide
    · rw [findStartCode_cons h₃ h₄] at h
      cases h

def skipStartCode : Option (List UInt8) :=
  if rest ≠ [] ∧ (findStartCode rest).1 = 0 then some (rest.drop (findStartCode rest).2) else none

theorem length_lt_of_skipStartCode (rest' : List UInt8) (h : skipStartCode rest = some rest') :
    rest'.length < rest.length := by
  unfold skipStartCode at h
  split at h
  next hst =>
    cases h
    have hpos := findStartCode_size_pos hst.1 hst.2
    have hlen := length_pos_iff.mpr hst.1
    rw [length_drop]
    omega
  · cases h

theorem skipStartCodes_endsIn (data : List UInt8) :
    Loop.EndsIn skipStartCode data (skipStartCodes data) :=
  Loop.endsIn_run length_lt_of_skipStartCode data

theorem skipStartCodes_suffix (data : List UInt8) : skipStartCodes data <:+ data := by
  refine (skipStartCodes_endsIn data).inv (· <:+ data) (fun rest rest' hrest hskip => ?_)
    (suffix_refl data)
  unfold skipStartCode at hskip
  split at hskip
  · cases hskip
    exact (drop_suffix _ _).trans hrest
  · cases hskip

theorem findStartCode_skipStartCodes (h : skipStartCodes data ≠ []) :
    0 < (findStartCode (skipStartCodes data)).1 := by
  have hend := (skipStartCodes_endsIn data).2
  rw [skipStartCode, ite_eq_right_iff] at hend
  refine Nat.pos_of_ne_zero fun hzero => ?_
  exact absurd (hend ⟨h, hzero⟩) nofun

theorem skipStartCodes_eq_self (h : 0 < (findStartCode data).1) : skipStartCodes data = data := by
  match data with
  | [] => rfl
  | b :: rest =>
    have hnot : ¬(b :: rest ≠ [] ∧ (findStartCode (b :: rest)).1 = 0) := fun hst =>
      Nat.ne_of_gt h hst.2
    rw [skipStartCodes, Loop.run, length_cons, Loop.iterate, if_neg hnot]

theorem AnnexBReader.next_eq : next rest =
      if (findStartCode rest).1 = rest.length then (none, []) else
        let nal := skipStartCodes (rest.drop ((findStartCode rest).1 + (findStartCode rest).2))
        if nal = [] then (none, [])
        else (some (nal.take (findStartCode nal).1), nal.drop (findStartCode nal).1) := by
  match rest with
  | [] => rfl
  | b :: rest =>
    rw [next, length_cons, nextLoop, if_neg (cons_ne_nil b rest)]
    dsimp only [length_cons]
    split
    · rfl
    split
    · rfl
    next hnal =>
      rw [if_pos (findStartCode_skipStartCodes hnal)]

/-! ### NAL units on the stream -/

/-- A NAL unit of one of the types that are sent as they are.  It contains neither a start code
nor three zero bytes, and does not end in a zero byte. -/
structure Nalu where
  bytes : List UInt8
  header : UInt8
  head?_bytes : bytes.head? = some header
  type_pos : 1 ≤ header &&& 0x1F
  type_le : header &&& 0x1F ≤ 23
  no_zeros : ¬[0, 0, 0] <:+: bytes
  no_startCode : ¬[0, 0, 1] <:+: bytes
  getLast?_bytes : bytes.getLast? ≠ some 0

variable (units : List (Bool × Nalu))

/-- The byte stream of an access unit.  A NAL unit has the long or the short start code. -/
def annexB : List UInt8 :=
  units.flatMap fun u => (if u.1 then [0, 0, 0, 1] else [0, 0, 1]) ++ u.2.bytes

theorem findStartCode_append {bytes : List UInt8} (hzeros : ¬[0, 0, 0] <:+: bytes)
    (hcode : ¬[0, 0, 1] <:+: bytes) (hlast : bytes.getLast? ≠ some 0) (tail : List UInt8) :
    findStartCode (bytes ++ tail) =
      (bytes.length + (findStartCode tail).1, (findStartCode tail).2) := by
  induction bytes with
  | nil => simp
  | cons b bytes ih =>
    -- the rest has no start code either, and it is over where the bytes are
    have hrest : findStartCode (bytes ++ tail) =
        (bytes.length + (findStartCode tail).1, (findStartCode tail).2) := by
      refine ih (fun h => hzeros (h.trans (suffix_cons b bytes).isInfix))
        (fun h => hcode (h.trans (suffix_cons b bytes).isInfix)) fun h => hlast ?_
      rw [List.getLast?_cons, h]
      rfl
    have hhere : ∀ c, (c = 0 ∨ c = 1) → ¬[0, 0, c] <+: b :: (bytes ++ tail) := by
      intro c hc hpre
      match bytes with
      | [] =>
        obtain ⟨rfl, -⟩ := cons_prefix_cons.mp hpre
        exact hlast rfl
      | [b'] =>
        obtain ⟨-, hpre⟩ := cons_prefix_cons.mp hpre
        obtain ⟨rfl, -⟩ := cons_prefix_cons.mp hpre
        exact hlast rfl
      | b' :: b'' :: bytes =>
        have hinfix : [0, 0, c] <:+: b :: b' :: b'' :: bytes :=
          (prefix_of_prefix_length_le hpre (prefix_append _ tail) (by simp)).isInfix
        rcases hc with rfl | rfl
        · exact hzeros hinfix
        · exact hcode hinfix
    have hlong : ¬[0, 0, 0, 1] <+: b :: (bytes ++ tail) := fun h =>
      hhere 0 (.inl rfl) ((prefix_append [0, 0, 0] [1]).trans h)
    rw [cons_append, findStartCode_cons (hhere 1 (.inr rfl)) hlong, hrest, length_cons,
      Nat.add_right_comm]

theorem findStartCode_startCode (long : Bool) (rest : List UInt8) :
    findStartCode ((if long then [0, 0, 0, 1] else [0, 0, 1]) ++ rest) =
      (0, (if long then [0, 0, 0, 1] else ([0, 0, 1] : List UInt8)).length) := by
  cases long with
  | false => exact if_pos (prefix_append [0, 0, 1] rest)
  | true =>
    have hshort : ¬([0, 0, 1] : List UInt8) <+: [0, 0, 0, 1] ++ rest := by
      simp [cons_prefix_cons]
    exact (if_neg hshort).trans (if_pos (prefix_append [0, 0, 0, 1] rest))

def startCodes (codes : List Bool) : List UInt8 :=
  codes.flatMap fun long => if long then [0, 0, 0, 1] else [0, 0, 1]

/-- A NAL unit that contains neither a start code nor three zero bytes, and does not end in a
zero byte. -/
structure CleanNalu (bytes : List UInt8) : Prop where
  ne_nil : bytes ≠ []
  no_zeros : ¬[0, 0, 0] <:+: bytes
  no_startCode : ¬[0, 0, 1] <:+: bytes
  getLast?_ne : bytes.getLast? ≠ some 0

theorem skipStartCodes_cons (long : Bool) (rest : List UInt8) :
    skipStartCodes ((if long then [0, 0, 0, 1] else [0, 0, 1]) ++ rest) = skipStartCodes rest := by
  refine Loop.run_of_some length_lt_of_skipStartCode ?_
  rw [findStartCode_startCode, drop_left, if_pos]
  cases long <;> simp

theorem skipStartCodes_startCodes (codes : List Bool) (rest : List UInt8) :
    skipStartCodes (startCodes codes ++ rest) = skipStartCodes rest := by
  induction codes with
  | nil => rfl
  | cons long codes ih =>
    rw [startCodes, flatMap_cons, append_assoc, skipStartCodes_cons]
    exact ih

theorem drop_findStartCode {leading : List UInt8} (hlead : ¬[0, 0, 1] <:+: leading) (long : Bool)
    (rest : List UInt8) :
    let data := leading ++ ((if long then [0, 0, 0, 1] else [0, 0, 1]) ++ rest)
    data.drop ((findStartCode data).1 + (findStartCode data).2) = rest := by
  dsimp only
  induction leading with
  | nil => rw [nil_append, findStartCode_startCode, Nat.zero_add, drop_left]
  | cons b leading ih =>
    have hrest := ih fun h => hlead (h.trans (suffix_cons b leading).isInfix)
    rw [cons_append]
    by_cases h₃ : [0, 0, 1] <+:
        b :: (leading ++ ((if long then [0, 0, 0, 1] else [0, 0, 1]) ++ rest))
    · match leading with
      | [] | [c] => cases long <;> simp at h₃
      | c :: d :: leading =>
        simp only [cons_append, cons_prefix_cons] at h₃
        obtain ⟨rfl, rfl, rfl, -⟩ := h₃
        exact absurd (prefix_append [0, 0, 1] leading).isInfix hlead
    · by_cases h₄ : [0, 0, 0, 1] <+:
          b :: (leading ++ ((if long then [0, 0, 0, 1] else [0, 0, 1]) ++ rest))
      · rw [findStartCode, if_neg h₃, if_pos h₄]
        -- the last leading byte and a short start code make a long one
        match leading with
        | [] =>
          cases long with
          | false => rfl
          | true => simp at h₄
        | [c] | [c, d] => cases long <;> simp at h₄
        | c :: d :: e :: leading =>
          simp only [cons_append, cons_prefix_cons] at h₄
          obtain ⟨rfl, rfl, rfl, rfl, -⟩ := h₄
          exact absurd (infix_append [0] [0, 0, 1] leading) hlead
      · rw [findStartCode_cons h₃ h₄, Nat.add_right_comm, drop_succ_cons, hrest]

theorem AnnexBReader.next_startCodes {leading : List UInt8} (hlead : ¬[0, 0, 1] <:+: leading)
    (long : Bool) (codes : List Bool) {bytes tail : List UInt8} (hbs : CleanNalu bytes)
    (htail : (findStartCode tail).1 = 0) :
    next (leading ++ (startCodes (long :: codes) ++ (bytes ++ tail))) = (some bytes, tail) := by
  have hfind := findStartCode_append hbs.no_zeros hbs.no_startCode hbs.getLast?_ne tail
  rw [htail, Nat.add_zero] at hfind
  have hlen := length_pos_iff.mpr hbs.ne_nil
  have hskip : skipStartCodes (startCodes codes ++ (bytes ++ tail)) = bytes ++ tail := by
    rw [skipStartCodes_startCodes]
    apply skipStartCodes_eq_self
    rw [hfind]
    exact hlen
  have hdrop := drop_findStartCode hlead long (startCodes codes ++ (bytes ++ tail))
  have hne : bytes ++ tail ≠ [] := fun h => hbs.ne_nil (append_eq_nil_iff.mp h).1
  rw [startCodes, flatMap_cons, append_assoc, ← startCodes, next_eq]
  rw [hdrop, hskip, if_neg hne, hfind, take_left, drop_left, if_neg]
  -- there are bytes behind the start code, so it is not at the end
  intro hend
  have hshort := congrArg List.length hdrop
  simp only [hend, length_drop, length_append] at hshort
  omega

namespace Nalu

variable (nalu : Nalu)

theorem bytes_ne_nil : nalu.bytes ≠ [] := by
  intro h
  have hhead := nalu.head?_bytes
  rw [h] at hhead
  cases hhead

theorem clean : CleanNalu nalu.bytes :=
  ⟨nalu.bytes_ne_nil, nalu.no_zeros, nalu.no_startCode, nalu.getLast?_bytes⟩

end Nalu

theorem findStartCode_annexB : (findStartCode (annexB units)).1 = 0 := by
  match units with
  | [] => rfl
  | (long, nalu) :: units =>
    rw [annexB, flatMap_cons, append_assoc, findStartCode_startCode]

theorem length_le_length_annexB : units.length ≤ (annexB units).length := by
  induction units with
  | nil => exact Nat.zero_le _
  | cons unit units ih =>
    have hbs := length_pos_iff.mpr unit.2.bytes_ne_nil
    rw [annexB, flatMap_cons, length_append, length_append, length_cons]
    change units.length ≤ (units.flatMap _).length at ih
    omega

theorem AnnexBReader.next_annexB (long : Bool) (nalu : Nalu) (units : List (Bool × Nalu)) :
    next (annexB ((long, nalu) :: units)) = (some nalu.bytes, annexB units) := by
  have hstr : annexB ((long, nalu) :: units) =
      [] ++ (startCodes [long] ++ (nalu.bytes ++ annexB units)) := by
    simp [annexB, startCodes]
  rw [hstr]
  exact next_startCodes (by simp) long [] nalu.clean (findStartCode_annexB units)

/-! ### All NAL units -/

namespace AnnexBReader

inductive Yields : List UInt8 → List (List UInt8) → Prop
  | done {data rest : List UInt8} (h : next data = (none, rest)) : Yields data []
  | more {data nalu rest : List UInt8} {nalus : List (List UInt8)}
      (h : next data = (some nalu, rest)) (hrest : Yields rest nalus) : Yields data (nalu :: nalus)

def InOrder : List (List UInt8) → List UInt8 → Prop
  | [], _ => True
  | nalu :: nalus, data => ∃ gap rest, data = gap ++ (nalu ++ rest) ∧ InOrder nalus rest

theorem not_startCode_take_findStartCode (data : List UInt8) :
    ¬[0, 0, 1] <:+: data.take (findStartCode data).1 := by
  induction data with
  | nil => simp
  | cons b rest ih =>
    by_cases h₃ : [0, 0, 1] <+: b :: rest
    · rw [findStartCode, if_pos h₃]
      simp
    by_cases h₄ : [0, 0, 0, 1] <+: b :: rest
    · rw [findStartCode, if_neg h₃, if_pos h₄]
      simp
    rw [findStartCode_cons h₃ h₄, take_succ_cons, infix_cons_iff]
    rintro (hpre | hinfix)
    · exact h₃ (hpre.trans ((prefix_cons_inj b).mpr (List.take_prefix _ rest)))
    · exact ih hinfix

variable {data : List UInt8}

theorem next_spec {nalu rest : List UInt8} (h : next data = (some nalu, rest)) :
    (∃ gap, data = gap ++ (nalu ++ rest)) ∧ nalu ≠ [] ∧ ¬[0, 0, 1] <:+: nalu := by
  rw [next_eq] at h
  split at h
  · cases h
  dsimp only at h
  split at h
  · cases h
  rename_i hnal
  cases h
  obtain ⟨gap, hgap⟩ := (skipStartCodes_suffix _).trans (drop_suffix _ data)
  refine ⟨⟨gap, ?_⟩, ?_, not_startCode_take_findStartCode _⟩
  · rw [take_append_drop, hgap]
  have hpos := findStartCode_skipStartCodes hnal
  rw [Ne, take_eq_nil_iff]
  rintro (_ | hnil)
  · omega
  · exact hnal hnil

theorem exists_yields (data : List UInt8) : ∃ nalus, Yields data nalus := by
  induction hn : data.length using Nat.strong_induction_on generalizing data with
  | _ n ih =>
    match hnext : next data with
    | (none, rest) => exact ⟨[], .done hnext⟩
    | (some nalu, rest) =>
      obtain ⟨⟨_, hgap⟩, hne, -⟩ := next_spec hnext
      have hpos := length_pos_iff.mpr hne
      have hlen := congrArg List.length hgap
      simp only [length_append] at hlen
      obtain ⟨nalus, hnalus⟩ := ih rest.length (by omega) rest rfl
      exact ⟨nalu :: nalus, .more hnext hnalus⟩

theorem Yields.spec {nalus : List (List UInt8)} (h : Yields data nalus) :
    InOrder nalus data ∧ (∀ nalu ∈ nalus, nalu ≠ [] ∧ ¬[0, 0, 1] <:+: nalu) ∧
      nalus.length ≤ data.length := by
  induction h with
  | done => exact ⟨trivial, by simp, Nat.zero_le _⟩
  | more h _ ih =>
    obtain ⟨⟨gap, hgap⟩, hne, hcode⟩ := next_spec h
    have hpos := length_pos_iff.mpr hne
    refine ⟨⟨gap, _, hgap, ih.1⟩, forall_mem_cons.mpr ⟨⟨hne, hcode⟩, ih.2.1⟩, ?_⟩
    rw [hgap, length_cons, length_append, length_append]
    omega

theorem Yields.unique {nalus nalus' : List (List UInt8)}
    (h : Yields data nalus) (h' : Yields data nalus') : nalus = nalus' := by
  induction h generalizing nalus' with
  | done h =>
    cases h' with
    | done => rfl
    | more h' => cases h.symm.trans h'
  | more h _ ih =>
    cases h' with
    | done h' => cases h.symm.trans h'
    | more h' hrest =>
      cases h.symm.trans h'
      rw [ih hrest]

def stream (units : List ((Bool × List Bool) × List UInt8)) : List UInt8 :=
  units.flatMap fun u => startCodes (u.1.1 :: u.1.2) ++ u.2

theorem findStartCode_stream (units : List ((Bool × List Bool) × List UInt8)) :
    (findStartCode (stream units)).1 = 0 := by
  match units with
  | [] => rfl
  | ((long, codes), bytes) :: units =>
    rw [stream, flatMap_cons, startCodes, flatMap_cons, append_assoc,
      append_assoc, findStartCode_startCode]

theorem findStartCode_of_clean (h : ¬[0, 0, 1] <:+: data) :
    (findStartCode data).1 = data.length := by
  induction data with
  | nil => rfl
  | cons b rest ih =>
    have hlong : ¬[0, 0, 0, 1] <+: b :: rest := fun hpre =>
      h ((suffix_cons 0 [0, 0, 1]).isInfix.trans hpre.isInfix)
    rw [findStartCode_cons (fun hpre => h hpre.isInfix) hlong, length_cons,
      ih fun hin => h (hin.trans (suffix_cons b rest).isInfix)]

theorem yields_stream {leading : List UInt8} (hlead : ¬[0, 0, 1] <:+: leading)
    {units : List ((Bool × List Bool) × List UInt8)} (hunit : ∀ u ∈ units, CleanNalu u.2) :
    Yields (leading ++ stream units) (units.map (·.2)) := by
  induction units generalizing leading with
  | nil =>
    refine .done (?_ : _ = (none, []))
    rw [stream, flatMap_nil, append_nil, next_eq, if_pos (findStartCode_of_clean hlead)]
  | cons u units ih =>
    rw [forall_mem_cons] at hunit
    have hnext : next (leading ++ stream (u :: units)) = (some u.2, stream units) := by
      rw [stream, flatMap_cons, append_assoc]
      exact next_startCodes hlead _ _ hunit.1 (findStartCode_stream units)
    exact .more hnext (@ih [] (by simp) hunit.2)

end AnnexBReader

end MediasoupCpp
