import MediasoupCpp.Lib.Bytes
import Mathlib.Data.List.Infix
import Mathlib.Data.List.TakeDrop

/-!
# Length-prefixed frames

A frame is a payload behind its length, which takes a fixed count of bytes, the lowest first.  A
reader gets the bytes of a sequence of frames in pieces and looks at the front of what it has not
handed out yet: there is a frame, or not enough bytes for one, or a length no frame has.

## Main results

* `front_of_prefix` — **the front of a beginning of frames**: the first frame, or too few bytes.
-/

namespace Framing

open Bytes List

variable {w max : ℕ}

def encodeFrame (w : ℕ) (payload : List UInt8) : List UInt8 := toLe w payload.length ++ payload

def encode (w : ℕ) (payloads : List (List UInt8)) : List UInt8 := payloads.flatMap (encodeFrame w)

@[simp] theorem encode_nil : encode w [] = [] := rfl

@[simp] theorem encode_cons (p : List UInt8) (ps : List (List UInt8)) :
    encode w (p :: ps) = encodeFrame w p ++ encode w ps := rfl

@[simp] theorem encode_append (ps qs : List (List UInt8)) :
    encode w (ps ++ qs) = encode w ps ++ encode w qs := flatMap_append

@[simp] theorem length_encodeFrame (p : List UInt8) : (encodeFrame w p).length = w + p.length := by
  rw [encodeFrame, length_append, length_toLe]

def Fits (max : ℕ) (payload : List UInt8) : Prop := payload ≠ [] ∧ payload.length ≤ max

instance (payload : List UInt8) : Decidable (Fits max payload) :=
  inferInstanceAs (Decidable (_ ∧ _))

inductive Front
  | incomplete
  | invalid
  | frame (payload rest : List UInt8)
  deriving DecidableEq

def front (w max : ℕ) (buf : List UInt8) : Front :=
  if buf.length < w then .incomplete
  else
    let len := ofLe (buf.take w)
    if len = 0 ∨ max < len then .invalid
    else if buf.length < w + len then .incomplete
    else .frame ((buf.drop w).take len) (buf.drop (w + len))

theorem front_toLe {len : ℕ} (hpos : len ≠ 0) (hmax : len ≤ max) (hlen : len < 256 ^ w)
    (bytes : List UInt8) : front w max (toLe w len ++ bytes) =
      if bytes.length < len then .incomplete else .frame (bytes.take len) (bytes.drop len) := by
  have htake : (toLe w len ++ bytes).take w = toLe w len := take_left' (length_toLe w len)
  have hdrop : (toLe w len ++ bytes).drop w = bytes := drop_left' (length_toLe w len)
  unfold front
  rw [if_neg (by simp), htake, ofLe_toLe hlen, if_neg (by omega), hdrop, ← drop_drop, hdrop,
    length_append, length_toLe]
  exact if_congr (by omega) rfl rfl

theorem front_of_short (hw : max < 256 ^ w) {p buf : List UInt8} (hfits : Fits max p)
    (hbuf : buf <+: encodeFrame w p) (hshort : buf.length < (encodeFrame w p).length) :
    front w max buf = .incomplete := by
  rw [length_encodeFrame] at hshort
  by_cases hlen : buf.length < w
  · rw [front, if_pos hlen]
  -- the length is there, so the buffer is the length and a beginning of the payload
  have hhead : toLe w p.length <+: buf :=
    prefix_of_prefix_length_le (prefix_append _ _) hbuf (by simpa using hlen)
  obtain ⟨_, rfl⟩ := hhead
  rw [length_append, length_toLe] at hshort
  rw [front_toLe (by simpa using hfits.1) hfits.2 (lt_of_le_of_lt hfits.2 hw), if_pos (by omega)]

theorem front_of_prefix (hw : max < 256 ^ w) (hpos : 0 < w) {payloads : List (List UInt8)}
    (hfits : ∀ p ∈ payloads, Fits max p) {buf : List UInt8} (hbuf : buf <+: encode w payloads) :
    (∃ p ps rest, payloads = p :: ps ∧ buf = encodeFrame w p ++ rest ∧ rest <+: encode w ps ∧
        front w max buf = .frame p rest) ∨ (front w max buf = .incomplete ∧
        ∀ p ps, payloads = p :: ps → buf.length < (encodeFrame w p).length) := by
  cases payloads with
  | nil =>
    have hnil : buf = [] := prefix_nil.mp hbuf
    subst hnil
    exact .inr ⟨if_pos hpos, by intro p ps h; cases h⟩
  | cons p ps =>
    have hp : Fits max p := hfits p mem_cons_self
    by_cases hshort : buf.length < (encodeFrame w p).length
    · refine .inr ⟨front_of_short hw hp ?_ hshort, ?_⟩
      · exact prefix_of_prefix_length_le hbuf (prefix_append _ _) (Nat.le_of_lt hshort)
      rintro _ _ h
      cases h
      exact hshort
    obtain ⟨rest, rfl⟩ := prefix_of_prefix_length_le
      (prefix_append (encodeFrame w p) (encode w ps)) hbuf (Nat.le_of_not_lt hshort)
    refine .inl ⟨p, ps, rest, rfl, rfl, (prefix_append_right_inj _).mp hbuf, ?_⟩
    rw [encodeFrame, append_assoc,
      front_toLe (by simpa using hp.1) hp.2 (lt_of_le_of_lt hp.2 hw), if_neg (by simp),
      take_left, drop_left]

/-! ### What a reader has handed out -/

def Complete (w : ℕ) (frames : List (List UInt8)) (received : List UInt8)
    (handed : List (List UInt8)) : Prop :=
  handed <+: frames ∧ encode w handed <+: received ∧
    ∀ more, more <+: frames → encode w more <+: received → more <+: handed

theorem Complete.unique {frames handed handed' : List (List UInt8)} {received : List UInt8}
    (h : Complete w frames received handed) (h' : Complete w frames received handed') :
    handed = handed' :=
  antisymm (r := (· <+: ·)) (h'.2.2 handed h.1 h.2.1) (h.2.2 handed' h'.1 h'.2.1)

theorem Complete.of_encode {frames handed : List (List UInt8)}
    (h : Complete w frames (encode w frames) handed) : handed = frames :=
  antisymm (r := (· <+: ·)) h.1 (h.2.2 frames (prefix_refl _) (prefix_refl _))

def Intake (w : ℕ) (frames : List (List UInt8)) (received : List UInt8)
    (handed : List (List UInt8)) (rest : List UInt8) : Prop :=
  ∃ later, frames = handed ++ later ∧ received = encode w handed ++ rest ∧ rest <+: encode w later

namespace Intake

variable {frames handed : List (List UInt8)} {received rest : List UInt8}

theorem init (frames : List (List UInt8)) : Intake w frames [] [] [] :=
  ⟨frames, rfl, rfl, nil_prefix⟩

theorem handed_isPrefix (h : Intake w frames received handed rest) : handed <+: frames := by
  obtain ⟨later, hfrs, -⟩ := h
  exact ⟨later, hfrs.symm⟩

theorem read (h : Intake w frames received handed rest) {chunk : List UInt8}
    (hch : received ++ chunk <+: encode w frames) :
    Intake w frames (received ++ chunk) handed (rest ++ chunk) := by
  obtain ⟨later, rfl, rfl, _⟩ := h
  refine ⟨later, rfl, append_assoc .., ?_⟩
  rw [encode_append, append_assoc] at hch
  exact (prefix_append_right_inj _).mp hch

theorem front_cases (hw : max < 256 ^ w) (hpos : 0 < w) (hfits : ∀ p ∈ frames, Fits max p)
    (h : Intake w frames received handed rest) :
    (∃ p rest', p ∈ frames ∧ front w max rest = .frame p rest' ∧ rest = encodeFrame w p ++ rest' ∧
        Intake w frames received (handed ++ [p]) rest') ∨
      (front w max rest = .incomplete ∧ rest.length < w + max ∧
        Complete w frames received handed) := by
  obtain ⟨later, rfl, rfl, hrest⟩ := h
  have hlater : ∀ p ∈ later, Fits max p := fun p hp => hfits p (mem_append_right _ hp)
  obtain ⟨p, ps, rest', rfl, rfl, hrest', hfro⟩ | ⟨hfro, hshort⟩ :=
    front_of_prefix hw hpos hlater hrest
  · exact .inl ⟨p, rest', by simp, hfro, rfl, ps, by simp, by simp, hrest'⟩
  have hlen : rest.length < w + max := by
    cases later with
    | nil =>
      rw [prefix_nil.mp hrest, length_nil]
      omega
    | cons p ps =>
      have hlt := hshort p ps rfl
      rw [length_encodeFrame] at hlt
      have hle := (hlater p mem_cons_self).2
      omega
  refine .inr ⟨hfro, hlen, prefix_append _ _, prefix_append _ _, ?_⟩
  intro more hmore hbs
  -- more frames than were handed out would begin with the one that is not all there
  rcases prefix_or_prefix_of_prefix hmore (prefix_append handed later) with hle | hle
  · exact hle
  obtain ⟨extra, rfl⟩ := hle
  have hextra : extra <+: later := (prefix_append_right_inj _).mp hmore
  cases extra with
  | nil => rw [append_nil]
  | cons p extra =>
    obtain ⟨ps, rfl⟩ := hextra
    have hlen : (encode w (p :: extra)).length ≤ rest.length := by
      rw [encode_append] at hbs
      exact ((prefix_append_right_inj _).mp hbs).length_le
    have hlt := hshort p (extra ++ ps) rfl
    rw [encode_cons, length_append] at hlen
    omega

theorem handed_eq_iff (hpos : 0 < w) (h : Intake w frames (encode w frames) handed rest) :
    handed = frames ↔ rest = [] := by
  obtain ⟨later, rfl, hbs, -⟩ := h
  rw [encode_append, append_cancel_left_eq] at hbs
  subst hbs
  cases later with
  | nil => simp
  | cons p ps =>
    have hne : (encode w (p :: ps)).length ≠ 0 := by
      rw [encode_cons, length_append, length_encodeFrame]
      omega
    constructor
    · intro hhanded
      exact absurd (self_eq_append_right.mp hhanded) (by simp)
    · intro hnil
      exact absurd (congrArg List.length hnil) hne

theorem rest_eq_nil (h : Intake w frames received frames rest) :
    rest = [] ∧ received = encode w frames := by
  obtain ⟨later, hfrs, rfl, hrest⟩ := h
  have hlater : later = [] := self_eq_append_right.mp hfrs
  subst hlater
  have hnil : rest = [] := prefix_nil.mp hrest
  subst hnil
  exact ⟨rfl, by simp⟩

end Intake

end Framing
