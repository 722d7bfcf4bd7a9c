import MediasoupCpp.Media.Recorder

/-!
# Payloads of a recorder

The recorder reads the bytes of a payload by their places.  Here every place is looked up, and what
is read beyond the end is missing.

Main results: `depacketizers_inBounds_iff`, `stripVp8Descriptor_spec`.

Source: `src/Recorder.cpp`.
-/

namespace MediasoupCpp

open List Option

/-! ### Reading by places -/

variable (data : List UInt8)

def bytes? (first last : ℕ) : Option (List UInt8) :=
  if first ≤ last ∧ last ≤ data.length then some ((data.take last).drop first) else none

def stripVp8Descriptor? : Option (List UInt8 × Bool) :=
  if data.length < 1 then some ([], false)
  else do
    let first ← data[0]?
    let isStart : Bool := first &&& 0x10 ≠ 0
    if first &&& 0x80 ≠ 0 then
      if data.length < 2 then some ([], isStart)
      else do
        let x ← data[1]?
        let skip ←
          if x &&& 0x80 ≠ 0 then
            if 3 < data.length then data[2]?.map fun id => if id &&& 0x80 ≠ 0 then 4 else 3
            else some 3
          else some 2
        let skip := if x &&& 0x40 ≠ 0 then skip + 1 else skip
        let skip := if x &&& 0x20 ≠ 0 ∨ x &&& 0x10 ≠ 0 then skip + 1 else skip
        some (data.drop skip, isStart)
    else some (data.drop 1, isStart)

namespace PeerRecorder

def takeAggregation? (timestamp : UInt32) (data : List UInt8) :
    ℕ → ℕ → PeerRecorder → Option PeerRecorder
  | 0, _, r => some r
  | fuel + 1, offset, r =>
    if data.length < offset + 2 then some r
    else do
      let high ← data[offset]?
      let low ← data[offset + 1]?
      let next := offset + 2 + (high.toNat <<< 8 ||| low.toNat)
      if data.length < next then some r
      else do
        -- the type of the NAL unit
        let _ ← data[offset + 2]?
        let nalu ← bytes? data (offset + 2) next
        takeAggregation? timestamp data fuel next
          (r.takeAggregated timestamp nalu (data.drop next))

def depacketizeH264? (cfg : RecorderConfig) (r : PeerRecorder) (rtp : RtpHeader) :
    Option PeerRecorder :=
  if rtp.payload.length < 1 then some r
  else do
    let indicator ← rtp.payload[0]?
    let nalType := indicator &&& 0x1F
    if 1 ≤ nalType ∧ nalType ≤ 23 then some (r.takeNalu cfg rtp nalType)
    else if nalType = 28 then
      if rtp.payload.length < 2 then some r
      else do
        let fuHeader ← rtp.payload[1]?
        some (r.takeFragment cfg rtp indicator fuHeader (rtp.payload.drop 2))
    else if nalType = 24 then do
      let r ← takeAggregation? rtp.timestamp rtp.payload (rtp.payload.length - 1) 1 r
      some (if rtp.marker ∧ r.videoFrameBuf ≠ [] then r.flushVideoFrame cfg else r)
    else some r

end PeerRecorder

open PeerRecorder

/-- The sizes of the entries lead to an empty one at the end. -/
def endsEmpty : ℕ → List UInt8 → Bool
  | 0, _ => false
  | fuel + 1, data =>
    if data.length < 2 then false
    else
      let nalSize := (data.getD 0 0).toNat <<< 8 ||| (data.getD 1 0).toNat
      let rest := data.drop 2
      if rest.length < nalSize then false else rest.isEmpty || endsEmpty fuel (rest.drop nalSize)

def EndsEmpty : List UInt8 → Prop
  | [] => False
  | indicator :: data => indicator &&& 0x1F = 24 ∧ endsEmpty data.length data = true

theorem takeAggregation?_eq (timestamp : UInt32) (data : List UInt8) (fuel offset : ℕ)
    (r : PeerRecorder) : PeerRecorder.takeAggregation? timestamp data fuel offset r =
      if endsEmpty fuel (data.drop offset) then none
      else some (PeerRecorder.takeAggregation timestamp fuel r (data.drop offset)) := by
  induction fuel generalizing offset r with
  | zero => rfl
  | succ fuel ih =>
    have hlen : (data.drop offset).length = data.length - offset := length_drop
    have hread : ∀ i, data[offset + i]? = (data.drop offset)[i]? :=
      fun i => List.getElem?_drop.symm
    have hdrop : ∀ n, data.drop (offset + n) = (data.drop offset).drop n :=
      fun n => drop_drop.symm
    match hrest : data.drop offset with
    | [] | [_] =>
      rw [hrest] at hlen
      have hshort : data.length < offset + 2 := by simp at hlen; omega
      simp [takeAggregation?, endsEmpty, takeAggregation, hshort]
    | high :: low :: rest =>
      rw [hrest] at hlen hread hdrop
      simp only [length_cons] at hlen
      have hlong : ¬data.length < offset + 2 := by omega
      simp only [takeAggregation?, endsEmpty, takeAggregation, hlong,
        length_cons, getD_cons_zero, getD_cons_succ, drop_succ_cons,
        drop_zero, if_false, Nat.not_lt.mpr (Nat.le_add_left 2 rest.length)]
      rw [show data[offset]? = some high from hread 0, show data[offset + 1]? = some low from
        hread 1, show data[offset + 2]? = rest[0]? from hread 2]
      simp only [bind_eq_bind, bind_some]
      generalize high.toNat <<< 8 ||| low.toNat = nalSize
      by_cases hsize : data.length < offset + 2 + nalSize
      · rw [if_pos hsize, if_pos (show rest.length < nalSize by omega),
          if_pos (show rest.length < nalSize by omega)]
        rfl
      rw [if_neg hsize, if_neg (show ¬rest.length < nalSize by omega),
        if_neg (show ¬rest.length < nalSize by omega)]
      have hnalu : bytes? data (offset + 2) (offset + 2 + nalSize) = some (rest.take nalSize) := by
        rw [bytes?, if_pos ⟨by omega, by omega⟩, drop_take, hdrop, Nat.add_sub_cancel_left]
        rfl
      cases rest with
      | nil => rfl
      | cons b rest =>
        simp only [hnalu, List.getElem?_cons_zero, bind_some, ih, isEmpty_cons, Bool.false_or]
        rw [Nat.add_assoc, hdrop, Nat.add_comm 2]
        rfl

theorem stripVp8Descriptor?_eq : stripVp8Descriptor? data = some (stripVp8Descriptor data) := by
  rw [stripVp8Descriptor?, stripVp8Descriptor.eq_def]
  match data with
  | [] => rfl
  | [_] => split_ifs <;> simp_all
  | [_, _] | [_, _, _] | _ :: _ :: _ :: _ :: _ =>
    simp
    split_ifs <;> simp

/-- A packet with an empty entry at its end. -/
theorem depacketizeH264_reads_past_end :
    PeerRecorder.depacketizeH264? h264Recorder {}
      ⟨96, 0, 0, 0, false, [24, 0, 0]⟩ = none := by
  decide

/-- **No byte beyond the payload is read**, except for the type of an empty entry at the end of an
aggregation packet. -/
theorem depacketizers_inBounds_iff (cfg : RecorderConfig) (r : PeerRecorder) (rtp : RtpHeader) :
    (r.depacketizeH264? cfg rtp = some (r.depacketizeH264 cfg rtp) ↔ ¬EndsEmpty rtp.payload) ∧
      ∀ data, stripVp8Descriptor? data = some (stripVp8Descriptor data) := by
  refine ⟨?_, stripVp8Descriptor?_eq⟩
  rw [depacketizeH264?, depacketizeH264]
  cases rtp.payload with
  | nil => simp [EndsEmpty]
  | cons indicator data =>
    have hlong : ¬(indicator :: data).length < 1 := by simp
    simp only [hlong, if_false, List.getElem?_cons_zero, bind_eq_bind, bind_some, EndsEmpty]
    split
    next hsing =>
      refine iff_of_true rfl fun hends => ?_
      rw [hends.1] at hsing
      exact absurd hsing (by decide)
    split
    next hfrag =>
      refine iff_of_true ?_ fun hends => ?_
      · cases data <;> rfl
      · rw [hends.1] at hfrag
        exact absurd hfrag (by decide)
    split
    next hagg =>
      rw [takeAggregation?_eq]
      simp only [hagg, true_and, drop_succ_cons, drop_zero, length_cons, Nat.add_sub_cancel]
      split
      next hends =>
        exact iff_of_false (by simp) (not_not_intro hends)
      next hends =>
        exact iff_of_true rfl hends
    next hoth =>
      exact iff_of_true rfl fun hends => hoth hends.1

/-! ### The descriptor of VP8 -/

def skipByte (present : Bool) (rest : List UInt8) : Option (List UInt8) :=
  if present then rest.tail? else some rest

def skipPictureId (present : Bool) (rest : List UInt8) : Option (List UInt8) :=
  if present then rest.head?.bind fun id => (rest.tail?).bind (skipByte (id &&& 0x80 ≠ 0))
  else some rest

/-- What is behind the descriptor, if it is complete. -/
def vp8Payload : List UInt8 → Option (List UInt8)
  | [] => none
  | first :: rest =>
    if first &&& 0x80 = 0 then some rest
    else
      rest.head?.bind fun x =>
        ((rest.tail?.bind (skipPictureId (x &&& 0x80 ≠ 0))).bind (skipByte (x &&& 0x40 ≠ 0))).bind
          (skipByte (x &&& 0x20 ≠ 0 ∨ x &&& 0x10 ≠ 0))

/-- The first packet of the first partition. -/
def vp8FrameStart : Prop :=
  ∃ first ∈ data.head?, first &&& 0x10 ≠ 0 ∧ first &&& 0x07 = 0

theorem getD_bind_skipByte (o : Option (List UInt8)) (present : Bool) :
    (o.bind (skipByte present)).getD [] = if present then (o.getD []).tail else o.getD [] := by
  cases present with
  | false => cases o <;> rfl
  | true =>
    match o with
    | none | some [] | some (_ :: _) => rfl

theorem stripVp8Descriptor_fst : (stripVp8Descriptor data).1 = (vp8Payload data).getD [] := by
  match data with
  | [] => rfl
  | [first] =>
    simp only [stripVp8Descriptor, vp8Payload]
    by_cases hx : first &&& 0x80 = 0 <;> simp [hx]
  | first :: x :: rest =>
    have hid : (skipPictureId (x &&& 0x80 ≠ 0) rest).getD [] = (first :: x :: rest).drop
        (if x &&& 0x80 ≠ 0 then
          if 3 < (first :: x :: rest).length ∧ (first :: x :: rest).getD 2 0 &&& 0x80 ≠ 0 then 4
          else 3
        else 2) := by
      rw [skipPictureId]
      by_cases hpresent : x &&& 0x80 = 0
      · simp [hpresent]
      match rest with
      | [] => simp [hpresent]
      | [id] | id :: _ :: _ => by_cases hlong : id &&& 0x80 = 0 <;> simp [hpresent, hlong, skipByte]
    rw [stripVp8Descriptor, vp8Payload]
    by_cases hx : first &&& 0x80 = 0
    · simp [hx]
    rw [if_pos hx, if_neg hx, if_neg (by simp), List.head?_cons, bind_some,
      getD_bind_skipByte, getD_bind_skipByte, List.tail?_cons, bind_some, hid]
    simp only [getD_cons_succ, getD_cons_zero, decide_eq_true_eq]
    split_ifs <;> simp only [tail_drop]

theorem stripVp8Descriptor_snd (first : UInt8) (rest : List UInt8) :
    (stripVp8Descriptor (first :: rest)).2 = decide (first &&& 0x10 ≠ 0) := by
  rw [stripVp8Descriptor]
  split_ifs <;> rfl

/-- A packet of another partition is taken for the start of a frame. -/
theorem stripVp8Descriptor_other_partition :
    stripVp8Descriptor [0x11, 0xAA] = ([0xAA], true) ∧ ¬vp8FrameStart [0x11, 0xAA] := by
  unfold vp8FrameStart
  decide

/-- **What is behind the descriptor is returned**; the start of a frame is reported as it should be
exactly if the packet does not start another partition. -/
theorem stripVp8Descriptor_spec (data : List UInt8) :
    (stripVp8Descriptor data).1 = (vp8Payload data).getD [] ∧
      (((stripVp8Descriptor data).2 = true ↔ vp8FrameStart data) ↔
        ∀ first ∈ data.head?, first &&& 0x10 = 0 ∨ first &&& 0x07 = 0) := by
  refine ⟨stripVp8Descriptor_fst data, ?_⟩
  match data with
  | [] => simp [stripVp8Descriptor, vp8FrameStart]
  | first :: rest =>
    rw [stripVp8Descriptor_snd]
    simp only [vp8FrameStart, List.head?_cons, mem_some_iff, exists_eq_left', forall_eq',
      decide_eq_true_eq]
    tauto

end MediasoupCpp
