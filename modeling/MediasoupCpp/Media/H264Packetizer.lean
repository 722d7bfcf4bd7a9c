import MediasoupCpp.Media.AnnexB
import MediasoupCpp.Media.RtpHeader

/-!
# Packetizing H.264

An access unit is read NAL unit by NAL unit, one ahead so that the last one is known.  A NAL unit
that fits goes into a packet as it is; a larger one is cut into fragments, each behind two bytes
that hold its header and say whether it is the first or the last.

Main result: `packetizeAnnexB_roundTrip`.

Source: `common/media/rtp/H264Packetizer.cpp`, `common/media/rtp/H264Packetizer.h`.
-/

namespace MediasoupCpp

open List

/-! ### The packetizer -/

structure PacketSink where
  packets : List (List UInt8) := []
  sequenceNumber : UInt16

def kMaxPayloadBytes : ℕ := 1200

section Packetizer

variable (payloadType : UInt8) (rtpTimestamp ssrc : UInt32)

def PacketSink.emit (marker : Bool) (payload : List UInt8) (sink : PacketSink) : PacketSink where
  packets := sink.packets ++
    [writeRtpHeader payloadType sink.sequenceNumber rtpTimestamp ssrc marker ++ payload]
  sequenceNumber := sink.sequenceNumber + 1

def emitSingleNalu (nalu : List UInt8) (marker : Bool) (sink : PacketSink) : ℕ × PacketSink :=
  (1, sink.emit payloadType rtpTimestamp ssrc marker nalu)

def fuPayload (naluHeader : UInt8) (first isEnd : Bool) (chunk : List UInt8) : List UInt8 :=
  let fuIndicator := (naluHeader &&& 0xE0) ||| 28
  let fuHeader := (naluHeader &&& 0x1F) ||| (if first then 0x80 else 0x00)
    ||| (if isEnd then 0x40 else 0x00)
  fuIndicator :: fuHeader :: chunk

def emitFragments (nalu : List UInt8) (marker : Bool) :
    ℕ → (offset : ℕ) → (first : Bool) → (packets : ℕ) → PacketSink → ℕ × PacketSink
  | 0, _, _, packets, sink => (packets, sink)
  | fuel + 1, offset, first, packets, sink =>
    if offset < nalu.length then
      let chunkSize := min (kMaxPayloadBytes - 2) (nalu.length - offset)
      let isEnd := decide (nalu.length ≤ offset + chunkSize)
      emitFragments nalu marker fuel (offset + chunkSize) false (packets + 1)
        (sink.emit payloadType rtpTimestamp ssrc (isEnd && marker)
          (fuPayload (nalu.headD 0) first isEnd ((nalu.drop offset).take chunkSize)))
    else (packets, sink)

def emitFragmentedNalu (nalu : List UInt8) (marker : Bool) (sink : PacketSink) :
    ℕ × PacketSink :=
  emitFragments payloadType rtpTimestamp ssrc nalu marker nalu.length 1 true 0 sink

def emitNalu (nalu : List UInt8) (marker : Bool) (sink : PacketSink) : ℕ × PacketSink :=
  if nalu.length ≤ kMaxPayloadBytes then
    emitSingleNalu payloadType rtpTimestamp ssrc nalu marker sink
  else emitFragmentedNalu payloadType rtpTimestamp ssrc nalu marker sink

def packetizeLoop : ℕ → (reader : List UInt8) → (current : List UInt8) →
    (next : Option (List UInt8)) → (emittedPackets : ℕ) → PacketSink → ℕ × PacketSink
  | 0, _, _, _, emittedPackets, sink => (emittedPackets, sink)
  | fuel + 1, reader, current, next, emittedPackets, sink =>
    let (packets, sink) := emitNalu payloadType rtpTimestamp ssrc current next.isNone sink
    match next with
    | none => (emittedPackets + packets, sink)
    | some nalu =>
      let (next, reader) := AnnexBReader.next reader
      packetizeLoop fuel reader nalu next (emittedPackets + packets) sink

def packetizeAnnexB (annexB : List UInt8) (sink : PacketSink) : ℕ × PacketSink :=
  if annexB = [] then (0, sink)
  else
    match AnnexBReader.next annexB with
    | (none, _) => (0, sink)
    | (some current, reader) =>
      let (next, reader) := AnnexBReader.next reader
      packetizeLoop payloadType rtpTimestamp ssrc annexB.length reader current next 0 sink

end Packetizer

/-! ### The receiver -/

/-- The NAL units received so far, and the fragments of one that is not complete yet. -/
structure Depacketizer where
  nalus : List (List UInt8) := []
  fragment : Option (List UInt8) := none
  deriving DecidableEq

variable (d : Depacketizer)

def Depacketizer.continued (first : Bool) (header : UInt8) (chunk : List UInt8) :
    Option (List UInt8) :=
  match first, d.fragment with
  | true, none => some (header :: chunk)
  | false, some fragment => some (fragment ++ chunk)
  | true, some _ | false, none => none

def Depacketizer.receiveFragment (fuIndicator fuHeader : UInt8) (chunk : List UInt8) :
    Option Depacketizer :=
  (d.continued (fuHeader &&& 0x80 ≠ 0) ((fuIndicator &&& 0xE0) ||| (fuHeader &&& 0x1F))
    chunk).map fun nalu =>
      if fuHeader &&& 0x40 ≠ 0 then { nalus := d.nalus ++ [nalu], fragment := none }
      else { d with fragment := some nalu }

/-- A payload: a NAL unit or a fragment of one, by the type in its first byte.  Nothing may come
in between the fragments of a NAL unit. -/
def Depacketizer.receive : List UInt8 → Option Depacketizer
  | [] => none
  | header :: payload =>
    if 1 ≤ header &&& 0x1F ∧ header &&& 0x1F ≤ 23 then
      if d.fragment = none then some { d with nalus := d.nalus ++ [header :: payload] } else none
    else if header &&& 0x1F = 28 then
      match payload with
      | [] => none
      | fuHeader :: chunk => d.receiveFragment header fuHeader chunk
    else none

def depacketize (payloads : List (List UInt8)) : Option (List (List UInt8)) :=
  (payloads.foldlM Depacketizer.receive {}).bind fun d =>
    if d.fragment = none then some d.nalus else none

/-! ### Fragments -/

theorem fuBytes : ∀ (header : UInt8) (first isEnd : Bool),
    let fuIndicator := (header &&& 0xE0) ||| 28
    let fuHeader := (header &&& 0x1F) ||| (if first then 0x80 else 0x00)
      ||| (if isEnd then 0x40 else 0x00)
    fuIndicator &&& 0x1F = 28 ∧ (fuIndicator &&& 0xE0) ||| (fuHeader &&& 0x1F) = header ∧
      decide (fuHeader &&& 0x80 ≠ 0) = first ∧ (fuHeader &&& 0x40 ≠ 0 ↔ isEnd = true) := by
  decide +kernel

def Depacketizer.Expects (header : UInt8) (first : Bool) (pre : List UInt8) : Prop :=
  if first then d.fragment = none ∧ pre = [header] else d.fragment = some pre

theorem Depacketizer.Expects.continued {d : Depacketizer} {header : UInt8} {first : Bool}
    {pre : List UInt8} (h : d.Expects header first pre) (chunk : List UInt8) :
    d.continued first header chunk = some (pre ++ chunk) := by
  cases first with
  | true =>
    obtain ⟨hnone, rfl⟩ := h
    unfold Depacketizer.continued
    rw [hnone]
    rfl
  | false =>
    unfold Depacketizer.continued
    rw [show d.fragment = some pre from h]

theorem Depacketizer.Expects.receive {d : Depacketizer} {header : UInt8} {first : Bool}
    {pre : List UInt8} (h : d.Expects header first pre) (isEnd : Bool) (chunk : List UInt8) :
    d.receive (fuPayload header first isEnd chunk) =
      some (if isEnd then { nalus := d.nalus ++ [pre ++ chunk], fragment := none }
        else { d with fragment := some (pre ++ chunk) }) := by
  obtain ⟨htype, hhead, hfst, hend⟩ := fuBytes header first isEnd
  rw [fuPayload, Depacketizer.receive, htype, if_neg (by decide), if_pos rfl, receiveFragment,
    hfst, hhead, h.continued, Option.map_some]
  simp only [hend]

/-- The payloads that the fragments of some bytes of a NAL unit are sent in; `first` says
whether the first fragment is among them. -/
inductive Fragments (header : UInt8) : Bool → List UInt8 → List (List UInt8) → Prop
  | last {first : Bool} {chunk : List UInt8} (hsize : chunk.length ≤ kMaxPayloadBytes - 2) :
    Fragments header first chunk [fuPayload header first true chunk]
  | more {first : Bool} {chunk rest : List UInt8} {payloads : List (List UInt8)}
    (hsize : chunk.length ≤ kMaxPayloadBytes - 2) (hrest : Fragments header false rest payloads) :
    Fragments header first (chunk ++ rest) (fuPayload header first false chunk :: payloads)

namespace Fragments

variable {header : UInt8} {first : Bool} {bytes : List UInt8} {payloads : List (List UInt8)}

section

variable (h : Fragments header first bytes payloads)
include h

theorem ne_nil : payloads ≠ [] := by
  cases h with
  | last | more => exact cons_ne_nil _ _

theorem length_le : ∀ p ∈ payloads, p.length ≤ kMaxPayloadBytes := by
  have hpay : ∀ {first isEnd : Bool} {chunk : List UInt8},
      chunk.length ≤ kMaxPayloadBytes - 2 →
        (fuPayload header first isEnd chunk).length ≤ kMaxPayloadBytes := by
    intro first isEnd chunk hsize
    simp only [fuPayload, kMaxPayloadBytes, length_cons] at hsize ⊢
    omega
  induction h with
  | last hsize => exact forall_mem_singleton.mpr (hpay hsize)
  | more hsize _ ih => exact forall_mem_cons.mpr ⟨hpay hsize, ih⟩

theorem receives (d : Depacketizer)
    (pre : List UInt8) (hd : d.Expects header first pre) : payloads.foldlM Depacketizer.receive d =
      some { nalus := d.nalus ++ [pre ++ bytes], fragment := none } := by
  induction h generalizing d pre with
  | last =>
    rw [foldlM_cons, hd.receive true]
    rfl
  | @more first chunk _ _ _ _ ih =>
    -- the receiver has this fragment when the next one comes
    have hnext : Depacketizer.Expects { d with fragment := some (pre ++ chunk) } header false
        (pre ++ chunk) := rfl
    rw [foldlM_cons, hd.receive false]
    refine (ih _ _ hnext).trans ?_
    rw [append_assoc]

end

end Fragments

section Spec

variable {payloadType : UInt8} {rtpTimestamp ssrc : UInt32}

variable (payloadType rtpTimestamp ssrc) in
def emitAll (marker : Bool) : List (List UInt8) → PacketSink → PacketSink
  | [], sink => sink
  | [payload], sink => sink.emit payloadType rtpTimestamp ssrc marker payload
  | payload :: payload' :: payloads, sink =>
    emitAll marker (payload' :: payloads) (sink.emit payloadType rtpTimestamp ssrc false payload)

variable {nalu : Nalu} {payloads : List (List UInt8)} (marker : Bool)

theorem emitAll_cons (payload : List UInt8) (h : payloads ≠ []) (sink : PacketSink) :
    emitAll payloadType rtpTimestamp ssrc marker (payload :: payloads) sink =
      emitAll payloadType rtpTimestamp ssrc marker payloads
        (sink.emit payloadType rtpTimestamp ssrc false payload) := by
  match payloads with
  | [] => exact absurd rfl h
  | _ :: _ => rfl

theorem emitAll_append (payloads : List (List UInt8)) {payloads' : List (List UInt8)}
    (h : payloads' ≠ []) (sink : PacketSink) :
    emitAll payloadType rtpTimestamp ssrc marker (payloads ++ payloads') sink =
      emitAll payloadType rtpTimestamp ssrc marker payloads'
        (emitAll payloadType rtpTimestamp ssrc false payloads sink) := by
  induction payloads generalizing sink with
  | nil => rfl
  | cons payload payloads ih =>
    rw [cons_append, emitAll_cons _ _ (append_ne_nil_of_right_ne_nil _ h), ih]
    match payloads with
    | [] => rfl
    | _ :: _ => rfl

theorem emitAll_inv {P : PacketSink → Prop} (hstep : ∀ marker payload sink, P sink →
      P (sink.emit payloadType rtpTimestamp ssrc marker payload))
    (marker : Bool) (payloads : List (List UInt8)) {sink : PacketSink} (h : P sink) :
    P (emitAll payloadType rtpTimestamp ssrc marker payloads sink) := by
  induction payloads generalizing sink with
  | nil => exact h
  | cons payload payloads ih =>
    match payloads with
    | [] => exact hstep marker payload sink h
    | _ :: _ => exact ih (hstep false payload sink h)

theorem emitFragments_of_le {nalu : List UInt8} {offset : ℕ} (h : nalu.length ≤ offset)
    (marker : Bool) (fuel : ℕ) (first : Bool) (packets : ℕ) (sink : PacketSink) :
    emitFragments payloadType rtpTimestamp ssrc nalu marker fuel offset first packets sink =
      (packets, sink) := by
  cases fuel with
  | zero => rfl
  | succ fuel => rw [emitFragments, if_neg (Nat.not_lt.mpr h)]

theorem emitFragments_fragments (nalu : List UInt8) (marker : Bool) (fuel offset : ℕ)
    (first : Bool) (packets : ℕ) (sink : PacketSink) (hofs : offset < nalu.length)
    (hfuel : nalu.length - offset ≤ fuel) :
    ∃ payloads, Fragments (nalu.headD 0) first (nalu.drop offset) payloads ∧
      emitFragments payloadType rtpTimestamp ssrc nalu marker fuel offset first packets sink =
        (packets + payloads.length,
          emitAll payloadType rtpTimestamp ssrc marker payloads sink) := by
  induction fuel generalizing offset first packets sink with
  | zero => omega
  | succ fuel ih =>
    rw [emitFragments, if_pos hofs]
    dsimp only
    by_cases hend : nalu.length - offset ≤ kMaxPayloadBytes - 2
    · -- the last fragment
      rw [Nat.min_eq_right hend, Nat.add_sub_cancel' hofs.le, decide_eq_true (Nat.le_refl _),
        emitFragments_of_le (Nat.le_refl _), Bool.true_and, ← length_drop, take_length]
      rw [← length_drop] at hend
      exact ⟨_, .last hend, rfl⟩
    have hlt : ¬nalu.length ≤ offset + (kMaxPayloadBytes - 2) := by omega
    rw [Nat.min_eq_left (Nat.le_of_not_le hend), decide_eq_false hlt, Bool.false_and]
    obtain ⟨payloads, hfrags, hemit⟩ :=
      ih (offset + (kMaxPayloadBytes - 2)) false (packets + 1)
        (sink.emit payloadType rtpTimestamp ssrc false (fuPayload (nalu.headD 0) first false
          ((nalu.drop offset).take (kMaxPayloadBytes - 2))))
        (by omega) (by unfold kMaxPayloadBytes; omega)
    have hmore : Fragments (nalu.headD 0) first _ _ :=
      .more (length_take_le (kMaxPayloadBytes - 2) (nalu.drop offset)) hfrags
    rw [← drop_drop, take_append_drop] at hmore
    refine ⟨_, hmore, ?_⟩
    rw [hemit, emitAll_cons _ _ hfrags.ne_nil, length_cons, Nat.add_assoc, Nat.add_comm 1]

/-! ### NAL units and access units -/

theorem Depacketizer.receive_nalu {d : Depacketizer} (hd : d.fragment = none) {header : UInt8}
    (hpos : 1 ≤ header &&& 0x1F) (hle : header &&& 0x1F ≤ 23) (rest : List UInt8) :
    d.receive (header :: rest) = some { d with nalus := d.nalus ++ [header :: rest] } := by
  exact (if_pos ⟨hpos, hle⟩).trans (if_pos hd)

/-- The payloads a NAL unit is sent in: itself if it fits, and fragments otherwise. -/
inductive NaluPayloads (nalu : Nalu) : List (List UInt8) → Prop
  | single (hsize : nalu.bytes.length ≤ kMaxPayloadBytes) : NaluPayloads nalu [nalu.bytes]
  | fragmented {rest : List UInt8} {payloads : List (List UInt8)}
    (hsize : kMaxPayloadBytes < nalu.bytes.length) (hbs : nalu.bytes = nalu.header :: rest)
    (hfrags : Fragments nalu.header true rest payloads) : NaluPayloads nalu payloads

inductive UnitPayloads : List Nalu → List (List UInt8) → Prop
  | nil : UnitPayloads [] []
  | cons {nalu : Nalu} {nalus : List Nalu} {block payloads : List (List UInt8)}
    (hblk : NaluPayloads nalu block) (hrest : UnitPayloads nalus payloads) :
    UnitPayloads (nalu :: nalus) (block ++ payloads)

section

variable (h : NaluPayloads nalu payloads)
include h

theorem NaluPayloads.ne_nil : payloads ≠ [] := by
  cases h with
  | single => exact cons_ne_nil _ _
  | fragmented _ _ hfrags => exact hfrags.ne_nil

theorem NaluPayloads.length_le
    : ∀ p ∈ payloads, p.length ≤ kMaxPayloadBytes := by
  cases h with
  | single hsize => exact forall_mem_singleton.mpr hsize
  | fragmented _ _ hfrags => exact hfrags.length_le

theorem NaluPayloads.receives
    (d : Depacketizer) (hd : d.fragment = none) :
    payloads.foldlM Depacketizer.receive d = some { d with nalus := d.nalus ++ [nalu.bytes] } := by
  cases h with
  | single =>
    obtain ⟨_, hbs⟩ := List.head?_eq_some_iff.mp nalu.head?_bytes
    rw [foldlM_cons, hbs, Depacketizer.receive_nalu hd nalu.type_pos nalu.type_le]
    rfl
  | fragmented _ hbs hfrags =>
    rw [hfrags.receives d [nalu.header] ⟨hd, rfl⟩, hbs, hd]
    rfl

end

theorem UnitPayloads.length_le {nalus : List Nalu}
    (h : UnitPayloads nalus payloads) : ∀ p ∈ payloads, p.length ≤ kMaxPayloadBytes := by
  induction h with
  | nil => exact fun _ hp => (by cases hp)
  | cons hblk _ ih => exact forall_mem_append.mpr ⟨hblk.length_le, ih⟩

theorem UnitPayloads.receives {nalus : List Nalu}
    (h : UnitPayloads nalus payloads) (d : Depacketizer) (hd : d.fragment = none) :
    payloads.foldlM Depacketizer.receive d =
      some { d with nalus := d.nalus ++ nalus.map Nalu.bytes } := by
  induction h generalizing d with
  | nil =>
    rw [map_nil, append_nil]
    rfl
  | cons hblk _ ih =>
    rw [foldlM_append, hblk.receives d hd]
    refine (ih { d with nalus := d.nalus ++ [_] } hd).trans ?_
    rw [append_assoc]
    rfl

theorem emitNalu_payloads (nalu : Nalu) (marker : Bool) (sink : PacketSink) :
    ∃ payloads, NaluPayloads nalu payloads ∧
      emitNalu payloadType rtpTimestamp ssrc nalu.bytes marker sink =
        (payloads.length, emitAll payloadType rtpTimestamp ssrc marker payloads sink) := by
  rw [emitNalu]
  split_ifs with hsize
  · exact ⟨_, .single hsize, rfl⟩
  obtain ⟨_, hbs⟩ := List.head?_eq_some_iff.mp nalu.head?_bytes
  have hlong : 1 < nalu.bytes.length := by
    unfold kMaxPayloadBytes at hsize
    omega
  obtain ⟨payloads, hfrags, hemit⟩ :=
    @emitFragments_fragments payloadType rtpTimestamp ssrc nalu.bytes marker nalu.bytes.length 1
      true 0 sink hlong (Nat.sub_le _ _)
  rw [hbs] at hfrags
  refine ⟨payloads, .fragmented (Nat.lt_of_not_le hsize) hbs hfrags, ?_⟩
  rw [emitFragmentedNalu, hemit, Nat.zero_add]

theorem packetizeLoop_payloads (nalu : Nalu) (units : List (Bool × Nalu)) (fuel emitted : ℕ)
    (sink : PacketSink) (hfuel : units.length < fuel) :
    ∃ payloads, UnitPayloads (nalu :: units.map Prod.snd) payloads ∧ payloads ≠ [] ∧
      packetizeLoop payloadType rtpTimestamp ssrc fuel (AnnexBReader.next (annexB units)).2
          nalu.bytes (AnnexBReader.next (annexB units)).1 emitted sink = (emitted + payloads.length,
          emitAll payloadType rtpTimestamp ssrc true payloads sink) := by
  obtain ⟨fuel, rfl⟩ : ∃ n, fuel = n + 1 := Nat.exists_eq_add_one.mpr (Nat.zero_lt_of_lt hfuel)
  induction units generalizing nalu fuel emitted sink with
  | nil =>
    obtain ⟨block, hblk, hemit⟩ :=
      @emitNalu_payloads payloadType rtpTimestamp ssrc nalu true sink
    refine ⟨block, ?_, hblk.ne_nil, ?_⟩
    · simpa using UnitPayloads.cons hblk .nil
    · exact congrArg (fun r => (emitted + r.1, r.2)) hemit
  | cons unit units ih =>
    obtain ⟨_, nalu'⟩ := unit
    obtain ⟨fuel, rfl⟩ : ∃ n, fuel = n + 1 :=
      Nat.exists_eq_add_one.mpr (Nat.zero_lt_of_lt (Nat.lt_of_succ_lt_succ hfuel))
    obtain ⟨block, hblk, hemit⟩ :=
      @emitNalu_payloads payloadType rtpTimestamp ssrc nalu false sink
    obtain ⟨payloads, hpays, hne, hloop⟩ :=
      ih nalu' (emitted + block.length) (emitAll payloadType rtpTimestamp ssrc false block sink)
        fuel (Nat.lt_of_succ_lt_succ hfuel)
    refine ⟨block ++ payloads, .cons hblk hpays, append_ne_nil_of_left_ne_nil hblk.ne_nil _, ?_⟩
    rw [AnnexBReader.next_annexB, packetizeLoop]
    dsimp only [Option.isNone_some]
    rw [hemit, hloop, emitAll_append _ _ hne, length_append, Nat.add_assoc]

/-! ### Packets -/

theorem sequenceNumber_succ (n : UInt16) (i : ℕ) :
    n + 1 + UInt16.ofNat i = n + UInt16.ofNat (i + 1) := by
  rw [UInt16.add_assoc, Nat.add_comm i, UInt16.ofNat_add]
  rfl

theorem sequenceNumber_emitAll (payloads : List (List UInt8)) (sink : PacketSink) :
    (emitAll payloadType rtpTimestamp ssrc marker payloads sink).sequenceNumber =
      sink.sequenceNumber + UInt16.ofNat payloads.length := by
  induction payloads generalizing sink with
  | nil => exact (UInt16.add_zero _).symm
  | cons payload payloads ih =>
    match payloads with
    | [] => rfl
    | payload' :: payloads =>
      rw [emitAll_cons _ _ (cons_ne_nil _ _), ih, length_cons (a := payload)]
      exact sequenceNumber_succ _ _

theorem packets_emitAll (payloads : List (List UInt8)) (sink : PacketSink) :
    (emitAll payloadType rtpTimestamp ssrc marker payloads sink).packets =
      sink.packets ++ payloads.mapIdx fun i payload =>
        writeRtpHeader payloadType (sink.sequenceNumber + UInt16.ofNat i) rtpTimestamp ssrc
          (decide (i + 1 = payloads.length) && marker) ++ payload := by
  induction payloads generalizing sink with
  | nil => exact (append_nil _).symm
  | cons payload payloads ih =>
    match payloads with
    | [] =>
      exact congrArg (fun n => sink.packets ++
        [writeRtpHeader payloadType n rtpTimestamp ssrc marker ++ payload])
        (UInt16.add_zero _).symm
    | payload' :: payloads =>
      have hfst : sink.sequenceNumber + UInt16.ofNat 0 = sink.sequenceNumber :=
        UInt16.add_zero _
      rw [emitAll_cons _ _ (cons_ne_nil _ _), ih, mapIdx_cons (a := payload), hfst]
      simp only [PacketSink.emit, sequenceNumber_succ, append_assoc, cons_append,
        nil_append, length_cons, Nat.add_right_cancel_iff]
      rfl

end Spec

variable (payloadType : UInt8)

theorem packetizeAnnexB_payloads (rtpTimestamp ssrc : UInt32)
    (units : List (Bool × Nalu)) (sink : PacketSink) :
    ∃ payloads, UnitPayloads (units.map Prod.snd) payloads ∧
      packetizeAnnexB payloadType rtpTimestamp ssrc (annexB units) sink =
        (payloads.length, emitAll payloadType rtpTimestamp ssrc true payloads sink) := by
  match units with
  | [] => exact ⟨[], .nil, rfl⟩
  | (long, nalu) :: units =>
    have hlen := length_le_length_annexB ((long, nalu) :: units)
    have hne : annexB ((long, nalu) :: units) ≠ [] :=
      length_pos_iff.mp (Nat.lt_of_lt_of_le (Nat.succ_pos _) hlen)
    obtain ⟨payloads, hpays, -, hemit⟩ :=
      @packetizeLoop_payloads payloadType rtpTimestamp ssrc nalu units _ 0 sink hlen
    refine ⟨payloads, hpays, ?_⟩
    rw [packetizeAnnexB, if_neg hne, AnnexBReader.next_annexB]
    exact hemit.trans (by rw [Nat.zero_add])

theorem packetizeAnnexB_spec (rtpTimestamp ssrc : UInt32)
    (units : List (Bool × Nalu)) (sink : PacketSink) :
    ∃ payloads, (∀ p ∈ payloads, p.length ≤ kMaxPayloadBytes) ∧
      packetizeAnnexB payloadType rtpTimestamp ssrc (annexB units) sink =
        (payloads.length, emitAll payloadType rtpTimestamp ssrc true payloads sink) ∧
      depacketize payloads = some (units.map fun u => u.2.bytes) := by
  obtain ⟨payloads, hpays, hemit⟩ :=
    packetizeAnnexB_payloads payloadType rtpTimestamp ssrc units sink
  refine ⟨payloads, hpays.length_le, hemit, ?_⟩
  rw [depacketize, hpays.receives {} rfl, map_map]
  rfl

/-- **Every access unit arrives.**  The packets have at most 1200 bytes behind the fixed header,
the headers are read back with the given payload type, timestamp and SSRC, with consecutive
sequence numbers and the marker on the last packet only, and the receiver gets the NAL units out
of the payloads. -/
theorem packetizeAnnexB_roundTrip (hpt : payloadType < 128)
    (rtpTimestamp ssrc : UInt32) (sequenceNumber : UInt16) (units : List (Bool × Nalu)) :
    ∃ payloads : List (List UInt8),
      let result := packetizeAnnexB payloadType rtpTimestamp ssrc (annexB units) { sequenceNumber }
      result.1 = payloads.length ∧
        result.2.sequenceNumber = sequenceNumber + UInt16.ofNat payloads.length ∧
        (∀ packet ∈ result.2.packets, packet.length ≤ 12 + 1200) ∧
        (result.2.packets.map RtpHeader.parse = payloads.mapIdx fun i payload =>
          some {
            payloadType
            sequenceNumber := sequenceNumber + UInt16.ofNat i
            timestamp := rtpTimestamp
            ssrc
            marker := decide (i + 1 = payloads.length)
            payload }) ∧
        depacketize payloads = some (units.map fun u => u.2.bytes) := by
  obtain ⟨payloads, hsizes, hemit, hdep⟩ :=
    packetizeAnnexB_spec payloadType rtpTimestamp ssrc units { sequenceNumber }
  have hpack := @packets_emitAll payloadType rtpTimestamp ssrc true payloads { sequenceNumber }
  refine ⟨payloads, ?_⟩
  dsimp only
  rw [hemit, hpack]
  refine ⟨rfl, sequenceNumber_emitAll _ _ _, ?_, ?_, hdep⟩
  · intro packet hpacket
    obtain ⟨i, hi, rfl⟩ := mem_mapIdx.mp hpacket
    rw [length_append]
    exact Nat.add_le_add_left (hsizes _ (getElem_mem hi)) 12
  rw [nil_append]
  refine ext_getElem? fun i => ?_
  rw [List.getElem?_map, List.getElem?_mapIdx, List.getElem?_mapIdx, Option.map_map]
  refine congrArg (fun f => payloads[i]?.map f) (funext fun payload => ?_)
  rw [Function.comp_apply, RtpHeader.parse_writeRtpHeader hpt, Bool.and_true]

/-- An access unit of two NAL units, with start codes of both kinds. -/
theorem packetizeAnnexB_roundTrip_twoUnits :
    ∃ units : List (Bool × Nalu), annexB units = [0, 0, 0, 1, 0x67, 0x42, 0, 0, 1, 0x65, 0xAA] ∧
      ∃ payloads : List (List UInt8),
        (packetizeAnnexB 96 90000 1234 (annexB units) { sequenceNumber := 65535 }).1
            = payloads.length ∧
          depacketize payloads = some [[0x67, 0x42], [0x65, 0xAA]] := by
  let sps : Nalu := ⟨[0x67, 0x42], 0x67, rfl, by decide, by decide, by decide, by decide, by decide⟩
  let idr : Nalu := ⟨[0x65, 0xAA], 0x65, rfl, by decide, by decide, by decide, by decide, by decide⟩
  obtain ⟨payloads, hcnt, -, -, -, hdep⟩ :=
    packetizeAnnexB_roundTrip 96 (by decide) 90000 1234 65535 [(true, sps), (false, idr)]
  exact ⟨[(true, sps), (false, idr)], rfl, payloads, hcnt, hdep⟩

end MediasoupCpp
