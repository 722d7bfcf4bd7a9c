import MediasoupCpp.Media.Recorder

/-!
# Whole recordings

Main results: `video_times_increase`, `finalizeMuxer_keeps_iff`.

Source: `src/Recorder.cpp`.
-/

namespace MediasoupCpp

/-- The end of a recording: whether the trailer is written, and whether the file is removed. -/
structure Finalized where
  recorder : PeerRecorder
  trailer : Bool := false
  removed : Bool := false

namespace PeerRecorder

/-- What `initMuxer` leaves: the header of H264 waits for the parameter sets. -/
def setup (cfg : RecorderConfig) : PeerRecorder := { headerDeferred := cfg.videoCodec = .h264 }

def finalizeMuxer (cfg : RecorderConfig) (outputPath : String) (r : PeerRecorder) : Finalized :=
  if !r.outputFormat then { recorder := r }
  else
    let wroteFrames := !r.headerDeferred
    let r := r.flushVideoFrame cfg
    { recorder := { r with outputFormat := false }
      trailer := !r.headerDeferred
      removed := !wroteFrames && outputPath ≠ "" }

variable {cfg : RecorderConfig} {r : PeerRecorder}

/-! ### What a flush keeps -/

/-- The frame that is being collected does not matter, and a flush keeps it. -/
structure FrameInv (cfg : RecorderConfig) (P : PeerRecorder → Prop) : Prop where
  collect {r : PeerRecorder} (buf : List UInt8) (ts : UInt32) (key : Bool) (sps pps : List UInt8) :
    P r → P { r with
      videoFrameBuf := buf, videoFrameTs := ts, videoKeyframe := key, h264Sps := sps,
      h264Pps := pps }
  flush {r : PeerRecorder} : P r → P (r.flushVideoFrame cfg)

section FrameInv

variable {P : PeerRecorder → Prop} (hP : FrameInv cfg P)
include hP

theorem FrameInv.flushIf (h : P r) (c : Prop) [Decidable c] :
    P (if c then r.flushVideoFrame cfg else r) := by
  split
  · exact hP.flush h
  · exact h

theorem FrameInv.takeNalu (h : P r) (rtp : RtpHeader) (nalType : UInt8) :
    P (r.takeNalu cfg rtp nalType) := by
  unfold PeerRecorder.takeNalu
  split
  · exact hP.collect _ _ _ _ _ h
  split
  · exact hP.collect _ _ _ _ _ h
  refine hP.flushIf (hP.collect _ _ _ _ _ ?_) _
  split
  · exact hP.collect _ _ _ _ _ h
  · exact h

theorem FrameInv.takeFragment (h : P r) (rtp : RtpHeader) (indicator fuHeader : UInt8)
    (chunk : List UInt8) : P (r.takeFragment cfg rtp indicator fuHeader chunk) := by
  refine hP.flushIf (hP.collect _ _ _ _ _ ?_) _
  split
  · exact hP.collect _ _ _ _ _ (hP.flushIf h _)
  · exact h

theorem FrameInv.takeAggregation (timestamp : UInt32) (fuel : ℕ) (h : P r) (data : List UInt8) :
    P (PeerRecorder.takeAggregation timestamp fuel r data) := by
  induction fuel generalizing r data with
  | zero => exact h
  | succ fuel ih =>
    unfold PeerRecorder.takeAggregation
    split
    · exact h
    dsimp only
    split
    · exact h
    apply ih
    unfold takeAggregated
    dsimp only
    split_ifs <;> exact hP.collect _ _ _ _ _ h

theorem FrameInv.depacketizeH264 (rtp : RtpHeader) (h : P r) : P (r.depacketizeH264 cfg rtp) := by
  unfold PeerRecorder.depacketizeH264
  split
  · exact h
  dsimp only
  split
  · exact hP.takeNalu h rtp _
  split
  · split
    · exact h
    · exact hP.takeFragment h rtp _ _ _
  split
  · exact hP.flushIf (hP.takeAggregation rtp.timestamp _ h _) _
  · exact h

theorem FrameInv.depacketizeVp8 (rtp : RtpHeader) (h : P r) : P (r.depacketizeVp8 cfg rtp) := by
  unfold PeerRecorder.depacketizeVp8
  dsimp only
  split
  · exact h
  refine hP.flushIf (hP.collect _ _ _ _ _ ?_) _
  split
  · exact hP.collect _ _ _ _ _ (hP.flushIf h _)
  · exact hP.flushIf h _

end FrameInv

/-! ### The end of a recording -/

/-- Flushing the buffer would write the header. -/
def HoldsFirstFrame (cfg : RecorderConfig) (r : PeerRecorder) : Prop :=
  r.outputFormat = true ∧ r.headerDeferred = true ∧ r.videoFrameBuf ≠ [] ∧
    r.videoKeyframe = true ∧ h264Extradata r.h264Sps r.h264Pps ≠ none ∧ cfg.acceptsHeader = true

def writePendingAudio (cfg : RecorderConfig) (r : PeerRecorder) : PeerRecorder :=
  { r.pendingAudio.foldl (fun r (ts, data) => r.writeAudioPacket cfg ts data) r with
    pendingAudio := [] }

theorem headerDeferred_writePendingAudio :
    (r.writePendingAudio cfg).headerDeferred = r.headerDeferred :=
  List.foldlRecOn (motive := fun r' : PeerRecorder => r'.headerDeferred = r.headerDeferred) _ _ rfl
    fun _ h _ _ => h

theorem flushVideoFrame_cases (cfg : RecorderConfig) (r : PeerRecorder) :
    (¬r.HoldsFirstFrame cfg ∧ ∃ file extradata buf, r.flushVideoFrame cfg =
      { r with outputFormat := file, extradata := extradata, videoFrameBuf := buf }) ∨
    (r.headerDeferred = false ∧ r.flushVideoFrame cfg = r.writeVideoFrame cfg) ∨
    r.HoldsFirstFrame cfg ∧ ∃ extradata, r.flushVideoFrame cfg = writeVideoFrame cfg
      (writePendingAudio cfg { r with extradata := extradata, headerDeferred := false }) := by
  unfold flushVideoFrame HoldsFirstFrame setH264Extradata commitDeferredHeader
  by_cases hrdy : r.videoFrameBuf = [] ∨ (!r.outputFormat)
  · rw [if_pos hrdy]
    exact .inl ⟨by grind, _, _, _, rfl⟩
  rw [if_neg hrdy]
  obtain ⟨hbuf, hfile⟩ := not_or.mp hrdy
  rw [Bool.not_eq_true', Bool.not_eq_false] at hfile
  cases hhead : r.headerDeferred with
  | false => exact .inr (.inl ⟨rfl, rfl⟩)
  | true =>
    rw [if_pos rfl]
    cases hkey : r.videoKeyframe with
    | false => exact .inl ⟨by simp, r.outputFormat, r.extradata, [], by simp⟩
    | true =>
      cases hext : h264Extradata r.h264Sps r.h264Pps with
      | none => exact .inl ⟨by simp, _, _, _, rfl⟩
      | some extradata =>
        cases haccepts : cfg.acceptsHeader with
        | false => exact .inl ⟨by simp, false, extradata, [], by simp⟩
        | true =>
          exact .inr (.inr ⟨⟨hfile, rfl, hbuf, rfl, by simp, rfl⟩, extradata,
            by simp [writePendingAudio, hfile]⟩)

def EmptyBeforeHeader (r : PeerRecorder) : Prop := r.headerDeferred = true → r.written = []

theorem frameInv_emptyBeforeHeader : FrameInv cfg EmptyBeforeHeader where
  collect _ _ _ _ _ h := h
  flush {r} h hhead' := by
    obtain ⟨-, _, _, _, heq⟩ | ⟨hhead, heq⟩ | ⟨-, _, heq⟩ := r.flushVideoFrame_cases cfg
    · rw [heq] at hhead' ⊢
      exact h hhead'
    · rw [heq] at hhead'
      cases hhead.symm.trans hhead'
    · rw [heq] at hhead'
      cases headerDeferred_writePendingAudio.symm.trans hhead'

theorem EmptyBeforeHeader.writePacket (h : r.EmptyBeforeHeader) (rtp : RtpHeader) :
    (r.writePacket cfg rtp).EmptyBeforeHeader := by
  unfold PeerRecorder.writePacket
  dsimp only
  split_ifs with _ _ hhead
  · exact h
  · exact h
  · exact h
  · exact fun hhead' => absurd hhead' hhead
  · split
    · apply frameInv_emptyBeforeHeader.depacketizeH264 rtp
      exact h
    · apply frameInv_emptyBeforeHeader.depacketizeVp8 rtp
      exact h
  · exact h

theorem emptyBeforeHeader_recvPackets (cfg : RecorderConfig) (packets : List (List UInt8)) :
    ((setup cfg).recvPackets cfg packets).EmptyBeforeHeader := by
  refine List.foldlRecOn _ _ (fun _ => rfl) fun r h packet _ => ?_
  unfold recvPacket
  split
  · exact h
  · exact h.writePacket _

/-! ### What the muxer gets -/

/-- What has been written, and the audio that waits for the header. -/
structure MuxerInv (r : PeerRecorder) : Prop where
  sorted : r.written.Pairwise fun p q => p.stream = .video → q.stream = .video → p.pts < q.pts
  upTo : ∀ p ∈ r.written, p.stream = .video → 0 ≤ p.pts ∧ p.pts ≤ r.videoLastPts
  pending : r.pendingAudio.length ≤ kMaxPendingAudioPackets

theorem MuxerInv.writeVideoFrame (h : r.MuxerInv) : (r.writeVideoFrame cfg).MuxerInv := by
  obtain ⟨hsorted, hupTo, hpending⟩ := h
  refine ⟨?_, ?_, hpending⟩
  all_goals grind [PeerRecorder.writeVideoFrame, videoFrame, clampNonNegativePts]

theorem MuxerInv.writeAudioPacket (h : r.MuxerInv) (ts : UInt32) (data : List UInt8) :
    (r.writeAudioPacket cfg ts data).MuxerInv := by
  obtain ⟨hsorted, hupTo, hpending⟩ := h
  refine ⟨?_, ?_, hpending⟩
  all_goals grind [PeerRecorder.writeAudioPacket]

theorem MuxerInv.writePendingAudio (h : r.MuxerInv) : (r.writePendingAudio cfg).MuxerInv :=
  { List.foldlRecOn (motive := MuxerInv) _ _ h fun _ h _ _ => h.writeAudioPacket _ _ with
    pending := Nat.zero_le _ }

theorem frameInv_muxerInv : FrameInv cfg MuxerInv where
  collect _ _ _ _ _ h := { h with }
  flush {r} h := by
    obtain ⟨-, _, _, _, heq⟩ | ⟨-, heq⟩ | ⟨-, _, heq⟩ := r.flushVideoFrame_cases cfg
    · rw [heq]
      exact { h with }
    · rw [heq]
      exact h.writeVideoFrame
    · rw [heq]
      exact MuxerInv.writeVideoFrame (.writePendingAudio { h with })

theorem MuxerInv.writePacket (h : r.MuxerInv) (rtp : RtpHeader) :
    (r.writePacket cfg rtp).MuxerInv := by
  unfold PeerRecorder.writePacket
  dsimp only
  split_ifs with _ _ _ hlen
  · exact h
  · exact { h with pending := by simpa using Nat.succ_le_of_lt hlen }
  · exact { h with }
  · apply MuxerInv.writeAudioPacket
    exact { h with }
  · split
    · exact frameInv_muxerInv.depacketizeH264 rtp { h with }
    · exact frameInv_muxerInv.depacketizeVp8 rtp { h with }
  · exact h

/-- **The muxer gets the frames of the video with increasing timestamps**, whatever the packets
say, and not more than so many packets of the audio wait for the header. -/
theorem video_times_increase (cfg : RecorderConfig) (outputPath : String)
    (packets : List (List UInt8)) :
    let r := (setup cfg).recvPackets cfg packets
    r.pendingAudio.length ≤ kMaxPendingAudioPackets ∧
      (r.finalizeMuxer cfg outputPath).recorder.written.Pairwise
        fun p q => p.stream = .video → q.stream = .video → p.pts < q.pts := by
  intro r
  have hinv : r.MuxerInv := by
    refine List.foldlRecOn _ _ ⟨.nil, nofun, Nat.zero_le _⟩ fun r h packet _ => ?_
    unfold recvPacket
    split
    · exact h
    · exact h.writePacket _
  refine ⟨hinv.pending, ?_⟩
  unfold finalizeMuxer
  split
  · exact hinv.sorted
  · exact (frameInv_muxerInv.flush hinv).sorted

/-- **Finalizing does not remove a file with a header or a frame**, unless the header waits and
what is flushed then is the first frame. -/
theorem finalizeMuxer_keeps_iff (cfg : RecorderConfig) (outputPath : String)
    (packets : List (List UInt8)) :
    let r := (setup cfg).recvPackets cfg packets
    let final := r.finalizeMuxer cfg outputPath
    (final.removed = true → final.recorder.headerDeferred = true ∧ final.recorder.written = []) ↔
      ¬(r.HoldsFirstFrame cfg ∧ outputPath ≠ "") := by
  intro r final
  have hemp : r.EmptyBeforeHeader := emptyBeforeHeader_recvPackets cfg packets
  by_cases hdef : r.outputFormat ∧ r.headerDeferred ∧ outputPath ≠ ""
  · obtain ⟨hfile, hhead, hpath⟩ := hdef
    have hrem : final.removed := by simp [final, finalizeMuxer, hfile, hhead, hpath]
    have hfinal : final.recorder = { r.flushVideoFrame cfg with outputFormat := false } := by
      simp [final, finalizeMuxer, hfile]
    rw [hfinal, hrem]
    obtain ⟨hhold, _, _, _, heq⟩ | ⟨hhead', -⟩ | ⟨hhold, _, heq⟩ := r.flushVideoFrame_cases cfg
    · simp [heq, hhold, hhead, hemp hhead]
    · cases hhead.symm.trans hhead'
    · simp [heq, hhold, hpath, writeVideoFrame, headerDeferred_writePendingAudio]
  · have hrem : final.removed = false := by
      simp only [final, finalizeMuxer]
      split <;> grind
    unfold HoldsFirstFrame
    grind

/-- The only frame comes without a marker, and the file that gets it is removed. -/
theorem finalizeMuxer_removes_frame :
    let cfg : RecorderConfig := { audioPT := 100, videoPT := 101, videoCodec := .h264 }
    let final := ((setup cfg).recvPackets cfg [
      [0x80, 101, 0, 0, 0, 0, 0, 0, 0, 0, 0, 0, 0x67, 1, 2, 3],
      [0x80, 101, 0, 1, 0, 0, 0, 0, 0, 0, 0, 0, 0x68, 4],
      [0x80, 101, 0, 2, 0, 0, 0, 0, 0, 0, 0, 0, 0x65, 5]]).finalizeMuxer cfg "file"
    final.removed = true ∧ final.recorder.written.map AvPacket.data = [[0, 0, 0, 2, 0x65, 5]] := by
  decide

end PeerRecorder

end MediasoupCpp
