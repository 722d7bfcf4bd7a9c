import MediasoupCpp.Media.Avcc
import MediasoupCpp.Media.H264Packetizer

/-!
# The recorder of a peer

A recorder gets the RTP packets of a peer and hands frames to a muxer.  The payloads of a video
are collected in a buffer, which is flushed as a frame.

Main result: `oneFrame_iff`.

Source: `src/Recorder.cpp`, `src/Recorder.h`, `src/Constants.h`, `common/ffmpeg/AvTime.h`.
-/

namespace MediasoupCpp

open List

/-! ### The recorder -/

inductive VideoCodec
  | vp8
  | h264
  deriving DecidableEq

inductive AvStream
  | audio
  | video
  deriving DecidableEq

/-- What the muxer is given.  The size is a signed number of 32 bits; the two timestamps are the
same. -/
structure AvPacket where
  stream : AvStream
  data : List UInt8
  size : ℤ
  pts : ℤ
  key : Bool := false
  deriving DecidableEq

def AvPacket.payload (packet : AvPacket) : List UInt8 := packet.data.take packet.size.toNat

def toInt (size : ℕ) : ℤ := (size : ℤ).bmod 4294967296

structure RecorderConfig where
  audioPT : UInt8
  videoPT : UInt8
  videoCodec : VideoCodec
  /-- From the clocks of the media to the time bases of the streams. -/
  rescaleAudio : ℤ → ℤ := id
  rescaleVideo : ℤ → ℤ := id
  /-- The muxer takes a header that is written late. -/
  acceptsHeader : Bool := true

/-- The times of a stream: the first one, the last one, and how often they have wrapped. -/
structure StreamClock where
  baseSet : Bool := false
  baseTs : UInt32 := 0
  lastTs : UInt32 := 0
  wrapCount : UInt64 := 0

structure PeerRecorder where
  outputFormat : Bool := true
  headerDeferred : Bool := false
  extradata : List UInt8 := []
  written : List AvPacket := []
  pendingAudio : List (UInt32 × List UInt8) := []
  pendingAudioDrops : ℕ := 0
  audioClock : StreamClock := {}
  videoClock : StreamClock := {}
  videoLastPts : ℤ := -1
  videoFrameBuf : List UInt8 := []
  videoFrameTs : UInt32 := 0
  videoKeyframe : Bool := false
  h264Sps : List UInt8 := []
  h264Pps : List UInt8 := []

def kMaxPendingAudioPackets : ℕ := 500

def startCode : List UInt8 := [0, 0, 0, 1]

def StreamClock.start (clock : StreamClock) (ts : UInt32) : StreamClock :=
  if clock.baseSet then clock
  else { clock with baseSet := true, baseTs := ts, lastTs := ts }

def unwrapTimestamp (ts : UInt32) (clock : StreamClock) : UInt64 × StreamClock :=
  let wrapCount :=
    if ts < clock.lastTs then
      if 0x80000000 < clock.lastTs - ts then clock.wrapCount + 1 else clock.wrapCount
    else if 0x80000000 < ts - clock.lastTs ∧ 0 < clock.wrapCount then clock.wrapCount - 1
    else clock.wrapCount
  let ticks := (wrapCount <<< 32) + ts.toUInt64
  (if clock.baseTs.toUInt64 ≤ ticks then ticks - clock.baseTs.toUInt64 else 0,
    { clock with lastTs := ts, wrapCount := wrapCount })

def clampNonNegativePts (value : ℤ) : ℤ := if value < 0 then 0 else value

def h264Extradata (sps pps : List UInt8) : Option (List UInt8) :=
  if sps = [] ∨ pps = [] ∨ sps.length < 4 then none
  else
    some ([1, sps.getD 1 0, sps.getD 2 0, sps.getD 3 0, 0xFF, 0xE1,
      UInt8.ofNat (sps.length / 256), UInt8.ofNat sps.length] ++ sps ++
      [1, UInt8.ofNat (pps.length / 256), UInt8.ofNat pps.length] ++ pps)

namespace PeerRecorder

variable (cfg : RecorderConfig) (r : PeerRecorder)

def writeAudioPacket (ts : UInt32) (data : List UInt8) : PeerRecorder :=
  let (ticks, clock) := unwrapTimestamp ts r.audioClock
  { r with
    audioClock := clock
    written := r.written ++
      [{ stream := .audio, data := data, size := toInt data.length,
         pts := clampNonNegativePts (cfg.rescaleAudio ticks.toInt64.toInt) }] }

def setH264Extradata : Option PeerRecorder :=
  (h264Extradata r.h264Sps r.h264Pps).map fun extradata => { r with extradata := extradata }

/-- Write the header.  If the muxer does not take it, there is no file any more. -/
def commitDeferredHeader : PeerRecorder :=
  if cfg.acceptsHeader then { r with headerDeferred := false } else { r with outputFormat := false }

def writeData : List UInt8 :=
  match cfg.videoCodec with
  | .h264 => annexBToAvcc r.videoFrameBuf
  | .vp8 => r.videoFrameBuf

def videoFrame (pts : ℤ) : AvPacket where
  stream := .video
  data := r.writeData cfg
  size := toInt (r.writeData cfg).length
  pts := pts
  key := r.videoKeyframe

def writeVideoFrame : PeerRecorder :=
  let (ticks, clock) := unwrapTimestamp r.videoFrameTs r.videoClock
  let pts := clampNonNegativePts (cfg.rescaleVideo ticks.toInt64.toInt)
  let pts := if r.videoLastPts ≠ -1 ∧ pts ≤ r.videoLastPts then r.videoLastPts + 1 else pts
  { r with
    videoClock := clock
    videoLastPts := pts
    written := r.written ++ [r.videoFrame cfg pts]
    videoFrameBuf := [] }

def flushVideoFrame : PeerRecorder :=
  if r.videoFrameBuf = [] ∨ !r.outputFormat then r
  else if r.headerDeferred then
    if !r.videoKeyframe then { r with videoFrameBuf := [] }
    else
      match r.setH264Extradata with
      | none => { r with videoFrameBuf := [] }
      | some r =>
        let r := r.commitDeferredHeader cfg
        if !r.outputFormat then { r with videoFrameBuf := [] }
        else
          let pendingAudio := r.pendingAudio
          let r := pendingAudio.foldl (fun r (ts, data) => r.writeAudioPacket cfg ts data) r
          ({ r with pendingAudio := [] } : PeerRecorder).writeVideoFrame cfg
  else r.writeVideoFrame cfg

variable (rtp : RtpHeader)

def takeNalu (nalType : UInt8) : PeerRecorder :=
  if nalType = 7 then { r with h264Sps := rtp.payload }
  else if nalType = 8 then { r with h264Pps := rtp.payload }
  else
    let r : PeerRecorder :=
      if r.videoFrameBuf = [] then
        { r with videoKeyframe := nalType = 5, videoFrameTs := rtp.timestamp }
      else r
    let r := { r with videoFrameBuf := r.videoFrameBuf ++ startCode ++ rtp.payload }
    if rtp.marker then r.flushVideoFrame cfg else r

def beginFragment (timestamp : UInt32) (nalHeader : UInt8) (isIdr : Bool) : PeerRecorder :=
  let r := if r.videoFrameBuf ≠ [] then r.flushVideoFrame cfg else r
  { r with
    videoKeyframe := isIdr
    videoFrameTs := timestamp
    videoFrameBuf := r.videoFrameBuf ++ startCode ++ [nalHeader] }

/-- A fragment of a NAL unit, behind its two bytes.  The last one ends a frame. -/
def takeFragment (indicator fuHeader : UInt8) (chunk : List UInt8) : PeerRecorder :=
  let fuNalType := fuHeader &&& 0x1F
  let r :=
    if fuHeader &&& 0x80 ≠ 0 then
      r.beginFragment cfg rtp.timestamp ((indicator &&& 0xE0) ||| fuNalType) (fuNalType = 5)
    else r
  let r := { r with videoFrameBuf := r.videoFrameBuf ++ chunk }
  if fuHeader &&& 0x40 ≠ 0 ∨ rtp.marker then r.flushVideoFrame cfg else r

/-- A NAL unit of an aggregation packet.  Its type is in the byte at its place even if it is
empty, which then is one of what comes behind it; at the end of the packet that byte is taken to
be zero. -/
def takeAggregated (timestamp : UInt32) (nalu rest : List UInt8) : PeerRecorder :=
  let nt := (nalu ++ rest).headD 0 &&& 0x1F
  if nt = 7 then { r with h264Sps := nalu }
  else if nt = 8 then { r with h264Pps := nalu }
  else
    { r with
      videoKeyframe := if nt = 5 then true else r.videoKeyframe
      videoFrameTs := if r.videoFrameBuf = [] then timestamp else r.videoFrameTs
      videoFrameBuf := r.videoFrameBuf ++ startCode ++ nalu }

def takeAggregation (timestamp : UInt32) : ℕ → PeerRecorder → List UInt8 → PeerRecorder
  | 0, r, _ => r
  | fuel + 1, r, data =>
    if data.length < 2 then r
    else
      let nalSize := (data.getD 0 0).toNat <<< 8 ||| (data.getD 1 0).toNat
      let rest := data.drop 2
      if rest.length < nalSize then r
      else
        takeAggregation timestamp fuel
          (r.takeAggregated timestamp (rest.take nalSize) (rest.drop nalSize)) (rest.drop nalSize)

def depacketizeH264 : PeerRecorder :=
  match rtp.payload with
  | [] => r
  | indicator :: data =>
    let nalType := indicator &&& 0x1F
    if 1 ≤ nalType ∧ nalType ≤ 23 then r.takeNalu cfg rtp nalType
    else if nalType = 28 then
      match data with
      | [] => r
      | fuHeader :: chunk => r.takeFragment cfg rtp indicator fuHeader chunk
    else if nalType = 24 then
      let r := takeAggregation rtp.timestamp data.length r data
      if rtp.marker ∧ r.videoFrameBuf ≠ [] then r.flushVideoFrame cfg else r
    else r

end PeerRecorder

open PeerRecorder

def stripVp8Descriptor (data : List UInt8) : List UInt8 × Bool :=
  match data with
  | [] => ([], false)
  | first :: _ =>
    let isStart : Bool := first &&& 0x10 ≠ 0
    if first &&& 0x80 ≠ 0 then
      if data.length < 2 then ([], isStart)
      else
        let x := data.getD 1 0
        let skip :=
          if x &&& 0x80 ≠ 0 then
            if 3 < data.length ∧ data.getD 2 0 &&& 0x80 ≠ 0 then 4 else 3
          else 2
        let skip := if x &&& 0x40 ≠ 0 then skip + 1 else skip
        let skip := if x &&& 0x20 ≠ 0 ∨ x &&& 0x10 ≠ 0 then skip + 1 else skip
        (data.drop skip, isStart)
    else (data.drop 1, isStart)

namespace PeerRecorder

variable (cfg : RecorderConfig) (r : PeerRecorder)

def depacketizeVp8 (rtp : RtpHeader) : PeerRecorder :=
  let (vp8Data, isStart) := stripVp8Descriptor rtp.payload
  if vp8Data = [] then r
  else
    let r : PeerRecorder :=
      if isStart ∧ r.videoFrameBuf ≠ [] then r.flushVideoFrame cfg else r
    let r : PeerRecorder :=
      if isStart then
        { r with videoFrameTs := rtp.timestamp, videoKeyframe := vp8Data.headD 0 &&& 0x01 = 0 }
      else r
    let r := { r with videoFrameBuf := r.videoFrameBuf ++ vp8Data }
    if rtp.marker then r.flushVideoFrame cfg else r

def writePacket (rtp : RtpHeader) : PeerRecorder :=
  if !r.outputFormat then r
  else if rtp.payloadType = cfg.audioPT then
    let r := { r with audioClock := r.audioClock.start rtp.timestamp }
    if r.headerDeferred then
      if r.pendingAudio.length < kMaxPendingAudioPackets then
        { r with pendingAudio := r.pendingAudio ++ [(rtp.timestamp, rtp.payload)] }
      else { r with pendingAudioDrops := r.pendingAudioDrops + 1 }
    else r.writeAudioPacket cfg rtp.timestamp rtp.payload
  else if rtp.payloadType = cfg.videoPT then
    let r := { r with videoClock := r.videoClock.start rtp.timestamp }
    match cfg.videoCodec with
    | .h264 => r.depacketizeH264 cfg rtp
    | .vp8 => r.depacketizeVp8 cfg rtp
  else r

def recvPacket (r : PeerRecorder) (packet : List UInt8) : PeerRecorder :=
  match RtpHeader.parse packet with
  | none => r
  | some rtp => r.writePacket cfg rtp

def recvPackets (packets : List (List UInt8)) : PeerRecorder := packets.foldl (recvPacket cfg) r

end PeerRecorder

/-! ### Frames -/

def Nalu.IsParameterSet (nalu : Nalu) : Prop :=
  nalu.header &&& 0x1F = 7 ∨ nalu.header &&& 0x1F = 8

def frameBuf (nalus : List Nalu) : List UInt8 := annexB (nalus.map fun nalu => (true, nalu))

theorem frameBuf_concat (nalus : List Nalu) (nalu : Nalu) :
    frameBuf (nalus ++ [nalu]) = frameBuf nalus ++ startCode ++ nalu.bytes := by
  rw [frameBuf, map_append, annexB, flatMap_append, append_assoc]
  exact congrArg (fun bytes => _ ++ bytes) (append_nil _)

theorem frameBuf_ne_nil {nalus : List Nalu} (h : nalus ≠ []) : frameBuf nalus ≠ [] := by
  have hlen := length_le_length_annexB (nalus.map fun nalu => (true, nalu))
  rw [length_map] at hlen
  exact length_pos_iff.mp (Nat.lt_of_lt_of_le (length_pos_iff.mpr h) hlen)

structure IsFrame (frame : AvPacket) (nalus : List Nalu) : Prop where
  stream : frame.stream = .video
  data : frame.data = (nalus.map Nalu.bytes).flatMap avccNalu
  size : frame.size = toInt frame.data.length

namespace PeerRecorder

theorem flushVideoFrame_of_header {cfg : RecorderConfig} {r : PeerRecorder}
    (hfile : r.outputFormat) (hhead : r.headerDeferred = false)
    (hbuf : r.videoFrameBuf ≠ []) : r.flushVideoFrame cfg = r.writeVideoFrame cfg := by
  have hrdy : ¬(r.videoFrameBuf = [] ∨ (!r.outputFormat)) := by
    rw [hfile]
    exact not_or.mpr ⟨hbuf, by decide⟩
  rw [flushVideoFrame, if_neg hrdy, hhead, if_neg (by decide)]

theorem written_writeVideoFrame (cfg : RecorderConfig) (r : PeerRecorder) :
    ∃ pts, (r.writeVideoFrame cfg).written = r.written ++ [r.videoFrame cfg pts] :=
  ⟨_, rfl⟩

end PeerRecorder

/-- Since `r₀`, these frames were written, and these bytes are in the buffer now. -/
structure Recorded (r₀ : PeerRecorder) (frames : List (List Nalu)) (buf : List UInt8)
    (r : PeerRecorder) : Prop where
  file : r.outputFormat = true
  header : r.headerDeferred = false
  written : ∃ packets, r.written = r₀.written ++ packets ∧ List.Forall₂ IsFrame packets frames
  buffer : r.videoFrameBuf = buf

def flushNalus : List Nalu → List (List Nalu)
  | [] => []
  | nalu :: nalus => [nalu :: nalus]

@[simp] theorem flushNalus_nil : flushNalus [] = [] := rfl

theorem flushNalus_of_ne_nil {nalus : List Nalu} (h : nalus ≠ []) : flushNalus nalus = [nalus] := by
  match nalus with
  | [] => exact absurd rfl h
  | _ :: _ => rfl

namespace Recorded

variable {cfg : RecorderConfig} {r₀ r : PeerRecorder} {frames : List (List Nalu)}
  {buf : List UInt8} {nalus : List Nalu} {nalu : Nalu}

theorem congr (h : Recorded r₀ frames buf r) {r' : PeerRecorder} {buf' : List UInt8}
    (hfile : r'.outputFormat = r.outputFormat) (hhead : r'.headerDeferred = r.headerDeferred)
    (hwrit : r'.written = r.written) (hbuffer : r'.videoFrameBuf = buf') :
    Recorded r₀ frames buf' r' where
  file := hfile.trans h.file
  header := hhead.trans h.header
  written := by
    rw [hwrit]
    exact h.written
  buffer := hbuffer

theorem append (h : Recorded r₀ frames buf r) (bytes : List UInt8) :
    Recorded r₀ frames (buf ++ bytes) { r with videoFrameBuf := r.videoFrameBuf ++ bytes } :=
  h.congr rfl rfl rfl (congrArg (· ++ bytes) h.buffer)

section

variable (hcod : cfg.videoCodec = .h264)
include hcod

section

variable (h : Recorded r₀ frames (frameBuf nalus) r)
include h

theorem flush : Recorded r₀ (frames ++ flushNalus nalus) [] (r.flushVideoFrame cfg) := by
  by_cases hnalus : nalus = []
  · subst hnalus
    rw [flushVideoFrame, if_pos (.inl h.buffer), flushNalus_nil, append_nil]
    exact h
  have hbuf : r.videoFrameBuf ≠ [] := by
    rw [h.buffer]
    exact frameBuf_ne_nil hnalus
  have hdata : r.writeData cfg = (nalus.map Nalu.bytes).flatMap avccNalu := by
    rw [writeData, hcod, h.buffer, flatMap_map]
    exact (annexBToAvcc_annexB _).trans (flatMap_map _ _ _)
  obtain ⟨packets, hwrit, hfrs⟩ := h.written
  obtain ⟨pts, hfrm⟩ := r.written_writeVideoFrame cfg
  rw [flushVideoFrame_of_header h.file h.header hbuf, flushNalus_of_ne_nil hnalus]
  refine ⟨h.file, h.header, ⟨packets ++ [r.videoFrame cfg pts], ?_, ?_⟩, rfl⟩
  · rw [hfrm, hwrit, append_assoc]
  have hfrm : IsFrame (r.videoFrame cfg pts) nalus :=
    ⟨rfl, hdata, by simp only [videoFrame]⟩
  exact rel_append hfrs (.cons hfrm .nil)

theorem takeNalu {rtp : RtpHeader} (hpay : rtp.payload = nalu.bytes) {nalType : UInt8}
    (hsps : nalType ≠ 7) (hpps : nalType ≠ 8) : if rtp.marker then
      Recorded r₀ (frames ++ flushNalus (nalus ++ [nalu])) [] (r.takeNalu cfg rtp nalType)
    else Recorded r₀ frames (frameBuf (nalus ++ [nalu])) (r.takeNalu cfg rtp nalType) := by
  -- the first NAL unit of a frame gives it its time
  have hbegun : Recorded r₀ frames (frameBuf nalus)
      (if r.videoFrameBuf = [] then
        { r with videoKeyframe := nalType = 5, videoFrameTs := rtp.timestamp }
      else r) := by
    split
    · exact h.congr rfl rfl rfl h.buffer
    · exact h
  have hbuffer := hbegun.append (startCode ++ nalu.bytes)
  rw [← append_assoc, ← frameBuf_concat] at hbuffer
  rw [PeerRecorder.takeNalu, if_neg hsps, if_neg hpps, hpay]
  simp only [append_assoc]
  cases rtp.marker with
  | true => exact hbuffer.flush hcod
  | false => exact hbuffer

theorem beginFragment (timestamp : UInt32) (nalHeader : UInt8)
    (isIdr : Bool) : Recorded r₀ (frames ++ flushNalus nalus) (startCode ++ [nalHeader])
      (r.beginFragment cfg timestamp nalHeader isIdr) := by
  have hflushed : Recorded r₀ (frames ++ flushNalus nalus) []
      (if r.videoFrameBuf ≠ [] then r.flushVideoFrame cfg else r) := by
    have hflush := h.flush hcod
    split
    · exact hflush
    next hemp =>
      rwa [flushVideoFrame, if_pos (.inl (not_ne_iff.mp hemp))] at hflush
  exact hflushed.congr rfl rfl rfl (congrArg (· ++ startCode ++ [nalHeader]) hflushed.buffer)

end

end

end Recorded

/-! ### Packets -/

structure RecorderConfig.TakesH264 (cfg : RecorderConfig) (payloadType : UInt8) : Prop where
  codec : cfg.videoCodec = .h264
  video : payloadType = cfg.videoPT
  not_audio : payloadType ≠ cfg.audioPT

theorem frameBuf_singleton (nalu : Nalu) : frameBuf [nalu] = startCode ++ nalu.bytes :=
  frameBuf_concat [] nalu

section Packets

variable {cfg : RecorderConfig} {payloadType : UInt8} {rtpTimestamp ssrc : UInt32}
  {r₀ : PeerRecorder} {frames : List (List Nalu)} {nalus : List Nalu} {nalu : Nalu}
  {sink : PacketSink}

theorem recvPackets_emit (hpt : payloadType < 128) (marker : Bool) (payload : List UInt8) :
    r₀.recvPackets cfg (sink.emit payloadType rtpTimestamp ssrc marker payload).packets =
      (r₀.recvPackets cfg sink.packets).writePacket cfg {
        payloadType
        sequenceNumber := sink.sequenceNumber
        timestamp := rtpTimestamp
        ssrc
        marker
        payload } := by
  rw [recvPackets, PacketSink.emit, foldl_append, foldl_cons,
    foldl_nil, recvPacket, RtpHeader.parse_writeRtpHeader hpt]
  rfl

variable (cfg) in
def SinkRecorded (r₀ : PeerRecorder) (frames : List (List Nalu)) (buf : List UInt8)
    (sink : PacketSink) : Prop :=
  Recorded r₀ frames buf (r₀.recvPackets cfg sink.packets)

theorem SinkRecorded.emit (hpt : payloadType < 128) (hcfg : cfg.TakesH264 payloadType)
    {buf : List UInt8} (h : SinkRecorded cfg r₀ frames buf sink) (marker : Bool)
    (payload : List UInt8) :
    ∃ r rtp, Recorded r₀ frames buf r ∧ rtp.marker = marker ∧ rtp.payload = payload ∧
      r₀.recvPackets cfg (sink.emit payloadType rtpTimestamp ssrc marker payload).packets =
        r.depacketizeH264 cfg rtp := by
  let r := r₀.recvPackets cfg sink.packets
  refine ⟨{ r with videoClock := r.videoClock.start rtpTimestamp },
    ⟨payloadType, sink.sequenceNumber, rtpTimestamp, ssrc, marker, payload⟩,
    h.congr rfl rfl rfl h.buffer, rfl, rfl, ?_⟩
  rw [recvPackets_emit hpt, writePacket, h.file, if_neg (by decide),
    if_neg hcfg.not_audio, if_pos hcfg.video, hcfg.codec]

theorem SinkRecorded.single (hpt : payloadType < 128) (hcfg : cfg.TakesH264 payloadType)
    (hnalu : ¬nalu.IsParameterSet) (h : SinkRecorded cfg r₀ frames (frameBuf nalus) sink)
    (marker : Bool) : let sink' := sink.emit payloadType rtpTimestamp ssrc marker nalu.bytes
    if marker then SinkRecorded cfg r₀ (frames ++ flushNalus (nalus ++ [nalu])) [] sink'
    else SinkRecorded cfg r₀ frames (frameBuf (nalus ++ [nalu])) sink' := by
  obtain ⟨_, hbs⟩ := List.head?_eq_some_iff.mp nalu.head?_bytes
  obtain ⟨hsps, hpps⟩ := not_or.mp hnalu
  obtain ⟨r, rtp, hr, rfl, hpay, heq⟩ :=
    @SinkRecorded.emit cfg payloadType rtpTimestamp ssrc r₀ frames sink hpt hcfg _ h marker
      nalu.bytes
  have htake : r.depacketizeH264 cfg rtp = r.takeNalu cfg rtp (nalu.header &&& 0x1F) := by
    rw [depacketizeH264, hpay, hbs]
    exact if_pos ⟨nalu.type_pos, nalu.type_le⟩
  dsimp only [SinkRecorded]
  rw [heq, htake]
  exact hr.takeNalu hcfg.codec hpay hsps hpps

theorem fuHeader_type : ∀ (header : UInt8) (first isEnd : Bool),
    ((header &&& 0x1F) ||| (if first then 0x80 else 0x00) ||| (if isEnd then 0x40 else 0x00))
      &&& 0x1F = header &&& 0x1F := by
  decide +kernel

theorem PeerRecorder.depacketizeH264_fuPayload {r : PeerRecorder} {rtp : RtpHeader}
    {header : UInt8} {first isEnd : Bool} {chunk : List UInt8}
    (hpay : rtp.payload = fuPayload header first isEnd chunk) : r.depacketizeH264 cfg rtp =
      let r := if first then r.beginFragment cfg rtp.timestamp header (header &&& 0x1F = 5) else r
      let r := { r with videoFrameBuf := r.videoFrameBuf ++ chunk }
      if isEnd ∨ rtp.marker then r.flushVideoFrame cfg else r := by
  obtain ⟨htype, hhead, hfst, hend⟩ := fuBytes header first isEnd
  have hfst' := decide_eq_true_iff.symm.trans (Bool.eq_iff_iff.mp hfst)
  rw [depacketizeH264, hpay, fuPayload]
  dsimp only
  rw [htype, if_neg (by decide), if_pos rfl, takeFragment, hhead, fuHeader_type]
  simp only [hend, hfst']

variable (cfg) in
def SinkExpects (r₀ : PeerRecorder) (header : UInt8) (first : Bool) (frames : List (List Nalu))
    (pre : List UInt8) (sink : PacketSink) : Prop :=
  if first then
    ∃ before nalus, frames = before ++ flushNalus nalus ∧ pre = [header] ∧
      SinkRecorded cfg r₀ before (frameBuf nalus) sink
  else SinkRecorded cfg r₀ frames (startCode ++ pre) sink

theorem SinkExpects.emit (hpt : payloadType < 128) (hcfg : cfg.TakesH264 payloadType)
    {header : UInt8} {first : Bool} {pre : List UInt8}
    (h : SinkExpects cfg r₀ header first frames pre sink) (isEnd marker : Bool)
    (chunk : List UInt8) : ∃ r, Recorded r₀ frames (startCode ++ (pre ++ chunk)) r ∧
      r₀.recvPackets cfg (sink.emit payloadType rtpTimestamp ssrc marker
          (fuPayload header first isEnd chunk)).packets =
        if isEnd ∨ marker then r.flushVideoFrame cfg else r := by
  cases first with
  | true =>
    obtain ⟨before, _, rfl, rfl, hsink⟩ := h
    obtain ⟨r, rtp, hr, rfl, hpay, heq⟩ := @SinkRecorded.emit cfg payloadType rtpTimestamp
      ssrc r₀ before sink hpt hcfg _ hsink marker (fuPayload header true isEnd chunk)
    refine ⟨_, ?_, heq.trans (depacketizeH264_fuPayload hpay)⟩
    rw [← append_assoc]
    exact (hr.beginFragment hcfg.codec rtp.timestamp header _).append chunk
  | false =>
    obtain ⟨r, rtp, hr, rfl, hpay, heq⟩ := @SinkRecorded.emit cfg payloadType rtpTimestamp
      ssrc r₀ frames sink hpt hcfg _ h marker (fuPayload header false isEnd chunk)
    refine ⟨_, ?_, heq.trans (depacketizeH264_fuPayload hpay)⟩
    exact hr.append chunk

theorem Fragments.recorded (hpt : payloadType < 128) (hcfg : cfg.TakesH264 payloadType)
    {header : UInt8} {first : Bool} {bytes : List UInt8} {payloads : List (List UInt8)}
    (h : Fragments header first bytes payloads) (marker : Bool) (pre : List UInt8)
    (hnalu : nalu.bytes = pre ++ bytes) (hsink : SinkExpects cfg r₀ header first frames pre sink) :
    SinkRecorded cfg r₀ (frames ++ [[nalu]]) []
      (emitAll payloadType rtpTimestamp ssrc marker payloads sink) := by
  induction h generalizing pre sink with
  | @last first chunk =>
    obtain ⟨r, hr, heq⟩ :=
      @SinkExpects.emit cfg payloadType rtpTimestamp ssrc r₀ frames sink hpt hcfg header first pre
        hsink true marker chunk
    rw [← hnalu, ← frameBuf_singleton] at hr
    rw [SinkRecorded, emitAll, heq, if_pos (.inl rfl)]
    exact hr.flush hcfg.codec
  | @more first chunk rest payloads _ hrest ih =>
    obtain ⟨r, hr, heq⟩ :=
      @SinkExpects.emit cfg payloadType rtpTimestamp ssrc r₀ frames sink hpt hcfg header first pre
        hsink false false chunk
    rw [emitAll_cons _ _ hrest.ne_nil]
    refine ih (pre ++ chunk) (by rw [hnalu, append_assoc]) ?_
    rw [if_neg (by decide)] at heq
    rw [← heq] at hr
    exact hr

/-! ### Access units -/

def frameNalus (nalus : List Nalu) : List Nalu → List (List Nalu)
  | [] => flushNalus nalus
  | nalu :: rest =>
    if nalu.bytes.length ≤ kMaxPayloadBytes then frameNalus (nalus ++ [nalu]) rest
    else flushNalus nalus ++ [nalu] :: frameNalus [] rest

theorem UnitPayloads.eq_nil_iff {nalus : List Nalu} {payloads : List (List UInt8)}
    (h : UnitPayloads nalus payloads) : payloads = [] ↔ nalus = [] := by
  cases h with
  | nil => exact iff_of_true rfl rfl
  | cons hblk _ =>
    exact iff_of_false (append_ne_nil_of_left_ne_nil hblk.ne_nil _) (cons_ne_nil _ _)

theorem UnitPayloads.recorded (hpt : payloadType < 128) (hcfg : cfg.TakesH264 payloadType)
    {rest : List Nalu} {payloads : List (List UInt8)} (h : UnitPayloads rest payloads)
    (hrest : rest ≠ []) (hpar : ∀ nalu ∈ rest, ¬nalu.IsParameterSet)
    (hsink : SinkRecorded cfg r₀ frames (frameBuf nalus) sink) :
    SinkRecorded cfg r₀ (frames ++ frameNalus nalus rest) []
      (emitAll payloadType rtpTimestamp ssrc true payloads sink) := by
  induction h generalizing nalus frames sink with
  | nil => exact absurd rfl hrest
  | @cons nalu rest block payloads hblk hpays ih =>
    obtain ⟨hnalu, hpar⟩ := forall_mem_cons.mp hpar
    have hlast : payloads = [] ↔ rest = [] := hpays.eq_nil_iff
    cases hblk with
    | single hsize =>
      have hsing := fun marker =>
        @SinkRecorded.single cfg payloadType rtpTimestamp ssrc r₀ frames nalus nalu sink hpt hcfg
          hnalu hsink marker
      rw [frameNalus, if_pos hsize]
      by_cases hemp : rest = []
      · -- the last packet has the marker
        rw [hemp, hlast.mpr hemp]
        exact hsing true
      · rw [emitAll_append _ _ (mt hlast.mp hemp)]
        exact ih hemp hpar (hsing false)
    | fragmented hsize hbs hfrags =>
      have hfrags := fun marker =>
        @Fragments.recorded cfg payloadType rtpTimestamp ssrc r₀ (frames ++ flushNalus nalus) nalu
          sink hpt hcfg _ _ _ _ hfrags marker [nalu.header] hbs
          ⟨frames, nalus, rfl, rfl, hsink⟩
      rw [frameNalus, if_neg (Nat.not_le.mpr hsize), append_cons, ← append_assoc, ← append_assoc]
      by_cases hemp : rest = []
      · rw [hemp, hlast.mpr hemp, append_nil, frameNalus, flushNalus_nil, append_nil]
        exact hfrags true
      · rw [emitAll_append _ _ (mt hlast.mp hemp)]
        exact ih hemp hpar (hfrags false)

end Packets

theorem flatten_frameNalus (nalus rest : List Nalu) :
    (frameNalus nalus rest).flatten = nalus ++ rest := by
  have hflush : ∀ nalus : List Nalu, (flushNalus nalus).flatten = nalus := by
    intro nalus
    cases nalus with
    | nil => rfl
    | cons nalu nalus => exact flatten_singleton
  induction rest generalizing nalus with
  | nil => rw [frameNalus, hflush, append_nil]
  | cons nalu rest ih =>
    rw [frameNalus]
    split
    · rw [ih, ← append_cons]
    · rw [flatten_append, hflush, flatten_cons, ih]
      rfl

theorem length_frameNalus_eq_zero_iff {nalus rest : List Nalu} :
    (frameNalus nalus rest).length = 0 ↔ nalus = [] ∧ rest = [] := by
  rw [length_eq_zero_iff, ← append_eq_nil_iff]
  constructor
  · intro h
    rw [← flatten_frameNalus, h, flatten_nil]
  intro h
  obtain ⟨rfl, rfl⟩ := append_eq_nil_iff.mp h
  rfl

theorem length_frameNalus_eq_one_iff {nalus rest : List Nalu} : (frameNalus nalus rest).length = 1 ↔
      nalus ++ rest ≠ [] ∧ ((nalus = [] ∧ rest.length = 1) ∨
        ∀ nalu ∈ rest, nalu.bytes.length ≤ kMaxPayloadBytes) := by
  induction rest generalizing nalus with
  | nil =>
    cases nalus with
    | nil => simp [frameNalus]
    | cons nalu nalus => simp [frameNalus, flushNalus]
  | cons nalu rest ih =>
    rw [frameNalus]
    split
    next hsize =>
      rw [ih, forall_mem_cons, ← append_cons]
      refine and_congr_right fun _ => ?_
      constructor
      · rintro (⟨hnot, -⟩ | hfit)
        · exact absurd hnot (append_ne_nil_of_right_ne_nil _ (cons_ne_nil _ _))
        · exact .inr ⟨hsize, hfit⟩
      rintro (⟨-, hone⟩ | ⟨-, hfit⟩)
      · have hrest : rest = [] := length_eq_zero_iff.mp (Nat.succ_injective hone)
        rw [hrest]
        exact .inr fun _ h => (by cases h)
      · exact .inr hfit
    next hsize =>
      -- the NAL unit is a frame of its own, so there is no other
      have hbef := @length_frameNalus_eq_zero_iff nalus []
      have haft := @length_frameNalus_eq_zero_iff [] rest
      rw [frameNalus] at hbef
      simp only [and_true, true_and] at hbef haft
      rw [length_append, length_cons]
      constructor
      · intro hone
        have hnalus := hbef.mp (by omega)
        have hrest := haft.mp (by omega)
        subst hnalus hrest
        exact ⟨cons_ne_nil _ _, .inl ⟨rfl, rfl⟩⟩
      · rintro ⟨-, ⟨hnalus, hone⟩ | hfit⟩
        · have hrest : rest = [] := length_eq_zero_iff.mp (Nat.succ_injective hone)
          rw [hbef.mpr hnalus, haft.mpr hrest]
        · exact absurd (hfit nalu mem_cons_self) hsize

theorem frameNalus_eq_singleton {nalus : List Nalu} (h : (frameNalus [] nalus).length = 1) :
    frameNalus [] nalus = [nalus] := by
  obtain ⟨_, hfrm⟩ := length_eq_one_iff.mp h
  have hflat := flatten_frameNalus [] nalus
  rw [hfrm, flatten_singleton, nil_append] at hflat
  rw [hfrm, hflat]

/-! ### One frame for an access unit -/

def OneFrame (before after : PeerRecorder) (nalus : List (List UInt8)) : Prop :=
  ∃ frame, after.written = before.written ++ [frame] ∧ frame.stream = .video ∧
    decodeAvcc frame.payload = some nalus ∧ after.videoFrameBuf = []

theorem toInt_lt (size : ℕ) : toInt size < 2147483648 := by
  unfold toInt
  have := @Int.bmod_lt (size : ℤ) 4294967296 (by decide)
  omega

theorem toInt_of_lt {size : ℕ} (h : size < 2147483648) : toInt size = size := by
  exact Int.bmod_eq_of_le (by omega) (by omega)

theorem IsFrame.decodeAvcc_payload_iff {frame : AvPacket} {nalus : List Nalu}
    (h : IsFrame frame nalus) : decodeAvcc frame.payload = some (nalus.map Nalu.bytes) ↔
      avccSize (nalus.map Nalu.bytes) < 2147483648 := by
  have hlen : frame.data.length = avccSize (nalus.map Nalu.bytes) := by
    rw [h.data, length_flatMap_avccNalu]
  constructor
  · intro hdec
    have hsize := length_of_decodeAvcc hdec
    have hlt := toInt_lt frame.data.length
    rw [AvPacket.payload, length_take, h.size] at hsize
    omega
  intro hlt
  rw [← hlen] at hlt
  have hpay : frame.payload = frame.data := by
    rw [AvPacket.payload, h.size, toInt_of_lt hlt, Int.toNat_natCast, take_length]
  rw [hpay, h.data]
  exact decodeAvcc_flatMap (by omega)

theorem written_writePacket {cfg : RecorderConfig} (r : PeerRecorder) {rtp : RtpHeader}
    (h : ¬(rtp.payloadType = cfg.videoPT ∧ rtp.payloadType ≠ cfg.audioPT)) :
    ∃ packets, (r.writePacket cfg rtp).written = r.written ++ packets ∧
      ∀ packet ∈ packets, packet.stream = .audio := by
  have hsame : ∀ r' : PeerRecorder, r'.written = r.written →
      ∃ packets, r'.written = r.written ++ packets ∧ ∀ packet ∈ packets, packet.stream = .audio :=
    fun r' hwrit => ⟨[], by rw [hwrit, append_nil], fun _ hp => (by cases hp)⟩
  rw [writePacket]
  split
  · exact hsame _ rfl
  split
  · dsimp only
    split
    · split <;> exact hsame _ rfl
    · exact ⟨[_], rfl, forall_mem_singleton.mpr rfl⟩
  next haud =>
    rw [if_neg fun hvid => h ⟨hvid, haud⟩]
    exact hsame _ rfl

section Unit

variable {cfg : RecorderConfig} {payloadType : UInt8} {r : PeerRecorder}

theorem packetizeAnnexB_recorded (hpt : payloadType < 128) (rtpTimestamp ssrc : UInt32)
    (sequenceNumber : UInt16) (hcfg : cfg.TakesH264 payloadType) (hfile : r.outputFormat)
    (hhead : r.headerDeferred = false) (hbuffer : r.videoFrameBuf = [])
    {units : List (Bool × Nalu)} (hpar : ∀ u ∈ units, ¬u.2.IsParameterSet) :
    SinkRecorded cfg r (frameNalus [] (units.map Prod.snd)) []
      (packetizeAnnexB payloadType rtpTimestamp ssrc (annexB units) { sequenceNumber }).2 := by
  have hsink : SinkRecorded cfg r [] (frameBuf []) { sequenceNumber } :=
    ⟨hfile, hhead, ⟨[], (append_nil _).symm, .nil⟩, hbuffer⟩
  obtain ⟨_, hpays, hemit⟩ :=
    packetizeAnnexB_payloads payloadType rtpTimestamp ssrc units { sequenceNumber }
  rw [hemit]
  by_cases hunit : units.map Prod.snd = []
  · rw [hunit, hpays.eq_nil_iff.mpr hunit]
    exact hsink
  · exact hpays.recorded hpt hcfg hunit (forall_mem_map.mpr hpar) hsink

theorem not_oneFrame_packetizeAnnexB (hpt : payloadType < 128) (rtpTimestamp ssrc : UInt32)
    (sequenceNumber : UInt16) (htype : ¬(payloadType = cfg.videoPT ∧ payloadType ≠ cfg.audioPT))
    (units : List (Bool × Nalu)) (nalus : List (List UInt8)) : ¬OneFrame r (r.recvPackets cfg
      (packetizeAnnexB payloadType rtpTimestamp ssrc (annexB units) { sequenceNumber }).2.packets)
      nalus := by
  obtain ⟨payloads, -, hemit⟩ :=
    packetizeAnnexB_payloads payloadType rtpTimestamp ssrc units { sequenceNumber }
  have haud : ∃ packets, (r.recvPackets cfg (emitAll payloadType rtpTimestamp ssrc true payloads
      { sequenceNumber }).packets).written = r.written ++ packets ∧
        ∀ packet ∈ packets, packet.stream = .audio := by
    refine emitAll_inv (P := fun sink => ∃ packets,
      (r.recvPackets cfg sink.packets).written = r.written ++ packets ∧
        ∀ packet ∈ packets, packet.stream = .audio) ?_ true payloads ?_
    · rintro marker payload sink ⟨packets, hwrit, hpack⟩
      rw [recvPackets_emit hpt]
      obtain ⟨packets', hwrit', hpack'⟩ :=
        @written_writePacket cfg (r.recvPackets cfg sink.packets)
          ⟨payloadType, sink.sequenceNumber, rtpTimestamp, ssrc, marker, payload⟩ htype
      refine ⟨packets ++ packets', ?_, forall_mem_append.mpr ⟨hpack, hpack'⟩⟩
      rw [hwrit', hwrit, append_assoc]
    · exact ⟨[], (append_nil _).symm, fun _ hp => (by cases hp)⟩
  rw [hemit]
  rintro ⟨frame, hfrm, hstr, -⟩
  obtain ⟨packets, hwrit, hpack⟩ := haud
  have hmem : frame ∈ packets := by
    rw [append_cancel_left (hwrit.symm.trans hfrm)]
    exact mem_singleton_self frame
  rw [hpack frame hmem] at hstr
  cases hstr

/-- **An access unit makes one frame that holds it exactly if it is sent as the video, is not
empty, has one NAL unit or only NAL units that fit into a packet, and the size of the frame is one
of 31 bits.** -/
theorem oneFrame_iff (hpt : payloadType < 128) (rtpTimestamp ssrc : UInt32)
    (sequenceNumber : UInt16) (hcod : cfg.videoCodec = .h264) (hfile : r.outputFormat = true)
    (hhead : r.headerDeferred = false) (hbuffer : r.videoFrameBuf = [])
    (units : List (Bool × Nalu)) (hpar : ∀ u ∈ units, ¬u.2.IsParameterSet) :
    OneFrame r (r.recvPackets cfg
        (packetizeAnnexB payloadType rtpTimestamp ssrc (annexB units) { sequenceNumber }).2.packets)
        (units.map fun u => u.2.bytes) ↔
      (payloadType = cfg.videoPT ∧ payloadType ≠ cfg.audioPT) ∧ units ≠ [] ∧
        (units.length = 1 ∨ ∀ u ∈ units, u.2.bytes.length ≤ 1200) ∧
        avccSize (units.map fun u => u.2.bytes) < 2147483648 := by
  by_cases htype : payloadType = cfg.videoPT ∧ payloadType ≠ cfg.audioPT
  · have hbs : (units.map fun u => u.2.bytes) = (units.map Prod.snd).map Nalu.bytes := by
      rw [map_map]
      rfl
    have hrec := packetizeAnnexB_recorded hpt rtpTimestamp ssrc sequenceNumber
      ⟨hcod, htype.1, htype.2⟩ hfile hhead hbuffer hpar
    obtain ⟨packets, hwrit, hfrs⟩ := hrec.written
    have hcnt := @length_frameNalus_eq_one_iff [] (units.map Prod.snd)
    rw [nil_append, Ne, map_eq_nil_iff, length_map, forall_mem_map] at hcnt
    have hcond : (frameNalus [] (units.map Prod.snd)).length = 1 ↔
        units ≠ [] ∧ (units.length = 1 ∨ ∀ u ∈ units, u.2.bytes.length ≤ 1200) := by
      rw [hcnt, eq_self, true_and]
      rfl
    rw [and_iff_right htype, ← and_assoc, ← hcond, hbs]
    constructor
    · rintro ⟨frame, hfrm, -, hdec, -⟩
      have hpack : packets = [frame] := append_cancel_left (hwrit.symm.trans hfrm)
      rw [hpack] at hfrs
      have hone := hfrs.length_eq.symm
      rw [frameNalus_eq_singleton hone] at hfrs
      obtain _ | ⟨hfrm, -⟩ := hfrs
      exact ⟨hone, hfrm.decodeAvcc_payload_iff.mp hdec⟩
    · rintro ⟨hone, hsize⟩
      rw [frameNalus_eq_singleton hone] at hfrs
      obtain ⟨frame, _, hfrm, hrest, rfl⟩ := forall₂_cons_right_iff.mp hfrs
      rw [forall₂_nil_right_iff.mp hrest] at hwrit
      exact ⟨frame, hwrit, hfrm.stream, hfrm.decodeAvcc_payload_iff.mpr hsize, hrec.buffer⟩
  · exact iff_of_false (not_oneFrame_packetizeAnnexB hpt _ _ _ htype _ _) fun h => htype h.1

end Unit

def Nalu.ofNonzero (header : UInt8) (rest : List UInt8) (hpos : 1 ≤ header &&& 0x1F)
    (hle : header &&& 0x1F ≤ 23) (hzero : 0 ∉ header :: rest) : Nalu where
  bytes := header :: rest
  header := header
  head?_bytes := rfl
  type_pos := hpos
  type_le := hle
  no_zeros := fun h => hzero (h.subset mem_cons_self)
  no_startCode := fun h => hzero (h.subset mem_cons_self)
  getLast?_bytes := fun h => hzero (mem_of_getLast? h)

def seiNalu : Nalu := .ofNonzero 0x06 [0xAA] (by decide) (by decide) (by decide)

def idrNalu : Nalu := .ofNonzero 0x65 [0xAA] (by decide) (by decide) (by decide)

def largeNalu : Nalu :=
  .ofNonzero 0x41 (List.replicate 1200 0xFF) (by decide) (by decide) (by
    rw [mem_cons, mem_replicate]
    decide)

def h264Recorder : RecorderConfig := { audioPT := 100, videoPT := 96, videoCodec := .h264 }

/-- Two NAL units that fit make one frame. -/
theorem oneFrame_iff_seiAndIdr :
    ∃ units : List (Bool × Nalu),
      units.map (fun u => u.2.bytes) = [[0x06, 0xAA], [0x65, 0xAA]] ∧
        OneFrame {} (PeerRecorder.recvPackets h264Recorder {}
          (packetizeAnnexB 96 90000 1234 (annexB units) { sequenceNumber := 65535 }).2.packets)
          [[0x06, 0xAA], [0x65, 0xAA]] := by
  refine ⟨[(true, seiNalu), (false, idrNalu)], rfl, ?_⟩
  refine (oneFrame_iff (by decide) 90000 1234 65535 rfl rfl rfl rfl
    [(true, seiNalu), (false, idrNalu)] ?_).mpr ?_
  · unfold Nalu.IsParameterSet
    decide
  · exact ⟨by decide, by decide, .inr (by decide), by decide⟩

/-- **Supplemental information and a large slice make two frames.** -/
theorem split_frames :
    ∃ units : List (Bool × Nalu), (∀ u ∈ units, ¬u.2.IsParameterSet) ∧
      units.map (fun u => u.2.bytes) = [[0x06, 0xAA], 0x41 :: List.replicate 1200 0xFF] ∧
        let after := PeerRecorder.recvPackets h264Recorder {}
          (packetizeAnnexB 96 90000 1234 (annexB units) { sequenceNumber := 0 }).2.packets
        after.written.length = 2 ∧ ¬OneFrame {} after (units.map fun u => u.2.bytes) := by
  have hpar : ∀ u ∈ [(true, seiNalu), (true, largeNalu)], ¬u.2.IsParameterSet := by
    unfold Nalu.IsParameterSet
    decide
  have hrec := @packetizeAnnexB_recorded h264Recorder 96 {} (by decide) 90000 1234 0
    ⟨rfl, rfl, by decide⟩ rfl rfl rfl _ hpar
  obtain ⟨packets, hwrit, hfrs⟩ := hrec.written
  have htwo : packets.length = 2 := hfrs.length_eq.trans (by decide +kernel)
  refine ⟨_, hpar, rfl, ?_⟩
  dsimp only
  rw [hwrit]
  refine ⟨htwo, ?_⟩
  rintro ⟨_, hfrm, -⟩
  rw [append_cancel_left (hwrit.symm.trans hfrm)] at htwo
  cases htwo

end MediasoupCpp
