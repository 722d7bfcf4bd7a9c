import MediasoupCpp.Lib.Except
import MediasoupCpp.Lib.Json
import Mathlib.Data.List.Forall2
import Mathlib.Data.List.Infix
import Mathlib.Data.List.Nodup
import Mathlib.Data.List.Perm.Basic

/-!
# The RTP capabilities of a router

A router is set up with a list of media codecs.  For each of them it takes the supported codec
that matches, with the payload type that the list asks for if it is free, and adds an RTX codec
for retransmissions.

Main result: `generateRouterRtpCapabilities_spec`.

Source: `src/ortc.h`, `src/supportedRtpCapabilities.h`, `src/RtpTypes.h`.
-/

namespace MediasoupCpp.Ortc

open List Except

/-! ### Codecs -/

structure RtcpFeedback where
  type : String
  parameter : String
  deriving DecidableEq

structure RtpCodecCapability where
  kind : String := ""
  mimeType : String
  preferredPayloadType : UInt32 := 0
  clockRate : UInt32 := 0
  channels : UInt8 := 0
  parameters : Json := .obj []
  rtcpFeedback : List RtcpFeedback := []
  deriving DecidableEq

structure RtpHeaderExtension where
  kind : String
  uri : String
  preferredId : UInt8 := 0
  preferredEncrypt : Bool := false
  direction : String := "sendrecv"
  deriving DecidableEq

structure RtpCapabilities where
  codecs : List RtpCodecCapability := []
  headerExtensions : List RtpHeaderExtension := []
  deriving DecidableEq

inductive OrtcError
  | runtime (message : String)
  | json (error : Json.TypeError)
  deriving DecidableEq

def liftJson {α : Type} : Except Json.TypeError α → Except OrtcError α
  | .ok a => .ok a
  | .error e => .error (.json e)

def toLower (s : String) : String := String.ofList (s.toList.map Char.toLower)

variable (mimeType : String)

def isRtxMimeType : Bool :=
  decide ("/rtx".toList <:+: (toLower mimeType).toList)

def RtpCodecCapability.isRtxCodec (codec : RtpCodecCapability) : Bool :=
  isRtxMimeType codec.mimeType

/-! ### Matching -/

def profileLevelId (params : Json) : Except Json.TypeError String :=
  match params.field? "profile-level-id" with
  | some profile => profile.toText
  | none => .ok "4d0032"

def lowerBytes (n : ℕ) (s : String) : List UInt8 := ((toLower s).toUTF8.data.toList).take n

def h264ProfilesMatch (aParams bParams : Json) : Except Json.TypeError Bool := do
  let aProfile ← profileLevelId aParams
  let bProfile ← profileLevelId bParams
  if 4 ≤ aProfile.utf8ByteSize ∧ 4 ≤ bProfile.utf8ByteSize then
    return decide (lowerBytes 4 aProfile = lowerBytes 4 bProfile)
  else return decide (aProfile = bProfile)

def sameInt (key : String) (default : ℤ) (aParams bParams : Json) : Except Json.TypeError Bool := do
  let a ← aParams.valueInt key default
  let b ← bParams.valueInt key default
  return decide (a = b)

def matchCodecs (aCodec bCodec : RtpCodecCapability) (strict : Bool) :
    Except Json.TypeError Bool :=
  if toLower aCodec.mimeType ≠ toLower bCodec.mimeType then .ok false
  else if aCodec.clockRate ≠ bCodec.clockRate then .ok false
  else if 0 < aCodec.channels ∧ 0 < bCodec.channels ∧ aCodec.channels ≠ bCodec.channels then
    .ok false
  else
    let mime := toLower aCodec.mimeType
    if mime = "video/h264" then do
      let sameMode ←
        if strict then sameInt "packetization-mode" 0 aCodec.parameters bCodec.parameters
        else .ok true
      if !sameMode then return false
      h264ProfilesMatch aCodec.parameters bCodec.parameters
    else if mime = "video/vp9" then
      if strict then sameInt "profile-id" 0 aCodec.parameters bCodec.parameters else .ok true
    else if mime = "video/h265" then
      if strict then sameInt "profile-id" 1 aCodec.parameters bCodec.parameters else .ok true
    else .ok true

/-! ### What is supported -/

def videoFeedback : List RtcpFeedback :=
  [⟨"nack", ""⟩, ⟨"nack", "pli"⟩, ⟨"ccm", "fir"⟩, ⟨"goog-remb", ""⟩, ⟨"transport-cc", ""⟩]

def plainAudio (preferredPayloadType clockRate : UInt32) : RtpCodecCapability where
  kind := "audio"
  mimeType := mimeType
  preferredPayloadType := preferredPayloadType
  clockRate := clockRate
  parameters := .null

def video (preferredPayloadType : UInt32) (parameters : Json) (rtcpFeedback : List RtcpFeedback) :
    RtpCodecCapability where
  kind := "video"
  mimeType := mimeType
  preferredPayloadType := preferredPayloadType
  clockRate := 90000
  parameters := parameters
  rtcpFeedback := rtcpFeedback

variable (preferredPayloadType : UInt32)

def videoRtx (apt : ℤ) : RtpCodecCapability :=
  video "video/rtx" preferredPayloadType (.obj [("apt", .int apt)]) []

def videoH264 (packetizationMode : ℤ) (profile : String) : RtpCodecCapability :=
  video "video/H264" preferredPayloadType
    (.obj [("level-asymmetry-allowed", .int 1), ("packetization-mode", .int packetizationMode),
      ("profile-level-id", .str profile)])
    videoFeedback

def supportedCodecs : List RtpCodecCapability :=
  [{ kind := "audio", mimeType := "audio/opus", preferredPayloadType := 100, clockRate := 48000,
     channels := 2, parameters := .obj [("minptime", .int 10), ("useinbandfec", .int 1)],
     rtcpFeedback := [⟨"nack", ""⟩, ⟨"transport-cc", ""⟩] },
    plainAudio "audio/PCMU" 0 8000,
    plainAudio "audio/PCMA" 8 8000,
    plainAudio "audio/ISAC" 0 32000,
    plainAudio "audio/ISAC" 0 16000,
    plainAudio "audio/G722" 9 8000,
    { kind := "audio", mimeType := "audio/multiopus", clockRate := 48000, channels := 6,
      parameters := .obj [("channel_mapping", .str "0,4,1,2,3,5"), ("num_streams", .int 4),
        ("coupled_streams", .int 2)],
      rtcpFeedback := [⟨"nack", ""⟩, ⟨"transport-cc", ""⟩] },
    video "video/VP8" 101 .null videoFeedback,
    videoRtx 102 101,
    video "video/VP9" 103 (.obj [("profile-id", .int 0)]) videoFeedback,
    videoRtx 104 103,
    video "video/VP9" 105 (.obj [("profile-id", .int 2)]) videoFeedback,
    videoRtx 106 105,
    videoH264 107 1 "4d0032",
    videoRtx 108 107,
    videoH264 109 0 "4d0032",
    videoRtx 110 109,
    videoH264 127 1 "42e01f",
    videoRtx 125 127,
    videoH264 126 0 "42e01f",
    videoRtx 124 126,
    video "video/H265" 111
      (.obj [("level-id", .int 93), ("profile-id", .int 1), ("tier-flag", .int 0)]) videoFeedback,
    videoRtx 112 111,
    video "video/AV1" 113
      (.obj [("level-idx", .int 5), ("profile", .int 0), ("tier", .int 0)])
      [⟨"nack", ""⟩, ⟨"nack", "pli"⟩, ⟨"ccm", "fir"⟩, ⟨"transport-cc", ""⟩],
    videoRtx 114 113]

def supportedHeaderExtensions : List RtpHeaderExtension :=
  [⟨"audio", "urn:ietf:params:rtp-hdrext:sdes:mid", 1, false, "sendrecv"⟩,
    ⟨"video", "urn:ietf:params:rtp-hdrext:sdes:mid", 1, false, "sendrecv"⟩,
    ⟨"video", "urn:ietf:params:rtp-hdrext:sdes:rtp-stream-id", 2, false, "recvonly"⟩,
    ⟨"video", "urn:ietf:params:rtp-hdrext:sdes:repaired-rtp-stream-id", 3, false, "recvonly"⟩,
    ⟨"audio", "http://www.webrtc.org/experiments/rtp-hdrext/abs-send-time", 4, false, "sendrecv"⟩,
    ⟨"video", "http://www.webrtc.org/experiments/rtp-hdrext/abs-send-time", 4, false, "sendrecv"⟩,
    ⟨"audio", "http://www.ietf.org/id/draft-holmer-rmcat-transport-wide-cc-extensions-01", 5, false,
      "recvonly"⟩,
    ⟨"video", "http://www.ietf.org/id/draft-holmer-rmcat-transport-wide-cc-extensions-01", 5, false,
      "recvonly"⟩,
    ⟨"audio", "urn:ietf:params:rtp-hdrext:ssrc-audio-level", 10, false, "sendrecv"⟩,
    ⟨"video", "urn:3gpp:video-orientation", 11, false, "sendrecv"⟩,
    ⟨"video", "urn:ietf:params:rtp-hdrext:toffset", 12, false, "sendrecv"⟩,
    ⟨"video", "http://www.webrtc.org/experiments/rtp-hdrext/abs-capture-time", 13, false,
      "sendrecv"⟩,
    ⟨"video", "http://www.webrtc.org/experiments/rtp-hdrext/playout-delay", 14, false,
      "sendrecv"⟩,
    ⟨"video",
      "https://aomediacodec.github.io/av1-rtp-spec/#dependency-descriptor-rtp-header-extension", 15,
      false, "sendrecv"⟩]

def getSupportedRtpCapabilities : RtpCapabilities where
  codecs := supportedCodecs
  headerExtensions := supportedHeaderExtensions

/-! ### The capabilities of a router -/

def DynamicPayloadTypes : List UInt8 :=
  [100, 101, 102, 103, 104, 105, 106, 107, 108, 109, 110, 111, 112, 113, 114, 115,
    116, 117, 118, 119, 120, 121, 122, 123, 124, 125, 126, 127, 96, 97, 98, 99]

structure RouterState where
  codecs : List RtpCodecCapability := []
  dynamicPTs : List UInt8 := DynamicPayloadTypes

def assignPayloadType (dynamicPTs : List UInt8) : Except OrtcError (UInt32 × List UInt8) :=
  if preferredPayloadType = 0 ∨ preferredPayloadType ∉ dynamicPTs.map UInt8.toUInt32 then
    match dynamicPTs with
    | [] => .error (.runtime "no dynamic PTs left")
    | pt :: rest => .ok (pt.toUInt32, rest)
  else
    .ok (preferredPayloadType, dynamicPTs.filter fun pt => pt.toUInt32 ≠ preferredPayloadType)

def rtxCodecOf (codec : RtpCodecCapability) (rtxPt : UInt8) : RtpCodecCapability where
  kind := codec.kind
  mimeType := codec.kind ++ "/rtx"
  preferredPayloadType := rtxPt.toUInt32
  clockRate := codec.clockRate
  parameters := .obj [("apt", .int codec.preferredPayloadType.toNat)]

def mergeParameters (parameters mediaParameters : Json) : Except Json.TypeError Json :=
  mediaParameters.items.foldlM (fun parameters (k, v) => parameters.set k v) parameters

def requestedPayloadType (mediaCodec supported : RtpCodecCapability) : UInt32 :=
  if 0 < mediaCodec.preferredPayloadType then mediaCodec.preferredPayloadType
  else supported.preferredPayloadType

variable (s : RouterState)

def enterCodec (codec : RtpCodecCapability) : Except OrtcError RouterState := do
  let (pt, dynamicPTs) ← assignPayloadType codec.preferredPayloadType s.dynamicPTs
  let codec := { codec with preferredPayloadType := pt }
  let codecs := s.codecs ++ [codec]
  if !codec.isRtxCodec then
    match dynamicPTs with
    | [] => .error (.runtime "no dynamic PTs left for RTX")
    | rtxPt :: dynamicPTs => .ok ⟨codecs ++ [rtxCodecOf codec rtxPt], dynamicPTs⟩
  else .ok ⟨codecs, dynamicPTs⟩

def addMediaCodec (mediaCodec : RtpCodecCapability) :
    Except OrtcError RouterState :=
  if mediaCodec.isRtxCodec then .error (.runtime "media codecs must not include RTX")
  else do
    let it ← liftJson (getSupportedRtpCapabilities.codecs.findM? (matchCodecs mediaCodec · false))
    match it with
    | none => .error (.runtime ("unsupported codec: " ++ mediaCodec.mimeType))
    | some supported => do
      let parameters ← liftJson (mergeParameters supported.parameters mediaCodec.parameters)
      enterCodec s
        { supported with
          preferredPayloadType := requestedPayloadType mediaCodec supported
          parameters := parameters }

variable (mediaCodecs : List RtpCodecCapability)

def generateRouterRtpCapabilities :
    Except OrtcError RtpCapabilities := do
  let s ← mediaCodecs.foldlM addMediaCodec {}
  return ⟨s.codecs, getSupportedRtpCapabilities.headerExtensions⟩

/-! ### Names -/

theorem toList_toLower (s : String) : (toLower s).toList = s.toList.map Char.toLower :=
  String.toList_ofList

theorem isRtxMimeType_append (kind : String) : isRtxMimeType (kind ++ "/rtx") := by
  refine decide_eq_true ⟨kind.toList.map Char.toLower, [], ?_⟩
  rw [toList_toLower, String.toList_append, map_append, append_nil]
  rfl

theorem isRtxMimeType_congr {a b : String} (h : toLower a = toLower b) :
    isRtxMimeType a = isRtxMimeType b := by
  rw [isRtxMimeType, isRtxMimeType, h]

theorem toLower_eq_of_matchCodecs {aCodec bCodec : RtpCodecCapability} {strict : Bool}
    (h : matchCodecs aCodec bCodec strict = .ok true) :
    toLower aCodec.mimeType = toLower bCodec.mimeType := by
  unfold matchCodecs at h
  split at h
  · cases h
  next hsame =>
    exact not_not.mp hsame

theorem liftJson_eq_ok {α : Type} {x : Except Json.TypeError α} {a : α} :
    liftJson x = .ok a ↔ x = .ok a := by
  cases x with
  | error e =>
    constructor
    · intro h
      cases h
    · intro h
      cases h
  | ok b => exact ⟨fun h => by cases h; rfl, fun h => by cases h; rfl⟩

/-! ### The pool -/

theorem mem_dynamicPayloadTypes (pt : UInt32) :
    pt ∈ DynamicPayloadTypes.map UInt8.toUInt32 ↔ 96 ≤ pt ∧ pt ≤ 127 := by
  constructor
  · -- evaluated along the list: there are too many numbers to try them all
    have hrng : ((DynamicPayloadTypes.map UInt8.toUInt32).all fun pt =>
        decide (96 ≤ pt ∧ pt ≤ 127)) = true := by decide
    exact fun hmem => of_decide_eq_true (all_eq_true.mp hrng pt hmem)
  rintro ⟨hlow, hhigh⟩
  have hall : ∀ n : Fin 128, 96 ≤ n.val →
      UInt32.ofNat n.val ∈ DynamicPayloadTypes.map UInt8.toUInt32 := by decide
  have hmem := hall ⟨pt.toNat, Nat.lt_succ_of_le hhigh⟩ hlow
  rwa [UInt32.ofNat_toNat] at hmem

theorem nodup_dynamicPayloadTypes : (DynamicPayloadTypes.map UInt8.toUInt32).Nodup := by decide

theorem assignPayloadType_perm {preferred pt : UInt32} {pool pool' : List UInt8}
    (hnd : (pool.map UInt8.toUInt32).Nodup)
    (h : assignPayloadType preferred pool = .ok (pt, pool')) :
    (pool.map UInt8.toUInt32).Perm (pt :: pool'.map UInt8.toUInt32) := by
  unfold assignPayloadType at h
  split at h
  · split at h
    · cases h
    · cases h
      exact List.Perm.refl _
  rename_i hfree
  cases h
  have hmem : preferred ∈ pool.map UInt8.toUInt32 := by
    by_contra hmem
    exact hfree (.inr hmem)
  have hfilt : (pool.filter fun pt => pt.toUInt32 ≠ preferred).map UInt8.toUInt32 =
      (pool.map UInt8.toUInt32).erase preferred := by
    rw [hnd.erase_eq_filter, filter_map]
    congr 1
    refine filter_congr fun pt _ => ?_
    rw [Bool.eq_iff_iff, decide_eq_true_iff]
    exact bne_iff_ne.symm
  rw [hfilt]
  exact perm_cons_erase hmem

theorem assignPayloadType_preferred {preferred pt : UInt32} {pool pool' : List UInt8}
    (hne : preferred ≠ 0) (hmem : preferred ∈ pool.map UInt8.toUInt32)
    (h : assignPayloadType preferred pool = .ok (pt, pool')) : pt = preferred := by
  unfold assignPayloadType at h
  rw [if_neg (not_or.mpr ⟨hne, not_not.mpr hmem⟩)] at h
  cases h
  rfl

def PoolInv : Prop :=
  (s.codecs.map RtpCodecCapability.preferredPayloadType ++
    s.dynamicPTs.map UInt8.toUInt32).Perm (DynamicPayloadTypes.map UInt8.toUInt32)

variable {s : RouterState}

theorem PoolInv.nodup (h : PoolInv s) : (s.codecs.map RtpCodecCapability.preferredPayloadType ++
      s.dynamicPTs.map UInt8.toUInt32).Nodup :=
  h.nodup_iff.mpr nodup_dynamicPayloadTypes

theorem PoolInv.mem_pool (h : PoolInv s) {pt : UInt32} (hlow : 96 ≤ pt) (hhigh : pt ≤ 127)
    (hfree : ∀ codec ∈ s.codecs, codec.preferredPayloadType ≠ pt) :
    pt ∈ s.dynamicPTs.map UInt8.toUInt32 := by
  rcases mem_append.mp (h.mem_iff.mpr ((mem_dynamicPayloadTypes pt).mpr ⟨hlow, hhigh⟩)) with
    htook | hleft
  · obtain ⟨codec, hcod, heq⟩ := mem_map.mp htook
    exact absurd heq (hfree codec hcod)
  · exact hleft

/-! ### The codecs of a router -/

structure RouterCodec where
  supported : RtpCodecCapability
  media : RtpCodecCapability
  rtx : RtpCodecCapability

def RouterCodec.codecs (e : RouterCodec) : List RtpCodecCapability := [e.media, e.rtx]

/-- The codec of a router for a media codec: the first supported one that matches, with the
parameters of both and some payload type, and an RTX codec that names this payload type. -/
structure RouterCodec.For (mediaCodec : RtpCodecCapability) (e : RouterCodec) : Prop where
  supported : getSupportedRtpCapabilities.codecs.findM? (matchCodecs mediaCodec · false) =
    .ok (some e.supported)
  media : ∃ parameters,
    mergeParameters e.supported.parameters mediaCodec.parameters = .ok parameters ∧
    e.media = { e.supported with
      preferredPayloadType := e.media.preferredPayloadType, parameters := parameters }
  mediaNotRtx : e.media.isRtxCodec = false
  rtxIsRtx : e.rtx.isRtxCodec = true
  rtxKind : e.rtx.kind = e.media.kind ∧ e.rtx.clockRate = e.media.clockRate
  apt : e.rtx.parameters = .obj [("apt", .int e.media.preferredPayloadType.toNat)]

variable {s' : RouterState}

theorem enterCodec_spec {codec : RtpCodecCapability} (hrtx : codec.isRtxCodec = false)
    (hinv : PoolInv s) (h : enterCodec s codec = .ok s') : ∃ (pt : UInt32) (rtxPt : UInt8),
      s'.codecs = s.codecs ++ [{ codec with preferredPayloadType := pt },
        rtxCodecOf { codec with preferredPayloadType := pt } rtxPt] ∧
      PoolInv s' ∧ (codec.preferredPayloadType ≠ 0 →
        codec.preferredPayloadType ∈ s.dynamicPTs.map UInt8.toUInt32 →
          pt = codec.preferredPayloadType) := by
  unfold enterCodec at h
  rw [bind_eq_ok] at h
  obtain ⟨⟨pt, _⟩, hasg, h⟩ := h
  have hnotRtx : ({ codec with preferredPayloadType := pt } : RtpCodecCapability).isRtxCodec =
      false := hrtx
  simp only [hnotRtx, Bool.not_false, if_true] at h
  split at h
  · cases h
  rename_i rtxPt rest
  cases h
  have hperm := assignPayloadType_perm (List.Nodup.of_append_right hinv.nodup) hasg
  refine ⟨pt, rtxPt, by rw [append_assoc]; rfl, ?_, fun hne hmem =>
    assignPayloadType_preferred hne hmem hasg⟩
  refine List.Perm.trans ?_ hinv
  have hspl := hperm.append_left (s.codecs.map RtpCodecCapability.preferredPayloadType)
  refine List.Perm.trans (List.Perm.of_eq ?_) hspl.symm
  simp [rtxCodecOf]

theorem PoolInv.addMediaCodec {mediaCodec : RtpCodecCapability} (hinv : PoolInv s)
    (h : addMediaCodec s mediaCodec = .ok s') :
    ∃ e : RouterCodec, e.For mediaCodec ∧ s'.codecs = s.codecs ++ e.codecs ∧ PoolInv s' ∧
      (requestedPayloadType mediaCodec e.supported ≠ 0 →
        requestedPayloadType mediaCodec e.supported ∈ s.dynamicPTs.map UInt8.toUInt32 →
          e.media.preferredPayloadType = requestedPayloadType mediaCodec e.supported) := by
  unfold Ortc.addMediaCodec at h
  split at h
  · cases h
  rename_i hmediaRtx
  rw [bind_eq_ok] at h
  obtain ⟨it, hfind, h⟩ := h
  rw [liftJson_eq_ok] at hfind
  cases it with
  | none => cases h
  | some supported =>
    rw [bind_eq_ok] at h
    obtain ⟨parameters, hmerge, h⟩ := h
    rw [liftJson_eq_ok] at hmerge
    -- the supported codec has the name of the media codec
    have hname := toLower_eq_of_matchCodecs (mem_of_findM? hfind).2
    have hrtx : isRtxMimeType supported.mimeType = false :=
      (isRtxMimeType_congr hname).symm.trans (Bool.eq_false_iff.mpr hmediaRtx)
    obtain ⟨pt, rtxPt, hcods, hinv', hkept⟩ := enterCodec_spec
      (show RtpCodecCapability.isRtxCodec { supported with
        preferredPayloadType := requestedPayloadType mediaCodec supported
        parameters := parameters } = false from hrtx) hinv h
    let media : RtpCodecCapability :=
      { supported with preferredPayloadType := pt, parameters := parameters }
    refine ⟨⟨supported, media, rtxCodecOf media rtxPt⟩, ?_, hcods, hinv', hkept⟩
    exact ⟨hfind, ⟨parameters, hmerge, rfl⟩, hrtx, isRtxMimeType_append _, ⟨rfl, rfl⟩, rfl⟩

structure Made (entries : List RouterCodec)
    (s : RouterState) : Prop where
  pool : PoolInv s
  codecs : s.codecs = entries.flatMap RouterCodec.codecs
  each : List.Forall₂ RouterCodec.For mediaCodecs entries
  kept : ∀ i mediaCodec e, mediaCodecs[i]? = some mediaCodec → entries[i]? = some e →
    96 ≤ requestedPayloadType mediaCodec e.supported →
    requestedPayloadType mediaCodec e.supported ≤ 127 →
    (∀ earlier ∈ (entries.take i).flatMap RouterCodec.codecs,
      earlier.preferredPayloadType ≠ requestedPayloadType mediaCodec e.supported) →
    e.media.preferredPayloadType = requestedPayloadType mediaCodec e.supported

theorem made_nil : Made [] [] {} where
  pool := List.Perm.refl _
  codecs := rfl
  each := .nil
  kept i _ _ h := by simp at h

theorem Made.concat {done : List RtpCodecCapability} {entries : List RouterCodec}
    {mediaCodec : RtpCodecCapability} (hmade : Made done entries s)
    (h : addMediaCodec s mediaCodec = .ok s') :
    ∃ e, Made (done ++ [mediaCodec]) (entries ++ [e]) s' := by
  obtain ⟨e, hfor, hcods, hpool, hkept⟩ := hmade.pool.addMediaCodec h
  have hlen := hmade.each.length_eq
  refine ⟨e, hpool, ?_, ?_, fun i mc e' hmc he' hlow hhigh hfree => ?_⟩
  · rw [hcods, hmade.codecs, flatMap_append]
    simp
  · exact rel_append hmade.each (.cons hfor .nil)
  rcases Nat.lt_or_ge i done.length with hlt | _
  · -- the earlier ones have been added before
    rw [List.getElem?_append_left hlt] at hmc
    rw [List.getElem?_append_left (hlen ▸ hlt)] at he'
    rw [take_append_of_le_length (hlen ▸ hlt.le)] at hfree
    exact hmade.kept i mc e' hmc he' hlow hhigh hfree
  have hi : i = done.length := by
    have hbd := (List.getElem?_eq_some_iff.mp hmc).1
    rw [length_append, length_singleton] at hbd
    omega
  subst hi
  rw [List.getElem?_concat_length, Option.some_inj] at hmc
  rw [hlen, List.getElem?_concat_length, Option.some_inj] at he'
  subst hmc he'
  rw [hlen, take_left, ← hmade.codecs] at hfree
  refine hkept (fun hzero => ?_) (hmade.pool.mem_pool hlow hhigh hfree)
  rw [hzero] at hlow
  cases hlow

theorem Made.exists_for {mediaCodecs : List RtpCodecCapability} {entries : List RouterCodec}
    (hmade : Made mediaCodecs entries s) {codec : RtpCodecCapability} (hcod : codec ∈ s.codecs) :
    ∃ (mediaCodec : RtpCodecCapability) (e : RouterCodec), e.For mediaCodec ∧
      e.media ∈ s.codecs ∧ (codec = e.media ∨ codec = e.rtx) := by
  rw [hmade.codecs, mem_flatMap] at hcod
  obtain ⟨e, he, hcod⟩ := hcod
  obtain ⟨_, hi⟩ := mem_iff_getElem?.mp he
  obtain ⟨hlt, hget⟩ := List.getElem?_eq_some_iff.mp hi
  have hfor := hmade.each.get (hmade.each.length_eq ▸ hlt) hlt
  simp only [get_eq_getElem, hget] at hfor
  refine ⟨_, e, hfor, ?_, ?_⟩
  · rw [hmade.codecs, mem_flatMap]
    exact ⟨e, he, mem_cons_self⟩
  · simpa [RouterCodec.codecs] using hcod

theorem exists_made {mediaCodecs : List RtpCodecCapability}
    (h : mediaCodecs.foldlM addMediaCodec {} = .ok s) : ∃ entries, Made mediaCodecs entries s := by
  have hinv := foldlM_inv
    (fun rest s => ∃ done entries, mediaCodecs = done ++ rest ∧ Made done entries s)
    (fun mc rest s s' hmade hstep => by
      obtain ⟨done, entries, hspl, hmade⟩ := hmade
      obtain ⟨e, hmade'⟩ := hmade.concat hstep
      exact ⟨done ++ [mc], entries ++ [e], by rw [hspl, append_assoc]; rfl, hmade'⟩)
    ⟨[], [], rfl, made_nil⟩ h
  obtain ⟨done, entries, hspl, hmade⟩ := hinv
  rw [append_nil] at hspl
  exact ⟨entries, hspl ▸ hmade⟩

/-- **The codecs of a router.**  The payload types are different and dynamic ones.  For each media
codec, in their order, there is a codec followed by its one RTX codec, which names the payload
type of the codec.  The payload type that a media codec asks for, or else that of the supported
codec, is kept if it is dynamic and none of the earlier codecs has it. -/
theorem generateRouterRtpCapabilities_spec {mediaCodecs : List RtpCodecCapability}
    {caps : RtpCapabilities} (h : generateRouterRtpCapabilities mediaCodecs = .ok caps) :
    (caps.codecs.map RtpCodecCapability.preferredPayloadType).Nodup ∧
    (∀ codec ∈ caps.codecs, 96 ≤ codec.preferredPayloadType ∧ codec.preferredPayloadType ≤ 127) ∧
    ∃ entries : List RouterCodec,
      caps.codecs = entries.flatMap (fun e => [e.media, e.rtx]) ∧
      List.Forall₂ RouterCodec.For mediaCodecs entries ∧
      ∀ i mediaCodec e, mediaCodecs[i]? = some mediaCodec → entries[i]? = some e →
        96 ≤ requestedPayloadType mediaCodec e.supported →
        requestedPayloadType mediaCodec e.supported ≤ 127 →
        (∀ earlier ∈ (entries.take i).flatMap fun e => [e.media, e.rtx],
          earlier.preferredPayloadType ≠ requestedPayloadType mediaCodec e.supported) →
        e.media.preferredPayloadType = requestedPayloadType mediaCodec e.supported := by
  unfold generateRouterRtpCapabilities at h
  rw [bind_eq_ok] at h
  obtain ⟨_, hfold, heq⟩ := h
  cases heq
  obtain ⟨entries, hmade⟩ := exists_made hfold
  refine ⟨List.Nodup.of_append_left hmade.pool.nodup, fun codec hcod => ?_, entries,
    hmade.codecs, hmade.each, hmade.kept⟩
  exact (mem_dynamicPayloadTypes _).mp (hmade.pool.mem_iff.mp
    (mem_append_left _ (mem_map_of_mem hcod)))

def opusAndVp8 : List RtpCodecCapability :=
  [{ mimeType := "audio/opus", clockRate := 48000, channels := 2 },
    { mimeType := "video/vp8", clockRate := 90000, preferredPayloadType := 101 }]

theorem generateRouterRtpCapabilities_opusAndVp8 :
    ∃ caps, generateRouterRtpCapabilities opusAndVp8 = .ok caps ∧
      caps.codecs.map RtpCodecCapability.preferredPayloadType = [100, 101, 102, 103] ∧
      (caps.codecs.map RtpCodecCapability.preferredPayloadType).Nodup ∧
      ∃ entries : List RouterCodec,
        caps.codecs = entries.flatMap (fun e => [e.media, e.rtx]) ∧
        List.Forall₂ RouterCodec.For opusAndVp8 entries := by
  have hrun : (generateRouterRtpCapabilities opusAndVp8).toOption.map (fun caps =>
      caps.codecs.map RtpCodecCapability.preferredPayloadType) = some [100, 101, 102, 103] := by
    decide +kernel
  obtain ⟨caps, hcaps, hpts⟩ := exists_ok_of_toOption hrun
  obtain ⟨hnd, -, entries, hcods, hfor, -⟩ := generateRouterRtpCapabilities_spec hcaps
  exact ⟨caps, hcaps, hpts, hnd, entries, hcods, hfor⟩

end MediasoupCpp.Ortc
