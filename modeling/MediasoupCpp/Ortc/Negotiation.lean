import Mathlib.Data.List.ReduceOption
import MediasoupCpp.Lib.Dict
import MediasoupCpp.Ortc.Capabilities

/-!
# From a producer to a consumer

The codecs of a producer are mapped to those of the router, media codecs first and then the RTX
codecs whose media codec has been mapped.  What the router offers to consumers are the codecs
mapped to, in this order.

Main result: `negotiation_spec`.

Source: `src/ortc.h`, `src/RtpTypes.h`.
-/

namespace MediasoupCpp.Ortc

open List Except Bool

/-! ### Parameters and mappings -/

structure RtpCodecParameters where
  mimeType : String
  payloadType : UInt8 := 0
  clockRate : UInt32 := 0
  channels : UInt8 := 0
  parameters : Json := .obj []
  rtcpFeedback : List RtcpFeedback := []
  deriving DecidableEq

structure RtpHeaderExtensionParameters where
  uri : String
  id : UInt8 := 0
  encrypt : Bool := false
  parameters : Json := .obj []
  deriving DecidableEq

structure RtpEncodingParameters where
  ssrc : Option UInt32 := none
  rid : String := ""
  codecPayloadType : Option UInt8 := none
  rtxSsrc : Option UInt32 := none
  dtx : Bool := false
  scalabilityMode : String := ""
  maxBitrate : Option UInt32 := none
  deriving DecidableEq

structure RtcpParameters where
  cname : String := ""
  reducedSize : Bool := true
  deriving DecidableEq

structure RtpParameters where
  mid : String := ""
  codecs : List RtpCodecParameters := []
  headerExtensions : List RtpHeaderExtensionParameters := []
  encodings : List RtpEncodingParameters := []
  rtcp : RtcpParameters := {}
  deriving DecidableEq

structure CodecMapping where
  payloadType : UInt8
  mappedPayloadType : UInt8

structure EncodingMapping where
  rid : String := ""
  ssrc : Option UInt32 := none
  scalabilityMode : String := ""
  mappedSsrc : UInt32 := 0

structure RtpMapping where
  codecs : List CodecMapping := []
  encodings : List EncodingMapping := []

namespace RtpCodecParameters

variable (codec : RtpCodecParameters)

def isRtxCodec : Bool := isRtxMimeType codec.mimeType

def asCapability : RtpCodecCapability where
  mimeType := codec.mimeType
  clockRate := codec.clockRate
  channels := codec.channels
  parameters := codec.parameters

end RtpCodecParameters

/-! ### The mapping of a producer -/

variable (caps : RtpCapabilities) (codec : RtpCodecParameters)

def findCapability :
    Except Json.TypeError (Option RtpCodecCapability) :=
  caps.codecs.findM? fun capCodec =>
    if capCodec.isRtxCodec then .ok false else matchCodecs codec.asCapability capCodec true

def mapMediaCodec :
    Except OrtcError CodecMapping := do
  let it ← liftJson (findCapability caps codec)
  match it with
  | none => .error (.runtime ("unsupported codec: " ++ codec.mimeType))
  | some capCodec => .ok ⟨codec.payloadType, capCodec.preferredPayloadType.toUInt8⟩

def findRtxCapability (capPt : UInt8) :
    Except Json.TypeError (Option RtpCodecCapability) :=
  caps.codecs.findM? fun capCodec =>
    if capCodec.isRtxCodec then do
      let apt ← capCodec.parameters.valueInt "apt" 0
      return decide (apt = capPt.toNat)
    else .ok false

def mapRtxCodec (codecToCapPt : Dict UInt8 UInt8)
    (codec : RtpCodecParameters) : Except OrtcError (Option CodecMapping) := do
  let apt ← liftJson (codec.parameters.valueInt "apt" 0)
  match codecToCapPt.lookup (UInt8.ofInt apt) with
  | none => .ok none
  | some capPt => do
    let it ← liftJson (findRtxCapability caps capPt)
    return it.map fun capCodec => ⟨codec.payloadType, capCodec.preferredPayloadType.toUInt8⟩

variable (newSsrc : ℕ → UInt32)

def getProducerRtpParametersMapping (params : RtpParameters) (caps : RtpCapabilities) :
    Except OrtcError RtpMapping := do
  let media ← (params.codecs.filter fun codec => !codec.isRtxCodec).mapM (mapMediaCodec caps)
  let codecToCapPt :=
    media.foldl (fun map cm => map.insert cm.payloadType cm.mappedPayloadType) ∅
  let rtx ← (params.codecs.filter RtpCodecParameters.isRtxCodec).mapM
    (mapRtxCodec caps codecToCapPt)
  return {
    codecs := media ++ rtx.reduceOption
    encodings := params.encodings.zipIdx.map fun (encoding, i) =>
      { rid := encoding.rid
        ssrc := encoding.ssrc
        scalabilityMode := encoding.scalabilityMode
        mappedSsrc := newSsrc i } }

/-! ### What is offered to consumers -/

def RtpCodecCapability.asParameters (capCodec : RtpCodecCapability) : RtpCodecParameters where
  mimeType := capCodec.mimeType
  payloadType := capCodec.preferredPayloadType.toUInt8
  clockRate := capCodec.clockRate
  channels := capCodec.channels
  parameters := capCodec.parameters
  rtcpFeedback := capCodec.rtcpFeedback

def CodecMapping.consumable? (cm : CodecMapping) :
    Option RtpCodecParameters :=
  (caps.codecs.find? fun c => c.preferredPayloadType = cm.mappedPayloadType.toUInt32).map
    RtpCodecCapability.asParameters

def getConsumableRtpParameters (kind : String) (params : RtpParameters) (caps : RtpCapabilities)
    (rtpMapping : RtpMapping) : RtpParameters where
  codecs := rtpMapping.codecs.filterMap (CodecMapping.consumable? caps)
  headerExtensions := params.headerExtensions.filter fun extension =>
    caps.headerExtensions.any fun capExtension =>
      capExtension.kind = kind ∧ capExtension.uri = extension.uri
  encodings := params.encodings.zipIdx.map fun (encoding, i) =>
    { ssrc := rtpMapping.encodings[i]?.map EncodingMapping.mappedSsrc
      scalabilityMode := if encoding.scalabilityMode = "" then "S1T1" else encoding.scalabilityMode
      maxBitrate := encoding.maxBitrate }
  rtcp := { cname := params.rtcp.cname, reducedSize := true }

/-! ### What a consumer gets -/

def matchRemote (remote : RtpCapabilities) (codec : RtpCodecParameters) :
    Except Json.TypeError (Option RtpCodecCapability) :=
  remote.codecs.findM? (matchCodecs codec.asCapability · true)

def withSharedFeedback (remoteCodec : RtpCodecCapability) :
    RtpCodecParameters :=
  { codec with rtcpFeedback := codec.rtcpFeedback.filter (· ∈ remoteCodec.rtcpFeedback) }

def matchCodec (remote : RtpCapabilities) (codec : RtpCodecParameters) :
    Except OrtcError (Option RtpCodecParameters) := do
  let it ← liftJson (matchRemote remote codec)
  return it.map (withSharedFeedback codec)

def hasMedia (codecs : List RtpCodecParameters) (apt : UInt8) : Bool :=
  codecs.any fun codec => !codec.isRtxCodec && codec.payloadType == apt

/-- The loop that erases the RTX codecs without a media codec; `done` are the codecs it has
passed.  The flag says whether an RTX codec is left. -/
def removeDanglingRtx : List RtpCodecParameters → List RtpCodecParameters →
    Except OrtcError (List RtpCodecParameters × Bool)
  | done, [] => .ok (done, false)
  | done, codec :: todo =>
    if !codec.isRtxCodec then removeDanglingRtx (done ++ [codec]) todo
    else do
      let apt ← liftJson (codec.parameters.valueInt "apt" 0)
      if hasMedia (done ++ codec :: todo) (UInt8.ofInt apt) then do
        let (codecs, _) ← removeDanglingRtx (done ++ [codec]) todo
        return (codecs, true)
      else removeDanglingRtx done todo

def getConsumerRtpParameters (consumableParams : RtpParameters) (remote : RtpCapabilities)
    (pipe : Bool) : Except OrtcError RtpParameters :=
  if pipe then
    .ok
      { consumableParams with
        encodings := consumableParams.encodings.zipIdx.map fun (enc, i) =>
          { enc with ssrc := some (newSsrc (2 * i)), rtxSsrc := some (newSsrc (2 * i + 1)) } }
  else do
    let matched ← consumableParams.codecs.mapM (matchCodec remote)
    let (codecs, hasRtx) ← removeDanglingRtx [] matched.reduceOption
    if codecs.isEmpty || codecs.head?.any RtpCodecParameters.isRtxCodec then
      .error (.runtime "no compatible codecs")
    else
      return {
        codecs := codecs
        headerExtensions := consumableParams.headerExtensions.filter fun ext =>
          remote.headerExtensions.any fun remoteExt =>
            ext.uri = remoteExt.uri ∧ ext.id = remoteExt.preferredId
        encodings :=
          [{ ssrc := some (newSsrc 0), rtxSsrc := if hasRtx then some (newSsrc 1) else none }]
        rtcp := { consumableParams.rtcp with reducedSize := true } }

def getPipeConsumerRtpParameters (consumableParams : RtpParameters) :
    Except OrtcError RtpParameters :=
  getConsumerRtpParameters newSsrc consumableParams {} true

/-! ### The codecs of a router -/

/-- What is known of the codecs of a router: they have different payload types, which fit in a
byte, and the parameters of an RTX codec are a payload type. -/
structure RouterCaps : Prop where
  nodup : (caps.codecs.map RtpCodecCapability.preferredPayloadType).Nodup
  le : ∀ capCodec ∈ caps.codecs, capCodec.preferredPayloadType.toNat ≤ 127
  rtx : ∀ capCodec ∈ caps.codecs, capCodec.isRtxCodec = true →
    ∃ apt : ℕ, apt ≤ 127 ∧ capCodec.parameters = .obj [("apt", .int apt)]

theorem routerCaps_of_generate {mediaCodecs : List RtpCodecCapability} {caps : RtpCapabilities}
    (h : generateRouterRtpCapabilities mediaCodecs = .ok caps) : RouterCaps caps := by
  unfold generateRouterRtpCapabilities at h
  rw [bind_eq_ok] at h
  obtain ⟨s, hfold, heq⟩ := h
  cases heq
  obtain ⟨_, hmade⟩ := exists_made hfold
  have hle : ∀ codec ∈ s.codecs, codec.preferredPayloadType.toNat ≤ 127 := fun codec hcod =>
    UInt32.le_iff_toNat_le.mp ((mem_dynamicPayloadTypes _).mp (hmade.pool.mem_iff.mp
      (mem_append_left _ (mem_map_of_mem hcod)))).2
  refine ⟨List.Nodup.of_append_left hmade.pool.nodup, hle, fun codec hcod hrtx => ?_⟩
  obtain ⟨_, e, hfor, hmed, rfl | rfl⟩ := hmade.exists_for hcod
  · rw [hfor.mediaNotRtx] at hrtx
    cases hrtx
  · exact ⟨_, hle e.media hmed, hfor.apt⟩

section Mapping

variable {caps : RtpCapabilities} {capCodec : RtpCodecCapability}

theorem toUInt32_toUInt8 {pt : UInt32} (h : pt.toNat ≤ 127) : pt.toUInt8.toUInt32 = pt := by
  rw [← UInt32.toNat_inj, UInt8.toNat_toUInt32, UInt32.toNat_toUInt8]
  omega

theorem find?_of_nodup {α κ : Type} [DecidableEq κ] {key : α → κ} {l : List α} {a : α}
    (hnd : (l.map key).Nodup) (ha : a ∈ l) : l.find? (fun b => key b = key a) = some a := by
  induction l with
  | nil => cases ha
  | cons b l ih =>
    rw [map_cons, nodup_cons] at hnd
    rcases mem_cons.mp ha with rfl | ha
    · exact List.find?_cons_of_pos (decide_eq_true rfl)
    have hne : key b ≠ key a := fun heq => hnd.1 (heq ▸ mem_map_of_mem ha)
    rw [List.find?_cons_of_neg (by simpa using hne)]
    exact ih hnd.2 ha

theorem RouterCaps.consumable?_eq (h : RouterCaps caps) (hmem : capCodec ∈ caps.codecs)
    (pt : UInt8) : (CodecMapping.mk pt capCodec.preferredPayloadType.toUInt8).consumable? caps =
      some capCodec.asParameters := by
  unfold CodecMapping.consumable?
  rw [toUInt32_toUInt8 (h.le capCodec hmem), find?_of_nodup h.nodup hmem]
  rfl

theorem mapMediaCodec_eq_ok {codec : RtpCodecParameters} {cm : CodecMapping}
    (h : mapMediaCodec caps codec = .ok cm) :
    ∃ capCodec ∈ caps.codecs, capCodec.isRtxCodec = false ∧
      cm = ⟨codec.payloadType, capCodec.preferredPayloadType.toUInt8⟩ := by
  unfold mapMediaCodec at h
  rw [bind_eq_ok] at h
  obtain ⟨it, hfind, h⟩ := h
  cases it with
  | none => cases h
  | some capCodec =>
    cases h
    obtain ⟨hmem, htest⟩ := mem_of_findM? (liftJson_eq_ok.mp hfind)
    refine ⟨capCodec, hmem, ?_, rfl⟩
    by_contra hrtx
    rw [if_pos (by simpa using hrtx)] at htest
    cases htest

theorem mapRtxCodec_eq_ok {codec : RtpCodecParameters} {codecToCapPt : Dict UInt8 UInt8}
    {cm : CodecMapping} (h : mapRtxCodec caps codecToCapPt codec = .ok (some cm)) :
    ∃ capCodec ∈ caps.codecs, capCodec.isRtxCodec ∧
      cm = ⟨codec.payloadType, capCodec.preferredPayloadType.toUInt8⟩ := by
  unfold mapRtxCodec at h
  rw [bind_eq_ok] at h
  obtain ⟨_, -, h⟩ := h
  split at h
  · cases h
  rw [bind_eq_ok] at h
  obtain ⟨it, hfind, h⟩ := h
  cases it with
  | none => cases h
  | some capCodec =>
    cases h
    obtain ⟨hmem, htest⟩ := mem_of_findM? (liftJson_eq_ok.mp hfind)
    refine ⟨capCodec, hmem, ?_, rfl⟩
    by_contra hrtx
    rw [if_neg hrtx] at htest
    cases htest

theorem RouterCaps.filterMap_consumable? (h : RouterCaps caps) (P : RtpCodecCapability → Prop)
    (cms : List CodecMapping) (hcms : ∀ cm ∈ cms, ∃ capCodec ∈ caps.codecs, P capCodec ∧
      ∃ pt, cm = ⟨pt, capCodec.preferredPayloadType.toUInt8⟩) :
    ∃ capCodecs : List RtpCodecCapability, cms.filterMap (CodecMapping.consumable? caps) =
        capCodecs.map RtpCodecCapability.asParameters ∧
      ∀ capCodec ∈ capCodecs, capCodec ∈ caps.codecs ∧ P capCodec := by
  induction cms with
  | nil => exact ⟨[], rfl, fun _ h => (by cases h)⟩
  | cons cm cms ih =>
    rw [forall_mem_cons] at hcms
    obtain ⟨⟨capCodec, hmem, hP, pt, rfl⟩, hcms⟩ := hcms
    obtain ⟨capCodecs, heq, hall⟩ := ih hcms
    refine ⟨capCodec :: capCodecs, ?_, forall_mem_cons.mpr ⟨⟨hmem, hP⟩, hall⟩⟩
    rw [filterMap_cons_some (h.consumable?_eq hmem pt), heq, map_cons]

theorem consumable_split (h : RouterCaps caps) {newSsrc : ℕ → UInt32} {params : RtpParameters}
    {mapping : RtpMapping}
    (hmapping : getProducerRtpParametersMapping newSsrc params caps = .ok mapping) (kind : String) :
    ∃ mediaCaps rtxCaps : List RtpCodecCapability,
      (getConsumableRtpParameters kind params caps mapping).codecs =
        mediaCaps.map RtpCodecCapability.asParameters ++
          rtxCaps.map RtpCodecCapability.asParameters ∧
      (∀ capCodec ∈ mediaCaps, capCodec ∈ caps.codecs ∧ capCodec.isRtxCodec = false) ∧
      ∀ capCodec ∈ rtxCaps, capCodec ∈ caps.codecs ∧ capCodec.isRtxCodec := by
  unfold getProducerRtpParametersMapping at hmapping
  rw [bind_eq_ok] at hmapping
  obtain ⟨media, hmed, hmapping⟩ := hmapping
  rw [bind_eq_ok] at hmapping
  obtain ⟨rtx, hrtx, heq⟩ := hmapping
  cases heq
  obtain ⟨mediaCaps, hmediaEq, hmediaAll⟩ := h.filterMap_consumable?
    (fun capCodec => capCodec.isRtxCodec = false) media fun cm hcm => by
      obtain ⟨codec, -, hcod⟩ := exists_of_mem_mapM hmed hcm
      obtain ⟨capCodec, hmem, hnot, rfl⟩ := mapMediaCodec_eq_ok hcod
      exact ⟨capCodec, hmem, hnot, _, rfl⟩
  obtain ⟨rtxCaps, hrtxEq, hrtxAll⟩ := h.filterMap_consumable?
    (fun capCodec => capCodec.isRtxCodec) rtx.reduceOption fun cm hcm => by
      obtain ⟨codec, -, hcod⟩ :=
        exists_of_mem_mapM hrtx (reduceOption_mem_iff.mp hcm)
      obtain ⟨capCodec, hmem, his, rfl⟩ := mapRtxCodec_eq_ok hcod
      exact ⟨capCodec, hmem, his, _, rfl⟩
  refine ⟨mediaCaps, rtxCaps, ?_, hmediaAll, hrtxAll⟩
  rw [← hmediaEq, ← hrtxEq, ← filterMap_append]
  rfl

end Mapping

/-! ### RTX codecs without a media codec -/

def aptOf (codec : RtpCodecParameters) : UInt8 :=
  match codec.parameters.valueInt "apt" 0 with
  | .ok apt => UInt8.ofInt apt
  | .error _ => 0

def isKept (has : UInt8 → Bool) (codec : RtpCodecParameters) : Bool :=
  !codec.isRtxCodec || has (aptOf codec)

theorem hasMedia_erase {done todo : List RtpCodecParameters} {codec : RtpCodecParameters}
    (hrtx : codec.isRtxCodec) : hasMedia (done ++ codec :: todo) = hasMedia (done ++ todo) := by
  funext apt
  simp [hasMedia, hrtx]

theorem removeDanglingRtx_eq {has : UInt8 → Bool} (done todo : List RtpCodecParameters)
    (hhas : hasMedia (done ++ todo) = has) (hread : ∀ codec ∈ todo, codec.isRtxCodec →
      ∃ apt, codec.parameters.valueInt "apt" 0 = .ok apt) :
    removeDanglingRtx done todo = .ok (done ++ todo.filter (isKept has),
      todo.any fun codec => codec.isRtxCodec && has (aptOf codec)) := by
  induction todo generalizing done with
  | nil => rw [removeDanglingRtx, filter_nil, append_nil]; rfl
  | cons codec todo ih =>
    rw [forall_mem_cons] at hread
    have hpass : hasMedia ((done ++ [codec]) ++ todo) = has := by
      rw [append_assoc, singleton_append, hhas]
    rw [removeDanglingRtx]
    cases hrtx : codec.isRtxCodec with
    | false =>
      have hkept : isKept has codec := by simp [isKept, hrtx]
      rw [filter_cons_of_pos hkept, any_cons, hrtx]
      simpa using ih _ hpass hread.2
    | true =>
      obtain ⟨apt, hapt⟩ := hread.1 hrtx
      have haptOf : aptOf codec = UInt8.ofInt apt := by rw [aptOf, hapt]
      have hlift : liftJson (codec.parameters.valueInt "apt" 0) = .ok apt :=
        liftJson_eq_ok.mpr hapt
      simp only [Bool.not_true, Bool.false_eq_true, if_false, hlift, Json.ok_bind]
      rw [hhas, any_cons, hrtx, haptOf]
      cases hmed : has (UInt8.ofInt apt) with
      | true =>
        have hkept : isKept has codec := by simp [isKept, haptOf, hmed]
        rw [filter_cons_of_pos hkept]
        simp [ih _ hpass hread.2, pure, Except.pure]
      | false =>
        have hdrop : ¬isKept has codec := by simp [isKept, hrtx, haptOf, hmed]
        rw [filter_cons_of_neg hdrop]
        simpa using ih done (hhas ▸ (hasMedia_erase hrtx).symm) hread.2

/-! ### The codecs a consumer gets -/

section Consumer

variable {remote : RtpCapabilities} {codec : RtpCodecParameters}

theorem matchCodec_eq_ok {o : Option RtpCodecParameters} (h : matchCodec remote codec = .ok o) :
    ∃ it, matchRemote remote codec = .ok it ∧ o = it.map (withSharedFeedback codec) := by
  unfold matchCodec at h
  rw [bind_eq_ok] at h
  obtain ⟨it, hit, heq⟩ := h
  cases heq
  exact ⟨it, liftJson_eq_ok.mp hit, rfl⟩

theorem matchCodec_fails_iff :
    (∃ e, matchCodec remote codec = .error e) ↔ ∃ e, matchRemote remote codec = .error e := by
  unfold matchCodec
  cases matchRemote remote codec with
  | error e => exact ⟨fun _ => ⟨e, rfl⟩, fun _ => ⟨.json e, rfl⟩⟩
  | ok it =>
    constructor
    · rintro ⟨e, he⟩
      cases he
    · rintro ⟨e, he⟩
      cases he

def withoutFeedback (codec : RtpCodecParameters) : RtpCodecParameters :=
  { codec with rtcpFeedback := [] }

variable {os : List (Option RtpCodecParameters)} {codecs : List RtpCodecParameters}

section

variable (h : codecs.mapM (matchCodec remote) = .ok os)
include h

theorem exists_of_mem_matched (hcod : codec ∈ os.reduceOption) :
    ∃ offered ∈ codecs, ∃ remoteCodec, matchRemote remote offered = .ok (some remoteCodec) ∧
      codec = withSharedFeedback offered remoteCodec := by
  obtain ⟨offered, hoff, hmat⟩ :=
    exists_of_mem_mapM h (reduceOption_mem_iff.mp hcod)
  obtain ⟨it, hit, heq⟩ := matchCodec_eq_ok hmat
  cases it with
  | none => cases heq
  | some remoteCodec => exact ⟨offered, hoff, remoteCodec, hit, Option.some.inj heq⟩

theorem sublist_matched :
    (os.reduceOption.map withoutFeedback).Sublist (codecs.map withoutFeedback) := by
  rw [mapM_eq_ok] at h
  induction h with
  | nil => exact .slnil
  | cons hmat _ ih =>
    obtain ⟨it, -, rfl⟩ := matchCodec_eq_ok hmat
    cases it with
    | none => exact ih.cons _
    | some remoteCodec => exact ih.cons_cons _

theorem matched_eq_nil_iff : os.reduceOption = [] ↔ ∀ codec ∈ codecs, ∀ remoteCodec ∈ remote.codecs,
      matchCodecs codec.asCapability remoteCodec true = .ok false := by
  rw [mapM_eq_ok] at h
  induction h with
  | nil => simp
  | @cons codec o codecs os hmat _ ih =>
    obtain ⟨it, hit, rfl⟩ := matchCodec_eq_ok hmat
    rw [forall_mem_cons, ← ih]
    cases it with
    | none =>
      have hnone := Except.findM?_eq_none.mp hit
      exact ⟨fun h => ⟨hnone, h⟩, fun h => h.2⟩
    | some remoteCodec =>
      obtain ⟨hmem, htrue⟩ := mem_of_findM? hit
      constructor
      · intro h
        cases h
      intro h
      rw [h.1 remoteCodec hmem] at htrue
      cases htrue

end

structure Negotiated (consumable : RtpParameters) (remote : RtpCapabilities)
    (consumer : RtpParameters) : Prop where
  subsequence : (consumer.codecs.map withoutFeedback).Sublist
    (consumable.codecs.map withoutFeedback)
  firstIsMedia : ∃ first rest, consumer.codecs = first :: rest ∧ first.isRtxCodec = false
  rtxRefers : ∀ rtx ∈ consumer.codecs, rtx.isRtxCodec = true →
    ∃ media ∈ consumer.codecs, media.isRtxCodec = false ∧
      rtx.parameters = .obj [("apt", .int media.payloadType.toNat)]
  sharedFeedback : ∀ codec ∈ consumer.codecs,
    ∃ offered ∈ consumable.codecs, ∃ remoteCodec ∈ remote.codecs,
      withoutFeedback codec = withoutFeedback offered ∧
      matchCodecs offered.asCapability remoteCodec true = .ok true ∧
      ∀ fb ∈ codec.rtcpFeedback, fb ∈ offered.rtcpFeedback ∧ fb ∈ remoteCodec.rtcpFeedback
  rtxSsrc : ∃ encoding, consumer.encodings = [encoding] ∧
    (encoding.rtxSsrc.isSome = true ↔ ∃ codec ∈ consumer.codecs, codec.isRtxCodec = true)

def IsRtxFor (codec : RtpCodecParameters) : Prop :=
  codec.isRtxCodec = true ∧ ∃ apt : ℕ, apt ≤ 127 ∧ codec.parameters = .obj [("apt", .int apt)]

theorem IsRtxFor.valueInt (h : IsRtxFor codec) :
    ∃ apt : ℕ, codec.parameters.valueInt "apt" 0 = .ok apt ∧ (aptOf codec).toNat = apt ∧
      codec.parameters = .obj [("apt", .int apt)] := by
  obtain ⟨-, apt, _, hpar⟩ := h
  -- a payload type is below 128, so neither conversion changes it
  have hread : codec.parameters.valueInt "apt" 0 = .ok apt := by
    rw [hpar]
    show Except.ok ((apt : ℤ).bmod 4294967296) = .ok (apt : ℤ)
    rw [Int.bmod_eq_of_le (by omega) (by omega)]
  refine ⟨apt, hread, ?_, hpar⟩
  rw [aptOf, hread]
  simp [UInt8.ofInt]
  omega

structure MediaThenRtx (codecs media rtx : List RtpCodecParameters) : Prop where
  eq : codecs = media ++ rtx
  media : ∀ codec ∈ media, codec.isRtxCodec = false
  rtx : ∀ codec ∈ rtx, IsRtxFor codec

theorem exists_mediaThenRtx {mediaCodecs : List RtpCodecCapability} {caps : RtpCapabilities}
    {newSsrc : ℕ → UInt32} {params : RtpParameters} {mapping : RtpMapping}
    (hcaps : generateRouterRtpCapabilities mediaCodecs = .ok caps)
    (hmapping : getProducerRtpParametersMapping newSsrc params caps = .ok mapping) (kind : String) :
    ∃ media rtx,
      MediaThenRtx (getConsumableRtpParameters kind params caps mapping).codecs media rtx := by
  have hrout := routerCaps_of_generate hcaps
  obtain ⟨_, _, hspl, hmed, hrtx⟩ := consumable_split hrout hmapping kind
  refine ⟨_, _, hspl, fun codec hcod => ?_, fun codec hcod => ?_⟩
  · obtain ⟨capCodec, hcap, rfl⟩ := mem_map.mp hcod
    exact (hmed capCodec hcap).2
  obtain ⟨capCodec, hcap, rfl⟩ := mem_map.mp hcod
  obtain ⟨hmem, his⟩ := hrtx capCodec hcap
  exact ⟨his, hrout.rtx capCodec hmem his⟩

section Kept

variable {matched media rtx : List RtpCodecParameters}

theorem MediaThenRtx.of_mapM {codecs : List RtpCodecParameters}
    {os : List (Option RtpCodecParameters)} (hspl : MediaThenRtx codecs media rtx)
    (h : codecs.mapM (matchCodec remote) = .ok os) :
    ∃ osMedia osRtx : List (Option RtpCodecParameters),
      media.mapM (matchCodec remote) = .ok osMedia ∧
      MediaThenRtx os.reduceOption osMedia.reduceOption osRtx.reduceOption := by
  rw [hspl.eq, mapM_append, bind_eq_ok] at h
  obtain ⟨osMedia, hmed, h⟩ := h
  rw [bind_eq_ok] at h
  obtain ⟨osRtx, hrtx, heq⟩ := h
  cases heq
  refine ⟨osMedia, osRtx, hmed, reduceOption_append _ _, fun codec hcod => ?_, fun codec hcod => ?_⟩
  · obtain ⟨offered, hoff, remoteCodec, -, rfl⟩ := exists_of_mem_matched hmed hcod
    exact hspl.media offered hoff
  · obtain ⟨offered, hoff, remoteCodec, -, rfl⟩ := exists_of_mem_matched hrtx hcod
    exact hspl.rtx offered hoff

def keptCodecs (matched : List RtpCodecParameters) : List RtpCodecParameters :=
  matched.filter (isKept (hasMedia matched))

theorem mem_keptCodecs_of_media (hmem : codec ∈ matched) (hmed : codec.isRtxCodec = false) :
    codec ∈ keptCodecs matched :=
  mem_filter.mpr ⟨hmem, by simp [isKept, hmed]⟩

section

variable (h : MediaThenRtx matched media rtx)
include h

theorem MediaThenRtx.isRtxFor (hmem : codec ∈ matched) (hrtx : codec.isRtxCodec) :
    IsRtxFor codec := by
  rw [h.eq] at hmem
  rcases mem_append.mp hmem with hmem | hmem
  · rw [h.media codec hmem] at hrtx
    cases hrtx
  · exact h.rtx codec hmem

theorem MediaThenRtx.removeDanglingRtx_eq_ok :
    ∃ hasRtx, removeDanglingRtx [] matched = .ok (keptCodecs matched, hasRtx) ∧
      (hasRtx ↔ ∃ codec ∈ keptCodecs matched, codec.isRtxCodec) := by
  have hread : ∀ codec ∈ matched, codec.isRtxCodec →
      ∃ apt, codec.parameters.valueInt "apt" 0 = .ok apt := fun codec hmem hrtx => by
    obtain ⟨apt, hapt, -⟩ := (h.isRtxFor hmem hrtx).valueInt
    exact ⟨apt, hapt⟩
  refine ⟨_, removeDanglingRtx_eq [] matched rfl hread, ?_⟩
  rw [any_eq_true]
  constructor
  · rintro ⟨codec, hmem, htest⟩
    rw [and_eq_true] at htest
    exact ⟨codec, mem_filter.mpr ⟨hmem, by simp [isKept, htest.2]⟩, htest.1⟩
  rintro ⟨codec, hkept, hrtx⟩
  obtain ⟨hmem, htest⟩ := mem_filter.mp hkept
  refine ⟨codec, hmem, ?_⟩
  simpa [isKept, hrtx] using htest

theorem MediaThenRtx.exists_media (hkept : codec ∈ keptCodecs matched)
    (hrtx : codec.isRtxCodec) : ∃ mediaCodec ∈ keptCodecs matched, mediaCodec.isRtxCodec = false ∧
      codec.parameters = .obj [("apt", .int mediaCodec.payloadType.toNat)] := by
  obtain ⟨hmem, htest⟩ := mem_filter.mp hkept
  have hhas : hasMedia matched (aptOf codec) := by simpa [isKept, hrtx] using htest
  obtain ⟨mediaCodec, hmediaMem, hmed⟩ := any_eq_true.mp hhas
  rw [and_eq_true, not_eq_true', beq_iff_eq] at hmed
  obtain ⟨apt, -, hapt, hpar⟩ := (h.isRtxFor hmem hrtx).valueInt
  refine ⟨mediaCodec, mem_keptCodecs_of_media hmediaMem hmed.1, hmed.1, ?_⟩
  rw [hmed.2, hapt, hpar]

theorem MediaThenRtx.keptCodecs_eq : (media = [] ∧ keptCodecs matched = []) ∨
      ∃ first rest, media ≠ [] ∧ keptCodecs matched = first :: rest ∧ first.isRtxCodec = false := by
  cases media with
  | nil =>
    refine .inl ⟨rfl, filter_eq_nil_iff.mpr fun codec hmem htest => ?_⟩
    have hall : ∀ codec ∈ matched, codec.isRtxCodec := fun codec hmem =>
      (h.rtx codec (by simpa [h.eq] using hmem)).1
    have hhas : hasMedia matched (aptOf codec) := by
      simpa [isKept, hall codec hmem] using htest
    obtain ⟨mediaCodec, hmediaMem, hmed⟩ := any_eq_true.mp hhas
    rw [hall mediaCodec hmediaMem] at hmed
    cases hmed
  | cons first rest =>
    have hfst : first.isRtxCodec = false := h.media first mem_cons_self
    refine .inr ⟨first, (rest ++ rtx).filter (isKept (hasMedia matched)), cons_ne_nil _ _, ?_, hfst⟩
    have hpos : isKept (hasMedia matched) first := by simp [isKept, hfst]
    unfold keptCodecs
    rw [← filter_cons_of_pos hpos]
    congr 1
    exact h.eq

end

end Kept

/-! ### The three steps together -/

theorem negotiated_of_kept {consumable consumer : RtpParameters}
    {os : List (Option RtpCodecParameters)} {media rtx : List RtpCodecParameters}
    {hasRtx : Bool} {ssrc rtxSsrc : UInt32}
    (hmap : consumable.codecs.mapM (matchCodec remote) = .ok os)
    (hmatch : MediaThenRtx os.reduceOption media rtx) (hne : media ≠ [])
    (hcods : consumer.codecs = keptCodecs os.reduceOption) (henc : consumer.encodings =
      [{ ssrc := some ssrc, rtxSsrc := if hasRtx then some rtxSsrc else none }])
    (hrtx : hasRtx ↔ ∃ codec ∈ consumer.codecs, codec.isRtxCodec) :
    Negotiated consumable remote consumer where
  subsequence := by
    rw [hcods]
    exact (filter_sublist.map _).trans (sublist_matched hmap)
  firstIsMedia := by
    rw [hcods]
    rcases hmatch.keptCodecs_eq with ⟨hnil, -⟩ | ⟨first, rest, -, hkept, hfst⟩
    · exact absurd hnil hne
    · exact ⟨first, rest, hkept, hfst⟩
  rtxRefers := by
    rw [hcods]
    exact fun codec hkept his => hmatch.exists_media hkept his
  sharedFeedback := by
    rw [hcods]
    intro codec hkept
    obtain ⟨offered, hoff, remoteCodec, hfind, rfl⟩ :=
      exists_of_mem_matched hmap (mem_filter.mp hkept).1
    obtain ⟨hrem, htest⟩ := mem_of_findM? hfind
    refine ⟨offered, hoff, remoteCodec, hrem, rfl, htest, fun fb hfb => ?_⟩
    obtain ⟨hfbOffered, hfbRemote⟩ := mem_filter.mp hfb
    exact ⟨hfbOffered, of_decide_eq_true hfbRemote⟩
  rtxSsrc := by
    refine ⟨_, henc, Iff.trans ?_ hrtx⟩
    cases hasRtx <;> simp

theorem getConsumerRtpParameters_cases (remote : RtpCapabilities) {consumable : RtpParameters}
    {media rtx : List RtpCodecParameters}
    (hspl : MediaThenRtx consumable.codecs media rtx) (newSsrc : ℕ → UInt32) :
    (∃ e e', consumable.codecs.mapM (matchCodec remote) = .error e ∧
      getConsumerRtpParameters newSsrc consumable remote false = .error e') ∨
    ∃ os osMedia osRtx, consumable.codecs.mapM (matchCodec remote) = .ok os ∧
      media.mapM (matchCodec remote) = .ok osMedia ∧
      MediaThenRtx os.reduceOption osMedia.reduceOption osRtx ∧ ((osMedia.reduceOption = [] ∧
          ∃ e, getConsumerRtpParameters newSsrc consumable remote false = .error e) ∨
        osMedia.reduceOption ≠ [] ∧ ∃ consumer hasRtx,
          getConsumerRtpParameters newSsrc consumable remote false = .ok consumer ∧
          consumer.codecs = keptCodecs os.reduceOption ∧ consumer.encodings =
            [{ ssrc := some (newSsrc 0), rtxSsrc := if hasRtx then some (newSsrc 1) else none }] ∧
          (hasRtx = true ↔ ∃ codec ∈ consumer.codecs, codec.isRtxCodec = true)) := by
  unfold getConsumerRtpParameters
  rw [if_neg Bool.false_ne_true]
  cases hmap : consumable.codecs.mapM (matchCodec remote) with
  | error e => exact .inl ⟨e, e, rfl, rfl⟩
  | ok os =>
    obtain ⟨osMedia, osRtx, hmed, hmatch⟩ := hspl.of_mapM hmap
    obtain ⟨hasRtx, hremove, hhasRtx⟩ := hmatch.removeDanglingRtx_eq_ok
    refine .inr ⟨os, osMedia, _, rfl, hmed, hmatch, ?_⟩
    rw [Json.ok_bind, hremove, Json.ok_bind]
    rcases hmatch.keptCodecs_eq with ⟨hnil, hkept⟩ | ⟨_, _, hne, hkept, hfst⟩
    · refine .inl ⟨hnil, ?_⟩
      dsimp only
      rw [hkept]
      exact ⟨_, rfl⟩
    refine .inr ⟨hne, ?_⟩
    have htest : ((keptCodecs os.reduceOption).isEmpty ||
        (keptCodecs os.reduceOption).head?.any RtpCodecParameters.isRtxCodec) = false := by
      simp [hkept, hfst]
    dsimp only
    rw [htest, if_neg Bool.false_ne_true]
    exact ⟨_, hasRtx, rfl, rfl, rfl, hhasRtx⟩

/-- **The codecs a consumer gets, and when it gets none.**  A comparison is also a way to
fail: reading a parameter of another type throws. -/
theorem negotiation_spec {mediaCodecs : List RtpCodecCapability} {caps : RtpCapabilities}
    {newSsrc : ℕ → UInt32} {params : RtpParameters} {mapping : RtpMapping}
    (hcaps : generateRouterRtpCapabilities mediaCodecs = .ok caps)
    (hmapping : getProducerRtpParametersMapping newSsrc params caps = .ok mapping)
    (kind : String) (remote : RtpCapabilities) (newSsrc' : ℕ → UInt32) :
    let consumable := getConsumableRtpParameters kind params caps mapping
    (∀ consumer, getConsumerRtpParameters newSsrc' consumable remote false = .ok consumer →
      Negotiated consumable remote consumer) ∧
    ((∃ e, getConsumerRtpParameters newSsrc' consumable remote false = .error e) ↔
      (∃ codec ∈ consumable.codecs, ∃ e, matchRemote remote codec = .error e) ∨
      ∀ codec ∈ consumable.codecs, codec.isRtxCodec = false →
        ∀ remoteCodec ∈ remote.codecs,
          matchCodecs codec.asCapability remoteCodec true = .ok false) := by
  intro consumable
  obtain ⟨media, rtx, hspl⟩ := exists_mediaThenRtx hcaps hmapping kind
  have hfail : (∃ e, consumable.codecs.mapM (matchCodec remote) = .error e) ↔
      ∃ codec ∈ consumable.codecs, ∃ e, matchRemote remote codec = .error e := by
    rw [mapM_fails_iff]
    exact exists_congr fun codec => and_congr_right fun _ => matchCodec_fails_iff
  have hmediaOnly : ∀ P : RtpCodecParameters → Prop,
      (∀ codec ∈ consumable.codecs, codec.isRtxCodec = false → P codec) ↔
        ∀ codec ∈ media, P codec := fun P => by
    rw [show consumable.codecs = media ++ rtx from hspl.eq]
    constructor
    · exact fun h codec hmem => h codec (mem_append_left _ hmem) (hspl.media codec hmem)
    intro h codec hmem hmed
    rcases mem_append.mp hmem with hmem | hmem
    · exact h codec hmem
    · rw [(hspl.rtx codec hmem).1] at hmed
      cases hmed
  rw [← hfail, hmediaOnly]
  rcases getConsumerRtpParameters_cases remote hspl newSsrc' with
    ⟨e, e', hmap, hcons⟩ | ⟨os, osMedia, osRtx, hmap, hmed, hmatch, hcase⟩
  · refine ⟨fun consumer h => ?_, fun _ => .inl ⟨e, hmap⟩, fun _ => ⟨e', hcons⟩⟩
    rw [hcons] at h
    cases h
  rw [← matched_eq_nil_iff hmed]
  have hnot : ¬∃ e, consumable.codecs.mapM (matchCodec remote) = .error e := by
    rintro ⟨e, he⟩
    rw [hmap] at he
    cases he
  rcases hcase with ⟨hnil, e, hcons⟩ | ⟨hne, consumer, _, hcons, hcods, henc, hrtx⟩
  · refine ⟨fun consumer h => ?_, fun _ => .inr hnil, fun _ => ⟨e, hcons⟩⟩
    rw [hcons] at h
    cases h
  refine ⟨fun consumer' h => ?_, ?_, fun h => (h.elim hnot hne).elim⟩
  · rw [hcons] at h
    cases h
    exact negotiated_of_kept hmap hmatch hne hcods henc hrtx
  · rintro ⟨e, he⟩
    rw [hcons] at he
    cases he

def vp8AndVp9 : List RtpCodecCapability :=
  [{ mimeType := "video/VP8", clockRate := 90000 },
    { mimeType := "video/VP9", clockRate := 90000 }]

def vp8AndVp9Params : RtpParameters where
  codecs :=
    [{ mimeType := "video/VP8", payloadType := 96, clockRate := 90000 },
      { mimeType := "video/VP9", payloadType := 97, clockRate := 90000 },
      { mimeType := "video/rtx", payloadType := 98, clockRate := 90000,
        parameters := .obj [("apt", .int 96)] }]
  encodings := [{}]

def vp8AndVp9Consumer (remote : RtpCapabilities) :
    Except OrtcError (RtpCapabilities × RtpMapping × Except OrtcError RtpParameters) := do
  let caps ← generateRouterRtpCapabilities vp8AndVp9
  let mapping ← getProducerRtpParametersMapping (fun _ => 0) vp8AndVp9Params caps
  return (caps, mapping, getConsumerRtpParameters (fun _ => 0)
    (getConsumableRtpParameters "video" vp8AndVp9Params caps mapping) remote false)

theorem vp8AndVp9Consumer_eq_ok {remote : RtpCapabilities}
    {r : RtpCapabilities × RtpMapping × Except OrtcError RtpParameters}
    (h : vp8AndVp9Consumer remote = .ok r) : generateRouterRtpCapabilities vp8AndVp9 = .ok r.1 ∧
      getProducerRtpParametersMapping (fun _ => 0) vp8AndVp9Params r.1 = .ok r.2.1 ∧
      getConsumerRtpParameters (fun _ => 0)
        (getConsumableRtpParameters "video" vp8AndVp9Params r.1 r.2.1) remote false = r.2.2 := by
  unfold vp8AndVp9Consumer at h
  rw [bind_eq_ok] at h
  obtain ⟨_, hcaps, h⟩ := h
  rw [bind_eq_ok] at h
  obtain ⟨_, hmap, heq⟩ := h
  cases heq
  exact ⟨hcaps, hmap, rfl⟩

def vp8AndRtx : RtpCapabilities where
  codecs :=
    [{ mimeType := "video/rtx", clockRate := 90000 },
      { mimeType := "video/VP8", clockRate := 90000 }]

theorem negotiation_spec_vp8AndRtx :
    ∃ caps mapping consumer,
      generateRouterRtpCapabilities vp8AndVp9 = .ok caps ∧
      getProducerRtpParametersMapping (fun _ => 0) vp8AndVp9Params caps = .ok mapping ∧
      getConsumerRtpParameters (fun _ => 0)
        (getConsumableRtpParameters "video" vp8AndVp9Params caps mapping) vp8AndRtx false =
          .ok consumer ∧
      consumer.codecs.map RtpCodecParameters.mimeType = ["video/VP8", "video/rtx"] ∧
      Negotiated (getConsumableRtpParameters "video" vp8AndVp9Params caps mapping) vp8AndRtx
        consumer := by
  have hrun : (vp8AndVp9Consumer vp8AndRtx).toOption.map (fun r =>
      r.2.2.toOption.map fun consumer => consumer.codecs.map RtpCodecParameters.mimeType) =
        some (some ["video/VP8", "video/rtx"]) := by
    decide +kernel
  obtain ⟨⟨caps, mapping, _⟩, hr, hcods⟩ := exists_ok_of_toOption hrun
  obtain ⟨hcaps, hmap, hcons⟩ := vp8AndVp9Consumer_eq_ok hr
  obtain ⟨consumer, rfl, hmimeTypes⟩ := exists_ok_of_toOption hcods
  exact ⟨caps, mapping, consumer, hcaps, hmap, hcons, hmimeTypes,
    (negotiation_spec hcaps hmap "video" vp8AndRtx fun _ => 0).1 consumer hcons⟩

def vp8AndBadVp9 : RtpCapabilities where
  codecs :=
    [{ mimeType := "video/VP8", clockRate := 90000 },
      { mimeType := "video/VP9", clockRate := 90000, parameters := .null }]

/-- A parameter of another type fails a consumer although VP8 matches. -/
theorem fails_beside_a_match :
    ∃ caps mapping,
      generateRouterRtpCapabilities vp8AndVp9 = .ok caps ∧
      getProducerRtpParametersMapping (fun _ => 0) vp8AndVp9Params caps = .ok mapping ∧
      (∃ codec ∈ (getConsumableRtpParameters "video" vp8AndVp9Params caps mapping).codecs,
        codec.isRtxCodec = false ∧ ∃ remoteCodec ∈ vp8AndBadVp9.codecs,
          matchCodecs codec.asCapability remoteCodec true = .ok true) ∧
      ∃ e, getConsumerRtpParameters (fun _ => 0)
        (getConsumableRtpParameters "video" vp8AndVp9Params caps mapping) vp8AndBadVp9 false =
          .error e := by
  have hrun : (vp8AndVp9Consumer vp8AndBadVp9).toOption.map (fun r =>
      (r.2.2.toOption.isNone,
        (getConsumableRtpParameters "video" vp8AndVp9Params r.1 r.2.1).codecs.any fun codec =>
          !codec.isRtxCodec && vp8AndBadVp9.codecs.any fun remoteCodec =>
            (matchCodecs codec.asCapability remoteCodec true).toOption == some true)) =
        some (true, true) := by
    decide +kernel
  obtain ⟨⟨caps, mapping, result⟩, hr, hres⟩ := exists_ok_of_toOption hrun
  obtain ⟨hcaps, hmap, hcons⟩ := vp8AndVp9Consumer_eq_ok hr
  obtain ⟨hfail, hmatch⟩ := Prod.mk.inj hres
  refine ⟨caps, mapping, hcaps, hmap, ?_, ?_⟩
  · obtain ⟨codec, hmem, hcod⟩ := any_eq_true.mp hmatch
    rw [and_eq_true, not_eq_true', any_eq_true] at hcod
    obtain ⟨hmed, remoteCodec, hrem, hmat⟩ := hcod
    obtain ⟨_, hb, rfl⟩ := exists_ok_of_toOption
      (f := id) (Option.map_id_apply.trans (eq_of_beq hmat))
    exact ⟨codec, hmem, hmed, remoteCodec, hrem, hb⟩
  · cases result with
    | error e => exact ⟨e, hcons⟩
    | ok consumer => cases hfail

end Consumer

end MediasoupCpp.Ortc
