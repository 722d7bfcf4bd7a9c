import Mathlib.Data.List.Basic
import MediasoupCpp.Lib.Run
import MediasoupCpp.Room.Manager
import MediasoupCpp.Qos.RoomPlan

/-!
# The producers of a room and the tables that name them

A peer sends its media through producers, each made on one of the peer's four transports.  Three
tables of the room are about producers: the router's table, the index of the peers they belong to,
and the demand the planning passes have found on them.

Main result: `tablesLive_iff`.

Source: `src/RoomServiceMedia.cpp`, `src/RoomMediaHelpers.h`, `src/RoomServiceLifecycle.cpp`,
`src/RoomDownlinkHelpers.h`, `src/Transport.cpp`, `src/Producer.cpp`, `src/Router.cpp`,
`src/Peer.h`.
-/

namespace MediasoupCpp

/-! ### Producers, transports and peers -/

structure Producer where
  kind : String
  transportId : String
  closed : Bool := false
  deriving DecidableEq

abbrev ProducerHeap := Dict String Producer

namespace ProducerHeap

def isClosed (heap : ProducerHeap) (producerId : String) : Bool :=
  (heap.lookup producerId).any Producer.closed

def isOpen (heap : ProducerHeap) (producerId : String) : Bool :=
  (heap.lookup producerId).any (!·.closed)

def close (heap : ProducerHeap) (producerIds : List String) : ProducerHeap :=
  heap.mapValues fun producerId producer =>
    if producerId ∈ producerIds then { producer with closed := true } else producer

end ProducerHeap

open ProducerHeap

structure Transport where
  id : String
  closed : Bool := false
  producers : List String := []
  producers_of_closed : closed = true → producers = [] := by simp
  deriving DecidableEq

inductive TransportSlot
  | send
  | recv
  | plainSend
  | plainRecv
  deriving DecidableEq

/-- A peer with its transports and producers.  (The consumers are not looked at.) -/
structure MediaPeer where
  transports : TransportSlot → Option Transport := fun _ => none
  producers : List String := []

namespace MediaPeer

variable (peer : MediaPeer) (slot : TransportSlot)

def owned : List String := (peer.transports slot).elim [] (·.producers)

def setTransport (transport : Option Transport) : MediaPeer :=
  { peer with transports := Function.update peer.transports slot transport }

def getTransport (transportId : String) : Option TransportSlot :=
  [.send, .recv, .plainSend, .plainRecv].find? fun slot =>
    (peer.transports slot).any (·.id = transportId)

def closeTransport (heap : ProducerHeap) : MediaPeer × ProducerHeap :=
  match peer.transports slot with
  | none => (peer, heap)
  | some transport =>
    if transport.closed then (peer, heap)
    else
      -- a producer that is closed already tells nobody
      let closing := transport.producers.filter (heap.isOpen ·)
      let peer := peer.setTransport slot (some { id := transport.id, closed := true })
      ({ peer with producers := peer.producers.filter (· ∉ closing) }, heap.close closing)

def dropTransport (heap : ProducerHeap) : MediaPeer × ProducerHeap :=
  let (peer, heap) := peer.closeTransport slot heap
  (peer.setTransport slot none, heap)

def close (heap : ProducerHeap) : ProducerHeap :=
  let (peer, heap) :=
    [TransportSlot.send, .recv, .plainSend, .plainRecv].foldl
      (fun (peer, heap) slot => peer.dropTransport slot heap) (peer, heap)
  heap.close peer.producers

def eraseClosedPeerEntries (heap : ProducerHeap) : List String × MediaPeer :=
  (peer.producers.filter (heap.isClosed ·),
    { peer with producers := peer.producers.filter (!heap.isClosed ·) })

end MediaPeer

/-! ### The room and its tables -/

/-- The ids that producers and transports get, one after the other: any sequence without
repetition. -/
structure UuidSource where
  uuid : ℕ → String
  injective : Function.Injective uuid

/-- A room as far as its producers go, and the tables the room service has of it. -/
structure RoomMedia where
  roomExists : Bool := false
  peers : Dict String MediaPeer := ∅
  routerProducers : List String := []
  producerOwnerPeerIds : Dict String String := ∅
  producerDemandCache : DemandMap := ∅
  heap : ProducerHeap := ∅
  drawn : ℕ := 0

inductive MediaResult
  | made (ids : List String)
  | failed (error : String)
  | threw
  deriving DecidableEq

def cleanupIndexedProducers {υ : Type} (producerIds : List String) (cache : Dict String υ) :
    Dict String υ :=
  cache.filter fun producerId _ => producerId ∉ producerIds

def DemandMap.cleanup (producerIds : List String) (demand : DemandMap) : DemandMap where
  states := cleanupIndexedProducers producerIds demand.states
  keyed h := demand.keyed (Option.eq_some_of_filter_eq_some (by
    rwa [cleanupIndexedProducers, Dict.lookup_filter] at h))

namespace RoomMedia

variable (s : RoomMedia) (peerId : String)

def setPeer (peer : MediaPeer) : RoomMedia :=
  { s with peers := s.peers.insert peerId peer }

def removeProducers (producerIds : List String) : RoomMedia :=
  { s with
    routerProducers := s.routerProducers.filter (· ∉ producerIds)
    producerOwnerPeerIds := cleanupIndexedProducers producerIds s.producerOwnerPeerIds
    producerDemandCache := s.producerDemandCache.cleanup producerIds }

def indexPeerProducers : RoomMedia :=
  match s.peers.lookup peerId with
  | none => s
  | some peer =>
    { s with
      producerOwnerPeerIds :=
        peer.producers.foldl (fun owners producerId => owners.insert producerId peerId)
          s.producerOwnerPeerIds }

variable (slot : TransportSlot)

def closeTransport : RoomMedia :=
  match s.peers.lookup peerId with
  | none => s
  | some peer =>
    let (peer, heap) := peer.closeTransport slot s.heap
    { s.setPeer peerId peer with heap := heap }

def eraseClosedPeerEntries : List String × RoomMedia :=
  match s.peers.lookup peerId with
  | none => ([], s)
  | some peer =>
    let (removed, peer) := peer.eraseClosedPeerEntries s.heap
    (removed, s.setPeer peerId peer)

def setTransport (transport : Option Transport) :
    RoomMedia :=
  match s.peers.lookup peerId with
  | none => s
  | some peer => s.setPeer peerId (peer.setTransport slot transport)

def hasTransport : Bool :=
  (s.peers.lookup peerId).any fun peer => (peer.transports slot).isSome

def discardTransport (producing : Bool) : RoomMedia :=
  if s.hasTransport peerId slot then
    let (removed, s) := (s.closeTransport peerId slot).eraseClosedPeerEntries peerId
    let s := if producing then s.removeProducers removed else s
    s.setTransport peerId slot none
  else s

def closePeer : RoomMedia :=
  match s.peers.lookup peerId with
  | none => s
  | some peer =>
    let s := s.removeProducers peer.producers
    { s with peers := s.peers.erase peerId, heap := peer.close s.heap }

/-! ### Joining and leaving -/

def join (rtpCapabilities : RtpCapabilities) (routerCreated : Bool) :
    JoinResult × RoomMedia :=
  if rtpCapabilities = .notAnObject then (.rejected "invalid rtpCapabilities", s)
  else if !s.roomExists && !routerCreated then (.threw, s)
  else
    let s := { s with roomExists := true }
    if rtpCapabilities = .malformed then (.threw, s)
    else (.joined, (s.closePeer peerId).setPeer peerId {})

def leave : RoomMedia :=
  if s.roomExists then
    let s := s.closePeer peerId
    if s.peers.entries.isEmpty then { s with roomExists := false, routerProducers := [] } else s
  else s

/-! ### Making transports and producers -/

section Media

variable (ids : UuidSource)

def replaceTransport (peerId : String) (slot : TransportSlot) (producing created : Bool) :
    Option String × RoomMedia :=
  let s := s.discardTransport peerId slot producing
  if created then
    let id := ids.uuid s.drawn
    (some id, { s.setTransport peerId slot (some { id := id }) with drawn := s.drawn + 1 })
  else (none, s)

def withPeer (peerId : String) (call : MediaPeer → MediaResult × RoomMedia) :
    MediaResult × RoomMedia :=
  if s.roomExists then
    match s.peers.lookup peerId with
    | none => (.failed "peer not found", s)
    | some peer => call peer
  else (.failed "room not found", s)

def answer : Option String × RoomMedia → MediaResult × RoomMedia
  | (none, s) => (.threw, s)
  | (some id, s) => (.made [id], s)

/-- A client asks for a transport.  (What it is told beyond its id, and the consumers made
on a transport for receiving, are left out.) -/
def createTransport (peerId : String) (producing consuming : Bool)
    (rtpCapabilities : RtpCapabilities) (created : Bool) : MediaResult × RoomMedia :=
  if producing = consuming then (.failed "exactly one of producing or consuming must be true", s)
  else
    s.withPeer peerId fun _ =>
      if consuming && rtpCapabilities = .notAnObject then (.failed "invalid rtpCapabilities", s)
      else if consuming && rtpCapabilities = .malformed then (.threw, s)
      else
        answer
          (s.replaceTransport ids peerId (if producing then .send else .recv) producing created)

def createPlainTransport (peerId : String) (producing consuming created : Bool) :
    MediaResult × RoomMedia :=
  if producing = consuming then (.failed "exactly one of producing or consuming must be true", s)
  else
    s.withPeer peerId fun _ =>
      answer (s.replaceTransport ids peerId (if producing then .plainSend else .plainRecv)
        producing created)

def plainSubscribe (peerId : String) (created connected : Bool) : MediaResult × RoomMedia :=
  s.withPeer peerId fun _ =>
    match s.replaceTransport ids peerId .plainRecv false created with
    | (none, s) => (.threw, s)
    | (some id, s) => if connected then (.made [id], s) else (.threw, s)

def addProducer (peerId : String) (slot : TransportSlot) (kind : String) (accepted : Bool) :
    Option String × RoomMedia :=
  match s.peers.lookup peerId with
  | none => (none, s)
  | some peer =>
    match peer.transports slot with
    | none => (none, s)
    | some transport =>
      if hopen : transport.closed = false then
        if accepted then
          let id := ids.uuid s.drawn
          let transport :=
            { transport with
              producers := id :: transport.producers
              producers_of_closed := fun hcl => by simp [hopen] at hcl }
          let peer := peer.setTransport slot (some transport)
          (some id,
            { s.setPeer peerId { peer with producers := id :: peer.producers } with
              heap := s.heap.insert id { kind := kind, transportId := transport.id }
              routerProducers := id :: s.routerProducers
              drawn := s.drawn + 1 })
        else (none, s)
      else (none, s)

def produce (peerId transportId kind : String) (rtpParameters accepted : Bool) :
    MediaResult × RoomMedia :=
  if kind ≠ "audio" ∧ kind ≠ "video" then (.failed "invalid kind", s)
  else if !rtpParameters then (.failed "invalid rtpParameters", s)
  else
    s.withPeer peerId fun peer =>
      match peer.getTransport transportId with
      | none => (.failed "transport not found", s)
      | some slot =>
        match s.addProducer ids peerId slot kind accepted with
        | (none, s) => (.threw, s)
        | (some id, s) => (.made [id], s.indexPeerProducers peerId)

/-! ### Publishing by a plain client -/

structure RtpCodecCapability where
  mimeType : String
  preferredPayloadType : UInt32 := 0
  packetizationMode : ℤ := 0
  profileLevelId : String := ""

def kPlainClientH264BaselineProfileLevelId : String := "42e01f"

def isPlainClientBaselineH264Codec (codec : RtpCodecCapability) : Bool :=
  codec.mimeType = "video/H264" && codec.packetizationMode = 1 &&
    codec.profileLevelId = kPlainClientH264BaselineProfileLevelId

def isPlainClientVp8Codec (codec : RtpCodecCapability) : Bool := codec.mimeType = "video/VP8"

def normalizeRequestedPlainVideoCodec (value : String) : String := value.map Char.toLower

structure PlainPublish where
  videoSsrcs : List UInt32
  audioSsrc : UInt32 := 0
  videoCodec : String := ""
  enableAudio : Bool := true

namespace PlainPublish

variable (req : PlainPublish)

def checkSsrcs (seen : List UInt32) : List UInt32 → Option String
  | [] => none
  | ssrc :: ssrcs =>
    if ssrc = 0 then some "videoSsrcs must be non-zero"
    else if ssrc ∈ seen then some "duplicate SSRC in plainPublish request"
    else checkSsrcs (ssrc :: seen) ssrcs

def invalid? : Option String :=
  if req.videoSsrcs.isEmpty then some "videoSsrcs cannot be empty"
  else if req.enableAudio && req.audioSsrc = 0 then some "audioSsrc must be non-zero"
  else checkSsrcs (if req.enableAudio then [req.audioSsrc] else []) req.videoSsrcs

def requestedVideoCodec : String :=
  normalizeRequestedPlainVideoCodec (if req.videoCodec = "" then "h264" else req.videoCodec)

def unsupported? (codecs : List RtpCodecCapability) : Option String :=
  if req.requestedVideoCodec ≠ "h264" ∧ req.requestedVideoCodec ≠ "vp8" then
    some "unsupported plain publish videoCodec"
  else if req.requestedVideoCodec = "vp8" && !codecs.any isPlainClientVp8Codec then
    some "router has no VP8 codec"
  else if req.requestedVideoCodec = "h264" && !codecs.any isPlainClientBaselineH264Codec then
    some "router has no H264 Baseline codec"
  else if req.enableAudio && !codecs.any (fun codec =>
      codec.mimeType = "audio/opus" && codec.preferredPayloadType.toUInt8 ≠ 0) then
    some "router has no opus codec"
  else none

def kinds : List String :=
  req.videoSsrcs.map (fun _ => "video") ++ if req.enableAudio then ["audio"] else []

end PlainPublish

def addProducers (peerId : String) (slot : TransportSlot) (accepted : ℕ → Bool) :
    List String → RoomMedia → Option (List String) × RoomMedia
  | [], s => (some [], s)
  | kind :: kinds, s =>
    match s.addProducer ids peerId slot kind (accepted kinds.length) with
    | (none, s) => (none, s)
    | (some id, s) =>
      let (made, s) := addProducers peerId slot accepted kinds s
      (made.map (id :: ·), s)

/-- A plain client publishes; `accepted` says by the number of those to come which producers
go through.  (What the client is told beyond the ids is left out.) -/
def plainPublish (codecs : List RtpCodecCapability) (peerId : String) (req : PlainPublish)
    (created : Bool) (accepted : ℕ → Bool) : MediaResult × RoomMedia :=
  s.withPeer peerId fun _ =>
    match req.invalid? with
    | some error => (.failed error, s)
    | none =>
      match s.replaceTransport ids peerId .plainSend true created with
      | (none, s) => (.threw, s)
      | (some _, s) =>
        match req.unsupported? codecs with
        | some error => (.failed error, s)
        | none =>
          match addProducers ids peerId .plainSend accepted req.kinds s with
          -- the producers made so far stay, but are not entered as the peer's own
          | (none, s) => (.threw, s)
          | (some made, s) => (.made made, s.indexPeerProducers peerId)

end Media

def plan (A : SubscriberBudgetAllocator) (nowMs : ℤ) (room : DownlinkRoom) : RoomMedia :=
  if s.roomExists then
    { s with
      producerDemandCache :=
        (runDownlinkPlanningForRoom A nowMs room s.producerDemandCache).demand }
  else s

end RoomMedia

open RoomMedia

/-! ### Runs -/

inductive MediaOp
  | join (peerId : String) (rtpCapabilities : RtpCapabilities) (routerCreated : Bool)
  | leave (peerId : String)
  | createTransport (peerId : String) (producing consuming : Bool)
      (rtpCapabilities : RtpCapabilities) (created : Bool)
  | createPlainTransport (peerId : String) (producing consuming created : Bool)
  | plainSubscribe (peerId : String) (created connected : Bool)
  | produce (peerId transportId kind : String) (rtpParameters accepted : Bool)
  | plainPublish (peerId : String) (req : RoomMedia.PlainPublish) (created : Bool)
      (accepted : ℕ → Bool)
  /-- A transport is closed without anybody asking for another one. -/
  | closeTransport (peerId : String) (slot : TransportSlot)
  | plan (A : SubscriberBudgetAllocator) (nowMs : ℤ) (room : DownlinkRoom)

open MediaOp

section Runs

open RoomMedia

variable (ids : UuidSource) (codecs : List RtpCodecCapability)

def mediaStep (s : RoomMedia) : MediaOp → RoomMedia
  | .join peerId rtpCapabilities routerCreated => (s.join peerId rtpCapabilities routerCreated).2
  | .leave peerId => s.leave peerId
  | .createTransport peerId producing consuming rtpCapabilities created =>
    (s.createTransport ids peerId producing consuming rtpCapabilities created).2
  | .createPlainTransport peerId producing consuming created =>
    (s.createPlainTransport ids peerId producing consuming created).2
  | .plainSubscribe peerId created connected => (s.plainSubscribe ids peerId created connected).2
  | .produce peerId transportId kind rtpParameters accepted =>
    (s.produce ids peerId transportId kind rtpParameters accepted).2
  | .plainPublish peerId req created accepted =>
    (s.plainPublish ids codecs peerId req created accepted).2
  | .closeTransport peerId slot => s.closeTransport peerId slot
  | .plan A nowMs room => s.plan A nowMs room

end Runs

/-! ### What the tables are to name -/

namespace RoomMedia

variable (s : RoomMedia)

def owned (peerId : String) (slot : TransportSlot) : List String :=
  (s.peers.lookup peerId).elim [] (·.owned slot)

def listed (peerId : String) : List String := (s.peers.lookup peerId).elim [] (·.producers)

variable (producerId : String)

def IsOpen : Prop := s.heap.isOpen producerId = true

def IsListed : Prop := ∃ peerId, producerId ∈ s.listed peerId

def Named : Prop :=
  producerId ∈ s.routerProducers ∨ (s.producerOwnerPeerIds.lookup producerId).isSome ∨
    (s.producerDemandCache.lookup producerId).isSome

def TablesLive : Prop := ∀ producerId, s.Named producerId →
  s.IsOpen producerId ∧ s.IsListed producerId

end RoomMedia

def MediaOp.closes : MediaOp → Option (String × TransportSlot)
  | .createTransport peerId producing consuming rtpCapabilities _ =>
    if producing = consuming then none
    else if consuming && (rtpCapabilities = .notAnObject || rtpCapabilities = .malformed) then none
    else some (peerId, if producing then .send else .recv)
  | .createPlainTransport peerId producing consuming _ =>
    if producing = consuming then none
    else some (peerId, if producing then .plainSend else .plainRecv)
  | .plainSubscribe peerId _ _ => some (peerId, .plainRecv)
  | .plainPublish peerId req _ _ => if req.invalid?.isSome then none else some (peerId, .plainSend)
  | .closeTransport peerId slot => some (peerId, slot)
  | _ => none

def RoomMedia.Calm (s : RoomMedia) : MediaOp → Prop
  | .plan _ nowMs room => s.roomExists = true →
    ∀ producerId, room.Reported nowMs producerId → s.IsListed producerId
  | op => ∀ target ∈ op.closes, s.owned target.1 target.2 = []

/-! ### Closing -/

namespace ProducerHeap

variable (heap : ProducerHeap) (producerIds : List String) (producerId : String)

theorem lookup_close_of_notMem {producerIds : List String} (h : producerId ∉ producerIds) :
    (heap.close producerIds).lookup producerId = heap.lookup producerId := by
  rw [close, Dict.lookup_mapValues]
  simp [h]

@[simp] theorem isSome_lookup_close :
    ((heap.close producerIds).lookup producerId).isSome = (heap.lookup producerId).isSome := by
  rw [close, Dict.lookup_mapValues, Option.isSome_map]

theorem isOpen_close : (heap.close producerIds).isOpen producerId ↔
      heap.isOpen producerId ∧ producerId ∉ producerIds := by
  rw [isOpen, isOpen, close, Dict.lookup_mapValues]
  by_cases hmem : producerId ∈ producerIds <;> cases heap.lookup producerId <;> simp [hmem]

theorem isClosed_close (h : heap.isOpen producerId) (hmem : producerId ∈ producerIds) :
    (heap.close producerIds).isClosed producerId := by
  rw [isOpen, Option.any_eq_true] at h
  obtain ⟨_, hlook, -⟩ := h
  rw [isClosed, close, Dict.lookup_mapValues, hlook]
  simp [hmem]

variable {heap producerId}

theorem isClosed_eq_false (h : heap.isOpen producerId) : heap.isClosed producerId = false := by
  unfold isOpen at h
  unfold isClosed
  cases hlook : heap.lookup producerId <;> simp_all

theorem isSome_of_isOpen (h : heap.isOpen producerId) : (heap.lookup producerId).isSome := by
  unfold isOpen at h
  cases hlook : heap.lookup producerId <;> simp_all

theorem isSome_of_isClosed (h : heap.isClosed producerId) : (heap.lookup producerId).isSome := by
  unfold isClosed at h
  cases hlook : heap.lookup producerId <;> simp_all

end ProducerHeap

namespace MediaPeer

variable (peer : MediaPeer) (heap : ProducerHeap) (slot : TransportSlot)

theorem owned_setTransport (transport : Option Transport) (slot' : TransportSlot) :
    (peer.setTransport slot transport).owned slot' =
      if slot' = slot then transport.elim [] (·.producers) else peer.owned slot' := by
  simp only [owned, setTransport, Function.update_apply]
  split <;> rfl

theorem closeTransport_frame :
    let closed := peer.closeTransport slot heap
    (∀ slot', closed.1.owned slot' = if slot' = slot then [] else peer.owned slot') ∧
      (∀ producerId ∈ closed.1.producers, producerId ∈ peer.producers) ∧
      ∀ producerId, (closed.2.lookup producerId).isSome = (heap.lookup producerId).isSome ∧
        (producerId ∉ peer.owned slot →
          closed.2.lookup producerId = heap.lookup producerId) := by
  unfold closeTransport
  dsimp only
  split
  next hnone =>
    refine ⟨fun slot' => ?_, fun _ h => h, fun _ => ⟨rfl, fun _ => rfl⟩⟩
    split
    next heq =>
      rw [heq, owned, hnone]
      rfl
    · rfl
  next transport hsome =>
    split
    next hcl =>
      refine ⟨fun slot' => ?_, fun _ h => h, fun _ => ⟨rfl, fun _ => rfl⟩⟩
      split
      next heq =>
        rw [heq, owned, hsome]
        exact transport.producers_of_closed hcl
      · rfl
    · refine ⟨fun slot' => owned_setTransport peer slot _ slot', ?_, fun producerId => ⟨?_, ?_⟩⟩
      · intro producerId hmem
        exact (List.mem_filter.mp hmem).1
      · exact isSome_lookup_close _ _ _
      intro hnot
      refine lookup_close_of_notMem _ _ fun hmem => hnot ?_
      rw [owned, hsome]
      exact (List.mem_filter.mp hmem).1

theorem closeTransport_spec {slot : TransportSlot}
    (hopen : ∀ producerId ∈ peer.owned slot, heap.isOpen producerId) (producerId : String) :
    (producerId ∈ (peer.closeTransport slot heap).1.producers ↔
        producerId ∈ peer.producers ∧ producerId ∉ peer.owned slot) ∧
      ((peer.closeTransport slot heap).2.isOpen producerId ↔
        heap.isOpen producerId ∧ producerId ∉ peer.owned slot) ∧
      (producerId ∈ peer.owned slot → (peer.closeTransport slot heap).2.isClosed producerId) := by
  unfold closeTransport
  split
  next hnone =>
    have hown : peer.owned slot = [] := by rw [owned, hnone]; rfl
    simp [hown]
  rename_i transport hsome
  have hown : peer.owned slot = transport.producers := by rw [owned, hsome]; rfl
  rw [hown] at hopen ⊢
  split
  next hcl =>
    simp [transport.producers_of_closed hcl]
  have hclosing : transport.producers.filter (heap.isOpen ·) = transport.producers :=
    List.filter_eq_self.mpr hopen
  rw [hclosing]
  refine ⟨by simp [setTransport], isOpen_close _ _ _, fun hmem => ?_⟩
  exact isClosed_close _ _ _ (hopen producerId hmem) hmem

theorem lookup_close (producerId : String) :
    ((peer.close heap).lookup producerId).isSome = (heap.lookup producerId).isSome ∧
      (producerId ∉ peer.producers → (∀ slot, producerId ∉ peer.owned slot) →
        (peer.close heap).lookup producerId = heap.lookup producerId) := by
  have hdrop : ∀ (slots : List TransportSlot) (peer : MediaPeer) (heap : ProducerHeap),
      let after := slots.foldl (fun (peer, heap) slot => peer.dropTransport slot heap) (peer, heap)
      (after.2.lookup producerId).isSome = (heap.lookup producerId).isSome ∧
        (producerId ∉ peer.producers → (∀ slot, producerId ∉ peer.owned slot) →
          producerId ∉ after.1.producers ∧ after.2.lookup producerId = heap.lookup producerId) := by
    intro slots
    induction slots with
    | nil => exact fun peer heap => ⟨rfl, fun hnot _ => ⟨hnot, rfl⟩⟩
    | cons slot slots ih =>
      intro peer heap
      obtain ⟨hown, hprods, hlook⟩ := closeTransport_frame peer heap slot
      obtain ⟨hsome, hkept⟩ := ih (peer.dropTransport slot heap).1 (peer.dropTransport slot heap).2
      refine ⟨hsome.trans (hlook producerId).1, fun hnot hnone => ?_⟩
      have hrest := hkept (fun hmem => hnot (hprods _ hmem)) fun slot' => by
        rw [dropTransport, owned_setTransport]
        split
        · exact List.not_mem_nil
        rename_i hne
        rw [hown, if_neg hne]
        exact hnone slot'
      exact ⟨hrest.1, hrest.2.trans ((hlook producerId).2 (hnone slot))⟩
  obtain ⟨hsome, hkept⟩ := hdrop [.send, .recv, .plainSend, .plainRecv] peer heap
  refine ⟨(isSome_lookup_close _ _ _).trans hsome, fun hnot hnone => ?_⟩
  obtain ⟨hnot, hlook⟩ := hkept hnot hnone
  exact (lookup_close_of_notMem _ _ hnot).trans hlook

end MediaPeer

/-! ### What holds in every run -/

namespace RoomMedia

section Views

variable (s : RoomMedia) {peerId : String}

theorem owned_setPeer (peer : MediaPeer) (p : String) (slot : TransportSlot) :
    (s.setPeer peerId peer).owned p slot =
      if p = peerId then peer.owned slot else s.owned p slot := by
  simp only [owned, setPeer, Dict.lookup_insert_eq]
  split <;> rfl

theorem listed_setPeer (peer : MediaPeer) (p : String) :
    (s.setPeer peerId peer).listed p = if p = peerId then peer.producers else s.listed p := by
  simp only [listed, setPeer, Dict.lookup_insert_eq]
  split <;> rfl

variable {s}

theorem owned_of_none (h : s.peers.lookup peerId = none) (slot : TransportSlot) :
    s.owned peerId slot = [] := by
  rw [owned, h]; rfl

theorem listed_of_none (h : s.peers.lookup peerId = none) : s.listed peerId = [] := by
  rw [listed, h]; rfl

theorem owned_of_some {peer : MediaPeer} (h : s.peers.lookup peerId = some peer)
    (slot : TransportSlot) : s.owned peerId slot = peer.owned slot := by
  rw [owned, h]; rfl

theorem listed_of_some {peer : MediaPeer} (h : s.peers.lookup peerId = some peer) :
    s.listed peerId = peer.producers := by
  rw [listed, h]; rfl

end Views

/-- What holds in every run: a peer lists the producers of its transports, no producer is made
on two of them, and all of them are open and in the router's table. -/
structure Tidy (ids : UuidSource) (s : RoomMedia) : Prop where
  listed_iff : ∀ peerId id, id ∈ s.listed peerId ↔ ∃ slot, id ∈ s.owned peerId slot
  apart : ∀ {p slot p' slot' id}, id ∈ s.owned p slot → id ∈ s.owned p' slot' →
    p = p' ∧ slot = slot'
  isOpen : ∀ {p slot id}, id ∈ s.owned p slot → s.IsOpen id
  routed : ∀ {p slot id}, id ∈ s.owned p slot → id ∈ s.routerProducers
  drawn : ∀ {id}, (s.heap.lookup id).isSome → ∃ n < s.drawn, ids.uuid n = id
  gone : s.roomExists = false → ∀ p slot, s.owned p slot = []

def LeftOver (s : RoomMedia) (id : String) : Prop :=
  id ∈ s.routerProducers ∧ s.heap.isClosed id = true

theorem LeftOver.not_tablesLive {s : RoomMedia} {id : String} (h : s.LeftOver id) :
    ¬ s.TablesLive := by
  intro hlive
  have hcl := isClosed_eq_false (hlive id (.inl h.1)).1
  rw [h.2] at hcl
  exact Bool.noConfusion hcl

/-- Two states are alike, if they differ in transports without producers at most. -/
structure Alike (s s' : RoomMedia) : Prop where
  roomExists : s'.roomExists = s.roomExists
  owned : ∀ p slot, s'.owned p slot = s.owned p slot
  listed : ∀ p id, id ∈ s'.listed p ↔ id ∈ s.listed p
  heap : ∀ id, s'.heap.lookup id = s.heap.lookup id
  router : ∀ id, id ∈ s'.routerProducers ↔ id ∈ s.routerProducers
  named : ∀ id, s'.Named id ↔ s.Named id
  drawn : s.drawn ≤ s'.drawn

section Tidy

variable {ids : UuidSource} {s s' s'' : RoomMedia} {p : String} {slot : TransportSlot} {id : String}

theorem Alike.refl (s : RoomMedia) : s.Alike s :=
  ⟨rfl, fun _ _ => rfl, fun _ _ => Iff.rfl, fun _ => rfl, fun _ => Iff.rfl, fun _ => Iff.rfl,
    le_rfl⟩

section

variable (h : s.Alike s')
include h

theorem Alike.trans (h' : s'.Alike s'') : s.Alike s'' where
  roomExists := h'.roomExists.trans h.roomExists
  owned p slot := (h'.owned p slot).trans (h.owned p slot)
  listed p id := (h'.listed p id).trans (h.listed p id)
  heap id := (h'.heap id).trans (h.heap id)
  router id := (h'.router id).trans (h.router id)
  named id := (h'.named id).trans (h.named id)
  drawn := h.drawn.trans h'.drawn

theorem Alike.symm (hdrew : s'.drawn = s.drawn) : s'.Alike s where
  roomExists := h.roomExists.symm
  owned p slot := (h.owned p slot).symm
  listed p id := (h.listed p id).symm
  heap id := (h.heap id).symm
  router id := (h.router id).symm
  named id := (h.named id).symm
  drawn := hdrew.le

theorem Alike.isOpen : s'.IsOpen id ↔ s.IsOpen id := by
  rw [IsOpen, IsOpen, ProducerHeap.isOpen, ProducerHeap.isOpen, h.heap]

theorem Alike.tablesLive (hlive : s.TablesLive) : s'.TablesLive := by
  intro id hnm
  obtain ⟨hopen, p, hlist⟩ := hlive id ((h.named id).mp hnm)
  exact ⟨h.isOpen.mpr hopen, p, (h.listed p id).mpr hlist⟩

theorem Alike.leftOver (hleft : s.LeftOver id) : s'.LeftOver id := by
  refine ⟨(h.router id).mpr hleft.1, ?_⟩
  rw [isClosed, h.heap]
  exact hleft.2

end

theorem Tidy.shrink (h : s.Tidy ids) (hroom : s'.roomExists = false → s.roomExists = false)
    (hown : ∀ p slot id, id ∈ s'.owned p slot → id ∈ s.owned p slot)
    (hlist : ∀ p id, id ∈ s'.listed p ↔ ∃ slot, id ∈ s'.owned p slot)
    (hopen : ∀ p slot id, id ∈ s'.owned p slot → s'.IsOpen id)
    (hrouted : ∀ p slot id, id ∈ s'.owned p slot → id ∈ s'.routerProducers)
    (hheap : ∀ id, (s'.heap.lookup id).isSome → (s.heap.lookup id).isSome)
    (hdrew : s.drawn ≤ s'.drawn) : s'.Tidy ids where
  listed_iff := hlist
  apart hid hid' := h.apart (hown _ _ _ hid) (hown _ _ _ hid')
  isOpen := hopen _ _ _
  routed := hrouted _ _ _
  drawn hid := by
    obtain ⟨n, hn, hdraw⟩ := h.drawn (hheap _ hid)
    exact ⟨n, hn.trans_le hdrew, hdraw⟩
  gone hgone p slot := by
    refine List.eq_nil_iff_forall_not_mem.mpr fun id hid => ?_
    have hmem := hown p slot id hid
    rw [h.gone (hroom hgone)] at hmem
    cases hmem

theorem Tidy.alike (h : s.Tidy ids) (halike : s.Alike s') : s'.Tidy ids := by
  refine h.shrink (fun hgone => halike.roomExists ▸ hgone) (fun p slot id hid => ?_)
    (fun p id => ?_) (fun p slot id hid => ?_) (fun p slot id hid => ?_) (fun id hid => ?_)
    halike.drawn
  · rwa [halike.owned] at hid
  · simp only [halike.owned]
    exact (halike.listed p id).trans (h.listed_iff p id)
  · rw [halike.owned] at hid
    exact halike.isOpen.mpr (h.isOpen hid)
  · rw [halike.owned] at hid
    exact (halike.router id).mpr (h.routed hid)
  · rwa [halike.heap] at hid

theorem Tidy.isOpen_of_listed (h : s.Tidy ids) (hid : id ∈ s.listed p) : s.IsOpen id := by
  obtain ⟨_, hslot⟩ := (h.listed_iff p id).mp hid
  exact h.isOpen hslot

theorem Tidy.tablesLive (h : s.Tidy ids) (hlist : ∀ id, s.Named id → s.IsListed id) :
    s.TablesLive := by
  intro id hnm
  obtain ⟨p, hp⟩ := hlist id hnm
  exact ⟨h.isOpen_of_listed hp, p, hp⟩

/-! ### A transport is closed -/

theorem owned_closeTransport (q : String) (slot' : TransportSlot) :
    (s.closeTransport p slot).owned q slot' =
      if q = p ∧ slot' = slot then [] else s.owned q slot' := by
  unfold closeTransport
  split
  next hnone =>
    split
    next heq =>
      rw [heq.1, owned_of_none hnone]
    · rfl
  rename_i peer hpeer
  refine (owned_setPeer s _ q slot').trans ?_
  by_cases hq : q = p
  · rw [if_pos hq, (MediaPeer.closeTransport_frame peer s.heap slot).1, hq, owned_of_some hpeer]
    simp
  · rw [if_neg hq, if_neg fun h => hq h.1]

theorem Tidy.closeTransport_spec (h : s.Tidy ids) (p : String) (slot : TransportSlot)
    (id : String) :
    let s' := s.closeTransport p slot
    (∀ q, id ∈ s'.listed q ↔ id ∈ s.listed q ∧ id ∉ s.owned p slot) ∧
      (s'.IsOpen id ↔ s.IsOpen id ∧ id ∉ s.owned p slot) ∧
      (id ∈ s.owned p slot → s'.heap.isClosed id) ∧
      ((s'.heap.lookup id).isSome = (s.heap.lookup id).isSome ∧
        (id ∉ s.owned p slot → s'.heap.lookup id = s.heap.lookup id)) := by
  dsimp only
  cases hpeer : s.peers.lookup p with
  | none =>
    have hsame : s.closeTransport p slot = s := by rw [closeTransport, hpeer]
    rw [hsame, owned_of_none hpeer]
    simp
  | some peer =>
    have haft : s.closeTransport p slot =
        { s.setPeer p (peer.closeTransport slot s.heap).1 with
          heap := (peer.closeTransport slot s.heap).2 } := by
      rw [closeTransport, hpeer]
    have hown := owned_of_some hpeer slot
    obtain ⟨hprods, hopen, hcl⟩ := MediaPeer.closeTransport_spec peer s.heap
      (fun id (hid : id ∈ peer.owned slot) => h.isOpen (hown ▸ hid)) id
    rw [haft, hown]
    refine ⟨fun q => ?_, hopen, hcl, (MediaPeer.closeTransport_frame peer s.heap slot).2.2 id⟩
    change id ∈ (s.setPeer p (peer.closeTransport slot s.heap).1).listed q ↔ _
    rw [listed_setPeer]
    by_cases hq : q = p
    · rw [if_pos hq, hq, listed_of_some hpeer]
      exact hprods
    rw [if_neg hq]
    -- a producer of the transport is listed by its own peer only
    refine (and_iff_left_of_imp fun hlist hmem => hq ?_).symm
    obtain ⟨_, hslot'⟩ := (h.listed_iff q id).mp hlist
    exact (h.apart hslot' (hown ▸ hmem)).1

theorem closeTransport_rest :
    let s' := s.closeTransport p slot
    s'.roomExists = s.roomExists ∧ s'.routerProducers = s.routerProducers ∧
      (∀ id, s'.Named id ↔ s.Named id) ∧ s'.drawn = s.drawn := by
  unfold closeTransport
  dsimp only
  split <;> exact ⟨rfl, rfl, fun _ => Iff.rfl, rfl⟩

theorem Tidy.closeTransport (h : s.Tidy ids) (p : String) (slot : TransportSlot) :
    (s.closeTransport p slot).Tidy ids := by
  obtain ⟨hroom, hrout, -, hdrew⟩ := @closeTransport_rest s p slot
  have hown : ∀ q slot' id, id ∈ (s.closeTransport p slot).owned q slot' ↔
      id ∈ s.owned q slot' ∧ id ∉ s.owned p slot := by
    intro q slot' id
    rw [owned_closeTransport]
    split_ifs with heq
    · rw [heq.1, heq.2]
      simp
    · exact (and_iff_left_of_imp fun hid hmem => heq (h.apart hid hmem)).symm
  refine h.shrink (fun hgone => hroom ▸ hgone) (fun q slot' id hid => ((hown ..).mp hid).1)
    (fun q id => ?_) (fun q slot' id hid => ?_) (fun q slot' id hid => ?_) (fun id hid => ?_)
    hdrew.ge
  · rw [(h.closeTransport_spec p slot id).1]
    simp only [hown, h.listed_iff, exists_and_right]
  · obtain ⟨hmem, hnot⟩ := (hown ..).mp hid
    exact (h.closeTransport_spec p slot id).2.1.mpr ⟨h.isOpen hmem, hnot⟩
  · rw [hrout]
    exact h.routed ((hown ..).mp hid).1
  · rwa [(h.closeTransport_spec p slot id).2.2.2.1] at hid

theorem Tidy.alike_closeTransport (h : s.Tidy ids) (hnone : s.owned p slot = []) :
    s.Alike (s.closeTransport p slot) := by
  obtain ⟨hroom, hrout, hnm, hdrew⟩ := @closeTransport_rest s p slot
  have hspec := h.closeTransport_spec p slot
  simp only [hnone, List.not_mem_nil, not_false_eq_true, and_true, forall_const] at hspec
  refine ⟨hroom, fun q slot' => ?_, fun q id => (hspec id).1 q, fun id => (hspec id).2.2.2.2,
    fun id => by rw [hrout], hnm, hdrew.ge⟩
  rw [owned_closeTransport]
  split
  next heq =>
    rw [heq.1, heq.2, hnone]
  · rfl

theorem Tidy.leftOver_closeTransport (h : s.Tidy ids) (hid : id ∈ s.owned p slot) :
    (s.closeTransport p slot).LeftOver id := by
  refine ⟨?_, (h.closeTransport_spec p slot id).2.2.1 hid⟩
  rw [closeTransport_rest.2.1]
  exact h.routed hid

/-! ### A transport is replaced -/

theorem alike_setPeer {peer : MediaPeer} (hown : ∀ slot, peer.owned slot = s.owned p slot)
    (hlist : peer.producers = s.listed p) : s.Alike (s.setPeer p peer) := by
  refine { Alike.refl s with owned := fun q slot => ?_, listed := fun q id => ?_ }
  · rw [owned_setPeer]
    split
    next heq =>
      rw [heq, hown]
    · rfl
  · rw [listed_setPeer]
    split
    next heq =>
      rw [heq, hlist]
    · rfl

theorem Tidy.eraseClosedPeerEntries (h : s.Tidy ids) (p : String) :
    (s.eraseClosedPeerEntries p).1 = [] ∧ s.Alike (s.eraseClosedPeerEntries p).2 := by
  unfold RoomMedia.eraseClosedPeerEntries
  split
  · exact ⟨rfl, .refl s⟩
  rename_i peer hpeer
  have hopen : ∀ id ∈ peer.producers, s.heap.isClosed id = false := fun id hid =>
    isClosed_eq_false (h.isOpen_of_listed (p := p) (listed_of_some hpeer ▸ hid))
  have hsame : peer.producers.filter (!s.heap.isClosed ·) = peer.producers :=
    List.filter_eq_self.mpr fun id hid => by rw [hopen id hid]; rfl
  refine ⟨List.filter_eq_nil_iff.mpr fun id hid => by simp [hopen id hid], ?_⟩
  exact alike_setPeer (fun slot => (owned_of_some hpeer slot).symm)
    (hsame.trans (listed_of_some hpeer).symm)

theorem alike_removeProducers_nil (s : RoomMedia) : s.Alike (s.removeProducers []) := by
  refine { Alike.refl s with router := fun id => ?_, named := fun id => ?_ }
  · simp [removeProducers]
  · simp [Named, removeProducers, cleanupIndexedProducers, DemandMap.cleanup, DemandMap.lookup]

theorem alike_setTransport (hnone : s.owned p slot = []) {transport : Option Transport}
    (hemp : transport.elim [] (·.producers) = []) : s.Alike (s.setTransport p slot transport) := by
  unfold setTransport
  split
  · exact .refl s
  rename_i hpeer
  refine alike_setPeer (fun slot' => ?_) (listed_of_some hpeer).symm
  rw [MediaPeer.owned_setTransport, hemp]
  split
  next heq =>
    rw [heq, hnone]
  · exact (owned_of_some hpeer slot').symm

theorem Tidy.discardTransport (h : s.Tidy ids) (p : String) (slot : TransportSlot)
    (producing : Bool) : (s.closeTransport p slot).Alike (s.discardTransport p slot producing) := by
  unfold RoomMedia.discardTransport
  split
  · obtain ⟨hrem, halike⟩ := (h.closeTransport p slot).eraseClosedPeerEntries p
    dsimp only
    rw [hrem]
    have hcln : (s.closeTransport p slot).Alike
        (if producing then ((s.closeTransport p slot).eraseClosedPeerEntries p).2.removeProducers []
          else ((s.closeTransport p slot).eraseClosedPeerEntries p).2) := by
      split
      · exact halike.trans (alike_removeProducers_nil _)
      · exact halike
    refine hcln.trans (alike_setTransport ?_ rfl)
    rw [hcln.owned, owned_closeTransport, if_pos ⟨rfl, rfl⟩]
  next hnot =>
    have hnone : s.owned p slot = [] := by
      cases hpeer : s.peers.lookup p with
      | none => exact owned_of_none hpeer slot
      | some peer =>
        rw [owned_of_some hpeer, MediaPeer.owned]
        cases htrans : peer.transports slot with
        | none => rfl
        | some _ => simp [hasTransport, hpeer, htrans] at hnot
    exact (h.alike_closeTransport hnone).symm closeTransport_rest.2.2.2

theorem Tidy.replaceTransport (h : s.Tidy ids) (p : String) (slot : TransportSlot)
    (producing created : Bool) :
    (s.closeTransport p slot).Alike (s.replaceTransport ids p slot producing created).2 := by
  have hdisc := h.discardTransport p slot producing
  unfold RoomMedia.replaceTransport
  split
  · have hnone : (s.discardTransport p slot producing).owned p slot = [] := by
      rw [hdisc.owned, owned_closeTransport, if_pos ⟨rfl, rfl⟩]
    have hset := hdisc.trans (@alike_setTransport _ p slot hnone
      (some { id := ids.uuid (s.discardTransport p slot producing).drawn }) rfl)
    exact { hset with drawn := hdisc.drawn.trans (Nat.le_succ _) }
  · exact hdisc

/-! ### What keeps the tables as right as they are -/

structure Keeps (ids : UuidSource) (s s' : RoomMedia) : Prop where
  tidy : s'.Tidy ids
  roomExists : s'.roomExists = s.roomExists
  live : s.TablesLive → s'.TablesLive
  leftOver : ∀ id, s.LeftOver id → s'.LeftOver id

theorem Keeps.refl (h : s.Tidy ids) : Keeps ids s s := ⟨h, rfl, fun h => h, fun _ h => h⟩

theorem Keeps.trans (h : Keeps ids s s') (h' : Keeps ids s' s'') : Keeps ids s s'' where
  tidy := h'.tidy
  roomExists := h'.roomExists.trans h.roomExists
  live hlive := h'.live (h.live hlive)
  leftOver id hid := h'.leftOver id (h.leftOver id hid)

theorem Alike.keeps (halike : s.Alike s') (h : s.Tidy ids) : Keeps ids s s' where
  tidy := h.alike halike
  roomExists := halike.roomExists
  live := halike.tablesLive
  leftOver _ := halike.leftOver

theorem Tidy.fresh (h : s.Tidy ids) : s.heap.lookup (ids.uuid s.drawn) = none := by
  rw [← Option.not_isSome_iff_eq_none]
  intro hsome
  obtain ⟨_, hn, hdraw⟩ := h.drawn hsome
  exact absurd (ids.injective hdraw) hn.ne

structure Gains (s s' : RoomMedia) (p : String) (slot : TransportSlot) (id : String) : Prop where
  roomExists : s'.roomExists = s.roomExists
  owned : ∀ q slot' x, x ∈ s'.owned q slot' ↔ x ∈ s.owned q slot' ∨ (q = p ∧ slot' = slot) ∧ x = id
  listed : ∀ q x, x ∈ s'.listed q ↔ x ∈ s.listed q ∨ q = p ∧ x = id
  isOpen : s'.IsOpen id
  heap : ∀ x, x ≠ id → s'.heap.lookup x = s.heap.lookup x
  router : ∀ x, x ∈ s'.routerProducers ↔ x = id ∨ x ∈ s.routerProducers
  named : ∀ x, s'.Named x ↔ x = id ∨ s.Named x
  drawn : s'.drawn = s.drawn + 1

theorem addProducer_cases (kind : String) (accepted : Bool) :
    s.addProducer ids p slot kind accepted = (none, s) ∨
      ∃ s', s.addProducer ids p slot kind accepted = (some (ids.uuid s.drawn), s') ∧
        s.Gains s' p slot (ids.uuid s.drawn) := by
  unfold addProducer
  split
  · exact .inl rfl
  rename_i peer hpeer
  split
  · exact .inl rfl
  rename_i htrans
  split
  · split
    · refine .inr ⟨_, rfl, rfl, fun q slot' x => ?_, fun q x => ?_, ?_, fun x hx => ?_,
        fun x => List.mem_cons, fun x => ?_, rfl⟩
      · refine (iff_of_eq (congrArg (x ∈ ·) (owned_setPeer s _ q slot'))).trans ?_
        by_cases hq : q = p
        · rw [if_pos hq, hq, owned_of_some hpeer]
          refine (iff_of_eq (congrArg (x ∈ ·)
            (MediaPeer.owned_setTransport peer slot _ slot'))).trans ?_
          by_cases hslot : slot' = slot
          · rw [if_pos hslot, hslot, MediaPeer.owned, htrans]
            simp [or_comm]
          · rw [if_neg hslot]
            simp [hslot]
        · rw [if_neg hq]
          simp [hq]
      · refine (iff_of_eq (congrArg (x ∈ ·) (listed_setPeer s _ q))).trans ?_
        by_cases hq : q = p
        · rw [if_pos hq, hq, listed_of_some hpeer]
          simp [MediaPeer.setTransport, or_comm]
        · simp [hq]
      · simp [IsOpen, isOpen]
      · exact AList.lookup_insert_ne hx
      · simp [Named, setPeer, or_assoc]
    · exact .inl rfl
  · exact .inl rfl

theorem Gains.tidy (hgain : s.Gains s' p slot (ids.uuid s.drawn)) (h : s.Tidy ids)
    (hroom : s.roomExists) : s'.Tidy ids := by
  have hnew : ∀ q slot', ids.uuid s.drawn ∉ s.owned q slot' := fun q slot' hmem => by
    have hsome := isSome_of_isOpen (h.isOpen hmem)
    rw [h.fresh] at hsome
    exact Bool.noConfusion hsome
  refine ⟨fun q x => ?_, fun {q slot' q' slot'' x} hx hx' => ?_, fun {q slot' x} hx => ?_,
    fun {q slot' x} hx => ?_, fun {x} hx => ?_, fun hgone => ?_⟩
  · simp only [hgain.listed, hgain.owned, h.listed_iff, exists_or]
    exact or_congr_right ⟨fun hx => ⟨slot, ⟨hx.1, rfl⟩, hx.2⟩, fun ⟨_, hx⟩ => ⟨hx.1.1, hx.2⟩⟩
  · rw [hgain.owned] at hx hx'
    rcases hx with hx | ⟨⟨rfl, rfl⟩, rfl⟩
    · rcases hx' with hx' | ⟨-, rfl⟩
      · exact h.apart hx hx'
      · exact absurd hx (hnew _ _)
    · rcases hx' with hx' | ⟨⟨rfl, rfl⟩, -⟩
      · exact absurd hx' (hnew _ _)
      · exact ⟨rfl, rfl⟩
  · rw [hgain.owned] at hx
    rcases hx with hx | ⟨-, rfl⟩
    · have hne : x ≠ ids.uuid s.drawn := fun heq => hnew q slot' (heq ▸ hx)
      rw [IsOpen, ProducerHeap.isOpen, hgain.heap x hne]
      exact h.isOpen hx
    · exact hgain.isOpen
  · rw [hgain.owned] at hx
    rw [hgain.router]
    exact hx.elim (fun hx => .inr (h.routed hx)) fun hx => .inl hx.2
  · rw [hgain.drawn]
    by_cases hne : x = ids.uuid s.drawn
    · exact ⟨s.drawn, Nat.lt_succ_self _, hne.symm⟩
    rw [hgain.heap x hne] at hx
    obtain ⟨n, hn, hdraw⟩ := h.drawn hx
    exact ⟨n, Nat.lt_succ_of_lt hn, hdraw⟩
  · rw [hgain.roomExists, hroom] at hgone
    exact Bool.noConfusion hgone

theorem Gains.keeps (hgain : s.Gains s' p slot (ids.uuid s.drawn)) (h : s.Tidy ids)
    (hroom : s.roomExists) : Keeps ids s s' where
  tidy := hgain.tidy h hroom
  roomExists := hgain.roomExists
  live hlive := by
    refine (hgain.tidy h hroom).tablesLive fun x hnm => ?_
    rcases (hgain.named x).mp hnm with rfl | hnm
    · exact ⟨p, (hgain.listed p _).mpr (.inr ⟨rfl, rfl⟩)⟩
    · obtain ⟨q, hq⟩ := (hlive x hnm).2
      exact ⟨q, (hgain.listed q x).mpr (.inl hq)⟩
  leftOver x hleft := by
    have hne : x ≠ ids.uuid s.drawn := by
      rintro rfl
      have hsome := isSome_of_isClosed hleft.2
      rw [h.fresh] at hsome
      exact Bool.noConfusion hsome
    refine ⟨(hgain.router x).mpr (.inr hleft.1), ?_⟩
    rw [isClosed, hgain.heap x hne]
    exact hleft.2

theorem Tidy.addProducer (h : s.Tidy ids) (hroom : s.roomExists) (p : String)
    (slot : TransportSlot) (kind : String) (accepted : Bool) :
    Keeps ids s (s.addProducer ids p slot kind accepted).2 := by
  obtain hnone | ⟨_, hsome, hgain⟩ := @addProducer_cases ids s p slot kind accepted
  · rw [hnone]
    exact .refl h
  · rw [hsome]
    exact hgain.keeps h hroom

theorem Tidy.addProducers (p : String) (slot : TransportSlot) (accepted : ℕ → Bool)
    (kinds : List String) : ∀ {s : RoomMedia}, s.Tidy ids → s.roomExists →
      Keeps ids s (addProducers ids p slot accepted kinds s).2 := by
  induction kinds with
  | nil => exact fun h _ => .refl h
  | cons kind kinds ih =>
    intro s h hroom
    have hone := h.addProducer hroom p slot kind (accepted kinds.length)
    unfold RoomMedia.addProducers
    split
    next hadd =>
      rw [hadd] at hone
      exact hone
    next hadd =>
      rw [hadd] at hone
      exact hone.trans (ih hone.tidy (hone.roomExists.trans hroom))

theorem Tidy.indexPeerProducers (h : s.Tidy ids) (p : String) :
    Keeps ids s (s.indexPeerProducers p) := by
  unfold RoomMedia.indexPeerProducers
  split
  · exact .refl h
  rename_i peer hpeer
  have htidy : Tidy ids { s with
      producerOwnerPeerIds := peer.producers.foldl (fun owners id => owners.insert id p)
        s.producerOwnerPeerIds } :=
    ⟨h.listed_iff, h.apart, h.isOpen, h.routed, h.drawn, h.gone⟩
  refine ⟨htidy, rfl, fun hlive => htidy.tablesLive fun x hnm => ?_, fun _ hleft => hleft⟩
  have hent := Loop.foldl_iff_or_exists
    (fun owners : Dict String String => (owners.lookup x).isSome) (x = ·)
    (f := fun owners id => owners.insert id p) (fun owners id => by
      rw [Dict.lookup_insert_eq]
      split <;> simp_all) peer.producers s.producerOwnerPeerIds
  rcases hnm with hnm | hnm | hnm
  · exact (hlive x (.inl hnm)).2
  · rcases hent.mp hnm with hnm | ⟨id, hid, rfl⟩
    · exact (hlive x (.inr (.inl hnm))).2
    · exact ⟨p, listed_of_some hpeer ▸ hid⟩
  · exact (hlive x (.inr (.inr hnm))).2

/-! ### A peer goes -/

theorem closePeer_spec (s : RoomMedia) (p : String) :
    (s.closePeer p).roomExists = s.roomExists ∧ (s.closePeer p).drawn = s.drawn ∧
      (∀ q slot, (s.closePeer p).owned q slot = if q = p then [] else s.owned q slot) ∧
      (∀ q, (s.closePeer p).listed q = if q = p then [] else s.listed q) ∧
      (∀ x, x ∈ (s.closePeer p).routerProducers ↔ x ∈ s.routerProducers ∧ x ∉ s.listed p) ∧
      (∀ x, (s.closePeer p).Named x ↔ s.Named x ∧ x ∉ s.listed p) ∧
      ∀ x, ((s.closePeer p).heap.lookup x).isSome = (s.heap.lookup x).isSome ∧
        (x ∉ s.listed p → (∀ slot, x ∉ s.owned p slot) →
          (s.closePeer p).heap.lookup x = s.heap.lookup x) := by
  unfold closePeer
  split
  next hnone =>
    refine ⟨rfl, rfl, fun q slot => ?_, fun q => ?_, ?_⟩
    · split
      next heq =>
        rw [heq, owned_of_none hnone]
      · rfl
    · split
      next heq =>
        rw [heq, listed_of_none hnone]
      · rfl
    · simp [listed_of_none hnone]
  next peer hpeer =>
    rw [listed_of_some hpeer]
    simp only [owned_of_some hpeer]
    refine ⟨rfl, rfl, fun q slot => ?_, fun q => ?_, fun x => ?_, fun x => ?_,
      peer.lookup_close s.heap⟩
    · simp only [owned, removeProducers, Dict.lookup_erase_eq]
      split <;> rfl
    · simp only [listed, removeProducers, Dict.lookup_erase_eq]
      split <;> rfl
    · simp [removeProducers]
    by_cases hmem : x ∈ peer.producers <;>
      simp [Named, removeProducers, cleanupIndexedProducers, DemandMap.cleanup, DemandMap.lookup,
        hmem]

section

variable (h : s.Tidy ids)
include h

theorem Tidy.closePeer (p : String) : (s.closePeer p).Tidy ids := by
  obtain ⟨hroom, hdrew, hown, hlist, hrout, -, hheap⟩ := closePeer_spec s p
  -- a producer of another peer is not among those of the peer that goes
  have hoth : ∀ q slot x, q ≠ p → x ∈ s.owned q slot → ∀ slot', x ∉ s.owned p slot' :=
    fun q slot x hq hx slot' hx' => hq (h.apart hx hx').1
  have hkept : ∀ q slot x, x ∈ (s.closePeer p).owned q slot →
      x ∈ s.owned q slot ∧ x ∉ s.listed p ∧ ∀ slot', x ∉ s.owned p slot' := by
    intro q slot x hx
    rw [hown] at hx
    split at hx
    · cases hx
    rename_i hq
    have hnot := hoth q slot x hq hx
    exact ⟨hx, fun hmem => ((h.listed_iff p x).mp hmem).elim hnot, hnot⟩
  refine h.shrink (fun hgone => hroom ▸ hgone) (fun q slot x hx => (hkept q slot x hx).1)
    (fun q x => ?_) (fun q slot x hx => ?_) (fun q slot x hx => ?_) (fun x hx => ?_) hdrew.ge
  · simp only [hlist, hown]
    split
    · simp
    · exact h.listed_iff q x
  · obtain ⟨hmem, hnot, hnone⟩ := hkept q slot x hx
    rw [IsOpen, ProducerHeap.isOpen, (hheap x).2 hnot hnone]
    exact h.isOpen hmem
  · obtain ⟨hmem, hnot, -⟩ := hkept q slot x hx
    exact (hrout x).mpr ⟨h.routed hmem, hnot⟩
  · rwa [(hheap x).1] at hx

theorem Tidy.tablesLive_closePeer (hlive : s.TablesLive) (p : String) :
    (s.closePeer p).TablesLive := by
  obtain ⟨-, -, -, hlist, -, hnm, -⟩ := closePeer_spec s p
  refine (h.closePeer p).tablesLive fun x hx => ?_
  obtain ⟨hx, hnot⟩ := (hnm x).mp hx
  obtain ⟨q, hq⟩ := (hlive x hx).2
  refine ⟨q, ?_⟩
  rw [hlist, if_neg fun heq : q = p => hnot (heq ▸ hq)]
  exact hq

theorem Tidy.join (p : String) (rtpCapabilities : RtpCapabilities)
    (routerCreated : Bool) : (s.join p rtpCapabilities routerCreated).2.Tidy ids ∧
      (s.TablesLive → (s.join p rtpCapabilities routerCreated).2.TablesLive) := by
  unfold RoomMedia.join
  split
  · exact ⟨h, fun hlive => hlive⟩
  split
  · exact ⟨h, fun hlive => hlive⟩
  have hex : Tidy ids { s with roomExists := true } :=
    ⟨h.listed_iff, h.apart, h.isOpen, h.routed, h.drawn, fun hgone => Bool.noConfusion hgone⟩
  split
  · exact ⟨hex, fun hlive => hlive⟩
  obtain ⟨-, -, hown, hlist, -⟩ := closePeer_spec { s with roomExists := true } p
  -- the new peer has nothing yet, as the old one has not any more
  have hnew := @alike_setPeer (({ s with roomExists := true } : RoomMedia).closePeer p) p {}
    (fun slot => by rw [hown, if_pos rfl]; rfl) (by rw [hlist, if_pos rfl])
  have hkeep := hnew.keeps (hex.closePeer p)
  exact ⟨hkeep.tidy, fun hlive => hkeep.live (hex.tablesLive_closePeer hlive p)⟩

theorem Tidy.leave (p : String) :
    (s.leave p).Tidy ids ∧ (s.TablesLive → (s.leave p).TablesLive) := by
  unfold RoomMedia.leave
  split
  · have hcl := h.closePeer p
    dsimp only
    split
    next hemp =>
      have hnone : ∀ q, (s.closePeer p).peers.lookup q = none := fun q => by
        rw [AList.lookup, List.isEmpty_iff.mp hemp]
        rfl
      have hown : ∀ q slot, (s.closePeer p).owned q slot = [] := fun q slot =>
        owned_of_none (hnone q) slot
      have htidy : Tidy ids { s.closePeer p with roomExists := false, routerProducers := [] } :=
        ⟨hcl.listed_iff, hcl.apart, hcl.isOpen,
          fun {q slot x} hx => absurd (hown q slot ▸ hx) List.not_mem_nil, hcl.drawn,
          fun _ => hown⟩
      refine ⟨htidy, fun hlive => htidy.tablesLive fun x hx => ?_⟩
      -- with the last peer gone, nothing is listed, and so nothing was named
      have hnm : (s.closePeer p).Named x := hx.imp_left nofun
      obtain ⟨q, hq⟩ := (h.tablesLive_closePeer hlive p x hnm).2
      rw [listed_of_none (hnone q)] at hq
      cases hq
    · exact ⟨hcl, fun hlive => h.tablesLive_closePeer hlive p⟩
  · exact ⟨h, fun hlive => hlive⟩

theorem Tidy.plan (A : SubscriberBudgetAllocator) (nowMs : ℤ)
    (room : DownlinkRoom) : (s.plan A nowMs room).Tidy ids := by
  unfold RoomMedia.plan
  split
  · exact ⟨h.listed_iff, h.apart, h.isOpen, h.routed, h.drawn, h.gone⟩
  · exact h

theorem Tidy.tablesLive_plan (hlive : s.TablesLive) (A : SubscriberBudgetAllocator)
    (nowMs : ℤ) (room : DownlinkRoom) :
    (s.plan A nowMs room).TablesLive ↔ s.Calm (.plan A nowMs room) := by
  have htidy := h.plan A nowMs room
  unfold RoomMedia.plan at htidy ⊢
  split_ifs at htidy with hroom
  · rw [if_pos hroom]
    constructor
    · intro hlive' _ x hx
      exact (hlive' x (.inr (.inr ((isSome_lookup_runDownlinkPlanningForRoom A room _).2 hx)))).2
    intro hcalm
    refine htidy.tablesLive fun x hx => ?_
    rcases hx with hx | hx | hx
    · exact (hlive x (.inl hx)).2
    · exact (hlive x (.inr (.inl hx))).2
    rcases (isSome_lookup_runDownlinkPlanningForRoom A room _).1 hx with hx | hx
    · exact (hlive x (.inr (.inr hx))).2
    · exact hcalm hroom x hx
  · rw [if_neg hroom]
    exact iff_of_true hlive fun hex => absurd hex hroom

/-! ### One operation -/

theorem Tidy.withPeer {call : MediaPeer → MediaResult × RoomMedia}
    (hcall : ∀ peer, s.roomExists → Keeps ids (s.closeTransport p slot) (call peer).2) :
    Keeps ids (s.closeTransport p slot) (s.withPeer p call).2 := by
  have hsame (hnone : s.owned p slot = []) : Keeps ids (s.closeTransport p slot) s :=
    ((h.alike_closeTransport hnone).symm closeTransport_rest.2.2.2).keeps (h.closeTransport p slot)
  unfold RoomMedia.withPeer
  split_ifs with hroom
  · split
    next hnone =>
      exact hsame (owned_of_none hnone slot)
    · exact hcall _ hroom
  · exact hsame (h.gone (Bool.eq_false_of_not_eq_true hroom) p slot)

end

theorem answer_snd (made : Option String × RoomMedia) : (answer made).2 = made.2 := by
  obtain ⟨_ | _, _⟩ := made <;> rfl

section

variable (h : s.Tidy ids)
include h

theorem Tidy.keeps_replaceTransport (p : String) (slot : TransportSlot)
    (producing created : Bool) :
    Keeps ids (s.closeTransport p slot) (s.replaceTransport ids p slot producing created).2 :=
  (h.replaceTransport p slot producing created).keeps (h.closeTransport p slot)

variable (codecs : List RtpCodecCapability)

theorem Tidy.plainPublish (p : String)
    {req : PlainPublish} (hval : req.invalid? = none) (created : Bool) (accepted : ℕ → Bool) :
    Keeps ids (s.closeTransport p .plainSend)
      (s.plainPublish ids codecs p req created accepted).2 := by
  refine h.withPeer fun peer hroom => ?_
  have hkeep := h.keeps_replaceTransport p .plainSend true created
  have hroom' := hkeep.roomExists.trans (closeTransport_rest.1.trans hroom)
  rw [hval]
  dsimp only
  split
  next hrepl =>
    rw [hrepl] at hkeep
    exact hkeep
  rename_i hrepl
  rw [hrepl] at hkeep hroom'
  have hadd := Tidy.addProducers p .plainSend accepted req.kinds hkeep.tidy hroom'
  split
  · exact hkeep
  split
  next hmade =>
    rw [hmade] at hadd
    exact hkeep.trans hadd
  next hmade =>
    rw [hmade] at hadd
    exact (hkeep.trans hadd).trans (hadd.tidy.indexPeerProducers p)

theorem Tidy.keeps_of_closes {op : MediaOp}
    (hclos : op.closes = some (p, slot)) :
    Keeps ids (s.closeTransport p slot) (mediaStep ids codecs s op) := by
  cases op with
  | createTransport peerId producing consuming rtpCapabilities created =>
    simp only [closes, Option.ite_none_left_eq_some, Option.some.injEq, Prod.mk.injEq] at hclos
    obtain ⟨hone, hcaps, rfl, rfl⟩ := hclos
    rw [mediaStep, createTransport, if_neg hone]
    refine h.withPeer fun _ _ => ?_
    simp only [Bool.and_eq_true, Bool.or_eq_true, decide_eq_true_eq, not_and, not_or] at hcaps
    have hobj : ¬ (consuming && rtpCapabilities = .notAnObject) := by
      simpa using fun hcons => (hcaps hcons).1
    have hread : ¬ (consuming && rtpCapabilities = .malformed) := by
      simpa using fun hcons => (hcaps hcons).2
    rw [if_neg hobj, if_neg hread, answer_snd]
    exact h.keeps_replaceTransport ..
  | createPlainTransport peerId producing consuming created =>
    simp only [closes, Option.ite_none_left_eq_some, Option.some.injEq, Prod.mk.injEq] at hclos
    obtain ⟨hone, rfl, rfl⟩ := hclos
    rw [mediaStep, createPlainTransport, if_neg hone]
    refine h.withPeer fun _ _ => ?_
    rw [answer_snd]
    exact h.keeps_replaceTransport ..
  | plainSubscribe peerId created connected =>
    simp only [closes, Option.some.injEq, Prod.mk.injEq] at hclos
    obtain ⟨rfl, rfl⟩ := hclos
    refine h.withPeer fun _ _ => ?_
    have hkeep := h.keeps_replaceTransport peerId .plainRecv false created
    split
    next hrepl =>
      rw [hrepl] at hkeep
      exact hkeep
    next hrepl =>
      rw [hrepl] at hkeep
      split <;> exact hkeep
  | plainPublish peerId req created accepted =>
    simp only [closes, Option.ite_none_left_eq_some, Option.some.injEq, Prod.mk.injEq] at hclos
    obtain ⟨hval, rfl, rfl⟩ := hclos
    exact h.plainPublish codecs peerId (Option.not_isSome_iff_eq_none.mp hval) created accepted
  | closeTransport peerId slot' =>
    obtain ⟨rfl, rfl⟩ := hclos
    exact .refl (h.closeTransport _ _)
  | join | leave | produce | plan => cases hclos

theorem Tidy.produce (p transportId kind : String)
    (rtpParameters accepted : Bool) :
    Keeps ids s (s.produce ids p transportId kind rtpParameters accepted).2 := by
  unfold RoomMedia.produce
  split
  · exact .refl h
  split
  · exact .refl h
  unfold RoomMedia.withPeer
  split
  next hroom =>
    split
    · exact .refl h
    dsimp only
    split
    · exact .refl h
    rename_i slot _
    have hadd := h.addProducer hroom p slot kind accepted
    split
    next hmade =>
      rw [hmade] at hadd
      exact hadd
    next hmade =>
      rw [hmade] at hadd
      exact hadd.trans (hadd.tidy.indexPeerProducers p)
  · exact .refl h

theorem Tidy.step_of_closing {op : MediaOp}
    (hcalm : s.Calm op ↔ ∀ target ∈ op.closes, s.owned target.1 target.2 = [])
    (hnone : op.closes = none → mediaStep ids codecs s op = s) :
    (mediaStep ids codecs s op).Tidy ids ∧
      (s.TablesLive → ((mediaStep ids codecs s op).TablesLive ↔ s.Calm op)) := by
  rw [hcalm]
  cases hclos : op.closes with
  | none =>
    rw [hnone hclos]
    exact ⟨h, fun hlive => iff_of_true hlive fun target htarg => absurd htarg (by simp)⟩
  | some target =>
    have hkeep := h.keeps_of_closes codecs hclos
    refine ⟨hkeep.tidy, fun hlive => ?_⟩
    simp only [Option.mem_def, Option.some.injEq, forall_eq']
    constructor
    · intro hlive'
      refine List.eq_nil_iff_forall_not_mem.mpr fun id hid => ?_
      exact (hkeep.leftOver id (h.leftOver_closeTransport hid)).not_tablesLive hlive'
    · intro hunused
      exact hkeep.live ((h.alike_closeTransport hunused).tablesLive hlive)

end

theorem withPeer_same {call : MediaPeer → MediaResult × RoomMedia}
    (hcall : ∀ peer, (call peer).2 = s) : (s.withPeer p call).2 = s := by
  unfold withPeer
  split
  · split
    · rfl
    · exact hcall _
  · rfl

theorem Tidy.step (h : s.Tidy ids) (codecs : List RtpCodecCapability) (op : MediaOp) :
    (mediaStep ids codecs s op).Tidy ids ∧
      (s.TablesLive → ((mediaStep ids codecs s op).TablesLive ↔ s.Calm op)) := by
  cases op with
  | join peerId rtpCapabilities routerCreated =>
    have hjoin := h.join peerId rtpCapabilities routerCreated
    exact ⟨hjoin.1, fun hlive => iff_of_true (hjoin.2 hlive) nofun⟩
  | leave peerId =>
    have hleave := h.leave peerId
    exact ⟨hleave.1, fun hlive => iff_of_true (hleave.2 hlive) nofun⟩
  | produce peerId transportId kind rtpParameters accepted =>
    have hkeep := h.produce peerId transportId kind rtpParameters accepted
    exact ⟨hkeep.tidy, fun hlive => iff_of_true (hkeep.live hlive) nofun⟩
  | plan A nowMs room =>
    exact ⟨h.plan A nowMs room, fun hlive => h.tablesLive_plan hlive A nowMs room⟩
  | createTransport peerId producing consuming rtpCapabilities created =>
    refine h.step_of_closing codecs Iff.rfl fun hnone => ?_
    rw [mediaStep, createTransport]
    simp only [closes, ite_eq_left_iff, reduceCtorEq, imp_false, not_not] at hnone
    split
    · rfl
    rename_i hone
    refine withPeer_same fun _ => ?_
    have hcaps := hnone hone
    rw [Bool.and_eq_true, Bool.or_eq_true, decide_eq_true_eq, decide_eq_true_eq] at hcaps
    obtain ⟨hcons, hcaps | hcaps⟩ := hcaps <;> simp [hcons, hcaps]
  | createPlainTransport peerId producing consuming created =>
    refine h.step_of_closing codecs Iff.rfl fun hnone => ?_
    simp only [closes, ite_eq_left_iff, reduceCtorEq, imp_false, not_not] at hnone
    rw [mediaStep, createPlainTransport, if_pos hnone]
  | plainSubscribe | closeTransport =>
    exact h.step_of_closing codecs Iff.rfl nofun
  | plainPublish peerId req created accepted =>
    refine h.step_of_closing codecs Iff.rfl fun hnone => withPeer_same fun _ => ?_
    simp only [closes, ite_eq_left_iff, reduceCtorEq, imp_false, not_not] at hnone
    obtain ⟨_, herror⟩ := Option.isSome_iff_exists.mp hnone
    rw [herror]

end Tidy

/-! ### Runs of a room -/

theorem tidy_run {ids : UuidSource} (codecs : List RtpCodecCapability) {s : RoomMedia}
    (h : s.Tidy ids) (ops : List MediaOp) : (Runs.runFrom (mediaStep ids codecs) s ops).Tidy ids :=
  Runs.runFrom_inv (Tidy ids) (fun _ op h => (h.step codecs op).1) ops s h

theorem tidy_init (ids : UuidSource) : ({} : RoomMedia).Tidy ids where
  listed_iff _ id := by simp [listed, owned]
  apart hid := absurd hid (by simp [owned])
  isOpen hid := absurd hid (by simp [owned])
  routed hid := absurd hid (by simp [owned])
  drawn hid := absurd hid (by simp)
  gone _ p slot := rfl

theorem tablesLive_init : ({} : RoomMedia).TablesLive := by
  rintro _ (hid | hid | hid)
  · cases hid
  · exact Bool.noConfusion hid
  · exact Bool.noConfusion hid

end RoomMedia

/-- **The tables of a room.**  From a tidy state with right tables on, the router's table, the
owners' index and the demand name nothing but open producers that peers in the room list,
all along a run, exactly if no operation of the run closes a transport that has producers
under a peer that stays (and the planning passes are told of listed producers only). -/
theorem tablesLive_iff (ids : UuidSource) (codecs : List RoomMedia.RtpCodecCapability)
    (s : RoomMedia) (htidy : s.Tidy ids) (hlive : s.TablesLive) (ops : List MediaOp) :
    (∀ n, (Runs.runFrom (mediaStep ids codecs) s (ops.take n)).TablesLive) ↔
      Runs.StepsMeet (mediaStep ids codecs) RoomMedia.Calm s ops :=
  Runs.forall_take_iff_stepsMeet (RoomMedia.Tidy ids) (fun _ op h => (h.step codecs op).1)
    (fun _ op h hlive => (h.step codecs op).2 hlive) ops s htidy hlive

def unaryUuids : UuidSource where
  uuid n := String.ofList (List.replicate n 'x')
  injective m n h := by
    have hlist : List.replicate m 'x' = List.replicate n 'x' := String.ofList_injective h
    simpa using congrArg List.length hlist

def sendsAndLeaves : List MediaOp :=
  [.join "p" .absent true, .createTransport "p" true false .absent true,
    .produce "p" "" "video" true true, .leave "p"]

theorem tablesLive_sendsAndLeaves :
    ({} : RoomMedia).Tidy unaryUuids ∧ ({} : RoomMedia).TablesLive ∧
      ∀ n, (Runs.runFrom (mediaStep unaryUuids []) {} (sendsAndLeaves.take n)).TablesLive := by
  have htidy := tidy_init unaryUuids
  refine ⟨htidy, tablesLive_init,
    (tablesLive_iff unaryUuids [] {} htidy tablesLive_init sendsAndLeaves).mpr ?_⟩
  refine ⟨fun _ ht => ?_, fun target ht => ?_, fun _ ht => ?_, fun _ ht => ?_, trivial⟩
  · cases ht
  · -- the peer has no transport yet
    cases ht
    rfl
  · cases ht
  · cases ht

def sendsAndRestarts : List MediaOp :=
  [.join "p" .absent true, .createTransport "p" true false .absent true,
    .produce "p" "" "video" true true, .createTransport "p" true false .absent true]

/-- **A transport replaced in use leaves its producer in the tables.**  The producer is closed
and its peer does not list it, but the router and the owners' index still name it. -/
theorem table_names_closed_producer :
    let s := Runs.runFrom (mediaStep unaryUuids []) {} sendsAndRestarts
    "x" ∈ s.routerProducers ∧ s.producerOwnerPeerIds.lookup "x" = some "p" ∧
      s.heap.isClosed "x" = true ∧ s.listed "p" = [] ∧ ¬ s.TablesLive := by
  refine ⟨by decide, by decide, by decide, by decide, fun hlive => ?_⟩
  exact absurd (hlive "x" (.inl (by decide))).1 (by unfold RoomMedia.IsOpen; decide)

end MediasoupCpp
