import MediasoupCpp.Qos.Scheduler
import MediasoupCpp.Qos.SnapshotOrder
import MediasoupCpp.Room.Keys
import MediasoupCpp.Room.Media

/-!
# The room service and what it keeps

Beside the rooms and their peers the room service keeps about a dozen maps: the reports of the
peers, the controllers of the subscribers, the overrides it has sent, the last quality it told
somebody about, the recorders, and of the rooms the planning queue, the demand on their producers
and the index of the peers these belong to.  Some are keyed by a room, some by a room and a peer,
and some by a text that joins the two.

Source: `src/RoomService.h`, `src/RoomServiceLifecycle.cpp`, `src/RoomServiceQos.cpp`,
`src/RoomServiceDownlink.cpp`, `src/RoomServiceMedia.cpp`, `src/RoomCleanupHelpers.h`,
`src/RoomDownlinkHelpers.h`, `src/RoomRecordingHelpers.cpp`, `src/RoomStatsQosHelpers.h`,
`src/qos/QosAggregator.cpp`, `src/qos/QosRoomAggregator.cpp`, `src/qos/QosOverride.cpp`.
-/

namespace MediasoupCpp

open Dict AList Option

/-! ### Reports and what they add up to -/

inductive PeerQuality
  | excellent
  | good
  | poor
  | lost
  deriving DecidableEq

def PeerQuality.name : PeerQuality → String
  | excellent => "excellent"
  | good => "good"
  | poor => "poor"
  | lost => "lost"

/-- A report of a peer.  (The validator lets the four qualities through only.) -/
structure ClientReport extends ClientQosSnapshot where
  tsMs : ℤ := 0
  peerMode : String := "audio-video"
  peerQuality : PeerQuality
  rawTracks : Json := .arr []

structure ReportEntry where
  snapshot : ClientReport
  receivedAtMs : ℤ

def ReportEntry.toQosEntry (entry : ReportEntry) : QosEntry :=
  ⟨entry.snapshot.toClientQosSnapshot, entry.receivedAtMs⟩

def kQosLostAfterMs : ℤ := 15000

/-- What the last report of a peer says now.  The quality is unknown without a report. -/
structure PeerQosAggregate where
  hasSnapshot : Bool := false
  stale : Bool := false
  lost : Bool := false
  lastUpdatedMs : ℤ := 0
  receivedAtMs : ℤ := 0
  ageMs : ℤ := 0
  quality : Option PeerQuality := none
  data : Json := .null

def QosAggregator.aggregate (entry : Option ReportEntry) (nowMs : ℤ) : PeerQosAggregate :=
  match entry with
  | none => {}
  | some entry =>
    let ageMs := max 0 (nowMs - entry.receivedAtMs)
    let stale := decide (kQosStaleAfterMs < ageMs)
    let lost := decide (kQosLostAfterMs < ageMs)
    let quality := if lost then .lost else entry.snapshot.peerQuality
    { hasSnapshot := true
      stale := stale
      lost := lost
      lastUpdatedMs := entry.snapshot.tsMs
      receivedAtMs := entry.receivedAtMs
      ageMs := ageMs
      quality := some quality
      data := .obj [("mode", .str entry.snapshot.peerMode), ("quality", .str quality.name),
        ("stale", .bool stale), ("lost", .bool lost), ("seq", .int entry.snapshot.seq),
        ("tsMs", .int entry.snapshot.tsMs), ("receivedAtMs", .int entry.receivedAtMs),
        ("ageMs", .int ageMs), ("tracks", entry.snapshot.rawTracks)] }

def qualityRank : Option PeerQuality → ℤ
  | some .lost => 0
  | some .poor => 1
  | some .good => 2
  | some .excellent => 3
  | none => -1

def minQuality (lhs rhs : Option PeerQuality) : Option PeerQuality :=
  if qualityRank lhs ≤ qualityRank rhs then lhs else rhs

structure RoomQosAggregate where
  hasQos : Bool := false
  peerCount : ℕ := 0
  stalePeers : ℕ := 0
  poorPeers : ℕ := 0
  lostPeers : ℕ := 0
  quality : Option PeerQuality := none
  data : Json := .null

def QosRoomAggregator.aggregate (peers : List PeerQosAggregate) : RoomQosAggregate :=
  let known := peers.filter (·.hasSnapshot)
  if known.isEmpty then { peerCount := peers.length }
  else
    let stalePeers := known.countP (·.stale)
    let poorPeers := known.countP (·.quality = some .poor)
    let lostPeers := known.countP fun peer => peer.quality = some .lost || peer.lost
    let quality :=
      if 0 < lostPeers then some .lost
      else known.foldl (fun quality peer => minQuality quality peer.quality) (some .excellent)
    { hasQos := true
      peerCount := peers.length
      stalePeers := stalePeers
      poorPeers := poorPeers
      lostPeers := lostPeers
      quality := quality
      data := .obj [("peerCount", .int peers.length), ("stalePeers", .int stalePeers),
        ("poorPeers", .int poorPeers), ("lostPeers", .int lostPeers),
        ("quality", .str (quality.elim "unknown" PeerQuality.name)),
        ("peers", .arr (known.map (·.data)))] }

variable (aggregate : PeerQosAggregate)

def buildConnectionQualityPayload : Json :=
  .obj [("quality", .str (aggregate.quality.elim "unknown" PeerQuality.name)),
    ("stale", .bool aggregate.stale), ("lost", .bool aggregate.lost),
    ("lastUpdatedMs", .int aggregate.lastUpdatedMs)]

def isPeerAlreadyDegraded : Bool :=
  aggregate.quality = some .poor || aggregate.quality = some .lost || aggregate.lost

/-! ### Overrides the server sends on its own -/

def makeOverride (reason : String) (ttlMs : ℕ) (maxLevelClamp : Option ℕ)
    (forceAudioOnly disableRecovery : Option Bool) : QosOverride where
  scope := .peer
  maxLevelClamp := maxLevelClamp
  forceAudioOnly := forceAudioOnly
  disableRecovery := disableRecovery
  ttlMs := ttlMs
  reason := reason
  raw := .obj ([("schema", .str kOverrideSchema), ("scope", .str "peer"), ("trackId", .null),
      ("ttlMs", .int ttlMs), ("reason", .str reason)] ++
    (maxLevelClamp.map fun level => ("maxLevelClamp", Json.int level)).toList ++
    (forceAudioOnly.map fun b => ("forceAudioOnly", Json.bool b)).toList ++
    (disableRecovery.map fun b => ("disableRecovery", Json.bool b)).toList)

def buildPeerOverrideClearPayload (reason : String) : Json :=
  .obj [("schema", .str kOverrideSchema), ("scope", .str "peer"), ("trackId", .null),
    ("ttlMs", .int 0), ("reason", .str reason)]

def buildForAggregate : Option QosOverride :=
  if !aggregate.hasSnapshot then none
  else if aggregate.lost || aggregate.quality = some .lost then
    some (makeOverride "server_auto_lost" 15000 none (some true) (some true))
  else if aggregate.quality = some .poor then
    some (makeOverride "server_auto_poor" 10000 (some 2) none (some true))
  else none

def buildForRoomAggregate (aggregate : RoomQosAggregate) : Option QosOverride :=
  if !aggregate.hasQos then none
  else if 0 < aggregate.lostPeers || 2 ≤ aggregate.poorPeers then
    some (makeOverride "server_room_pressure" 8000 (some 1) none (some true))
  else none

structure AutoQosOverrideRecord where
  /-- The source compares the texts of the objects. -/
  signature : Json
  sentAtMs : ℤ
  ttlMs : ℕ

def AutoQosOverrideRecord.expired (record : AutoQosOverrideRecord) (nowMs : ℤ) : Bool :=
  record.ttlMs ≠ 0 && record.sentAtMs + record.ttlMs ≤ nowMs

/-! ### Entries by room and peer -/

section Entries

variable {ε : Type}

def putEntry (rooms : RoomEntries ε) (roomId peerId : String) (entry : ε) : RoomEntries ε :=
  rooms.insert roomId (((rooms.lookup roomId).getD ∅).insert peerId entry)

def eraseEntry (rooms : RoomEntries ε) (roomId peerId : String) : RoomEntries ε :=
  match rooms.lookup roomId with
  | none => rooms
  | some peers =>
    if (peers.erase peerId).entries.isEmpty then rooms.erase roomId
    else rooms.insert roomId (peers.erase peerId)

variable {rooms : RoomEntries ε} {roomId peerId : String}

theorem getEntry_putEntry (entry : ε) (r p : String) :
    getEntry (putEntry rooms roomId peerId entry) r p =
      if r = roomId ∧ p = peerId then some entry else getEntry rooms r p := by
  rw [getEntry, putEntry, lookup_insert_eq]
  by_cases hr : r = roomId
  · subst hr
    rw [if_pos rfl, bind_some, lookup_insert_eq, getEntry]
    simp only [true_and]
    cases rooms.lookup r with
    | none => rfl
    | some peers => rfl
  · rw [if_neg hr, if_neg fun h => hr h.1, getEntry]

theorem mem_putEntry {entry : ε} {r : String} :
    r ∈ putEntry rooms roomId peerId entry ↔ r = roomId ∨ r ∈ rooms :=
  mem_insert ..

theorem putEntry_touchRoom (entry : ε) :
    putEntry (touchRoom rooms roomId) roomId peerId entry = putEntry rooms roomId peerId entry := by
  unfold putEntry touchRoom
  by_cases hroom : roomId ∈ rooms
  · rw [if_pos hroom]
  · rw [if_neg hroom, lookup_insert, lookup_eq_none.mpr hroom, insert_insert]
    rfl

theorem mem_of_getEntry {r p : String} (h : (getEntry rooms r p).isSome) : r ∈ rooms := by
  obtain ⟨_, hent⟩ := isSome_iff_exists.mp h
  obtain ⟨peers, hprs, -⟩ := bind_eq_some_iff.mp hent
  exact lookup_isSome.mp (isSome_iff_exists.mpr ⟨peers, hprs⟩)

theorem getEntry_of_lookup {r : String} {peers : Dict String ε} (h : rooms.lookup r = some peers)
    (p : String) : getEntry rooms r p = peers.lookup p := by
  rw [getEntry, h, bind_some]

theorem lookup_of_isEmpty {υ : Type} {d : Dict String υ} (h : d.entries.isEmpty)
    (k : String) : d.lookup k = none := by
  obtain ⟨entries, _⟩ := d
  obtain rfl := List.isEmpty_iff.mp h
  rfl

theorem exists_lookup_of_isEmpty {υ : Type} {d : Dict String υ} (h : d.entries.isEmpty = false) :
    ∃ k, (d.lookup k).isSome := by
  obtain ⟨entries, _⟩ := d
  cases entries with
  | nil => cases h
  | cons entry entries =>
    exact ⟨entry.1, lookup_isSome.mpr (mem_keys.mpr List.mem_cons_self)⟩

theorem getEntry_eraseEntry (r p : String) : getEntry (eraseEntry rooms roomId peerId) r p =
      if r = roomId ∧ p = peerId then none else getEntry rooms r p := by
  unfold eraseEntry
  cases hroom : rooms.lookup roomId with
  | none =>
    dsimp only
    split
    next h =>
      rw [h.1, getEntry, hroom, bind_none]
    · rfl
  | some peers =>
    dsimp only
    have hpeer : ∀ p, (peers.erase peerId).lookup p =
        if p = peerId then none else peers.lookup p := lookup_erase_eq peers peerId
    by_cases hr : r = roomId
    · subst hr
      have hgoal : (if r = r ∧ p = peerId then none else getEntry rooms r p) =
          (peers.erase peerId).lookup p := by
        rw [hpeer, getEntry_of_lookup hroom]
        simp only [true_and]
      rw [hgoal]
      split
      next hemp =>
        rw [lookup_of_isEmpty hemp, getEntry, lookup_erase_eq, if_pos rfl, bind_none]
      · rw [getEntry, lookup_insert_eq, if_pos rfl, bind_some]
    · have hoth : ¬(r = roomId ∧ p = peerId) := fun h => hr h.1
      split
      · rw [getEntry, lookup_erase_eq, if_neg hr, getEntry]
      · rw [getEntry, lookup_insert_eq, if_neg hr, getEntry]

end Entries

/-! ### What is kept of peers -/

/-- What is kept of peers.  (Of a recorder only whether its pointer is set, of its transport the
producers recorded through it, and of a subscriber's controller its monitor.) -/
structure PeerStores where
  recorders : Dict String Bool := ∅
  recorderTransports : Dict String (List String) := ∅
  qosRegistry : RoomEntries ReportEntry := ∅
  downlinkQosRegistry : RoomEntries DownlinkEntry := ∅
  subscriberControllers : Dict String DownlinkHealthMonitor := ∅
  autoQosOverrideRecords : Dict String AutoQosOverrideRecord := ∅
  lastConnectionQualitySignatures : Dict String Json := ∅
  trackQosOverrideRecords : OverrideRecords := ∅

theorem zero_le_kMaxDegradeLevel : 0 ≤ kMaxDegradeLevel := Nat.zero_le _

namespace PeerStores

variable (s : PeerStores)

def monitor (key : String) : DownlinkHealthMonitor :=
  (s.subscriberControllers.lookup key).getD { degradeLevel_le := zero_le_kMaxDegradeLevel }

def removePeerRecorder (key : String) : PeerStores :=
  { s with
    recorders := s.recorders.erase key
    recorderTransports := s.recorderTransports.erase key }

def cleanupRoomRecorders (roomId : String) : PeerStores :=
  { s with
    recorders := eraseKeysByPrefix s.recorders (roomKeyPrefix roomId)
    recorderTransports := s.recorderTransports.filter fun key _ =>
      !((roomKeyPrefix roomId).toList.isPrefixOf key.toList && (s.recorders.lookup key).isSome) }

def cleanupPeerTrackOverrideRecords (roomId peerId : String) : PeerStores :=
  { s with
    trackQosOverrideRecords := s.trackQosOverrideRecords.filter fun key _ =>
      !(key.roomId = roomId && key.peerId = peerId) }

def erasePeer (roomId peerId : String) : PeerStores :=
  let key := makePeerKey roomId peerId
  let s := s.removePeerRecorder key
  let s := { s with
    qosRegistry := eraseEntry s.qosRegistry roomId peerId
    autoQosOverrideRecords :=
      clearPeerAutomaticOverrideRecords s.autoQosOverrideRecords roomId peerId
    lastConnectionQualitySignatures := s.lastConnectionQualitySignatures.erase key
    downlinkQosRegistry := eraseEntry s.downlinkQosRegistry roomId peerId
    subscriberControllers := s.subscriberControllers.erase key }
  s.cleanupPeerTrackOverrideRecords roomId peerId

def eraseRoom (roomId : String) : PeerStores :=
  let s := s.cleanupRoomRecorders roomId
  { s with
    qosRegistry := s.qosRegistry.erase roomId
    downlinkQosRegistry := s.downlinkQosRegistry.erase roomId
    subscriberControllers := eraseKeysByPrefix s.subscriberControllers (roomKeyPrefix roomId)
    autoQosOverrideRecords := eraseKeysByPrefix s.autoQosOverrideRecords (roomKeyPrefix roomId)
    lastConnectionQualitySignatures :=
      eraseKeysByPrefix s.lastConnectionQualitySignatures (roomKeyPrefix roomId)
    trackQosOverrideRecords := s.trackQosOverrideRecords.filter fun key _ => key.roomId ≠ roomId }

end PeerStores

/-! ### The service -/

/-- A peer of a room: its open producers and consumers, the latter with what they consume. -/
structure ServicePeer where
  sessionId : ℕ := 0
  producers : List String := []
  consumers : Dict String String := ∅

inductive QosNotification
  | qosOverride (data : Json)
  | qosConnectionQuality (data : Json)
  | qosRoomState (data : Json)

/-- A notification, with the room and the peer it is for; without a peer it is for all. -/
structure SentNotification where
  roomId : String
  peerId : Option String
  notification : QosNotification

structure RoomService extends PeerStores where
  /-- The rooms of the room manager and their peers. -/
  rooms : RoomEntries ServicePeer := ∅
  lastRoomQosStateSignatures : Dict String Json := ∅
  lastOverrideCleanupMs : ℤ := 0
  planner : Scheduler := {}
  producerDemandCache : Dict String DemandMap := ∅
  producerOwnerPeerIds : RoomEntries String := ∅
  /-- What was sent about the quality of service, the oldest first. -/
  sent : List SentNotification := []

structure ServiceConfig where
  notify : Bool := true
  broadcast : Bool := true
  recordDir : String := ""
  downlinkPlanningIntervalMs : ℕ := 100
  allocator : SubscriberBudgetAllocator

inductive StatsReply
  | error (message : String)
  | rejected (reason : String)
  | stored
  deriving DecidableEq

namespace RoomService

variable (cfg : ServiceConfig) (s : RoomService)

def hasRoom (roomId : String) : Bool := (s.rooms.lookup roomId).isSome

def markDownlinkRoomDirty (roomId : String) : RoomService :=
  { s with planner := s.planner.markDownlinkRoomDirty roomId }

variable (roomId peerId : String)

def notify (notification : QosNotification) : RoomService :=
  if cfg.notify then { s with sent := s.sent ++ [⟨roomId, some peerId, notification⟩] } else s

/-! ### Producers -/

def cleanupCache {τ : Type} (clean : τ → τ) (isEmpty : τ → Bool) (roomId : String)
    (cache : Dict String τ) : Dict String τ :=
  match cache.lookup roomId with
  | none => cache
  | some producers =>
    if isEmpty (clean producers) then cache.erase roomId else cache.insert roomId (clean producers)

def cleanupPeerProducerOwnerCache (roomId : String) (producers : List String) : RoomService :=
  { s with
    producerOwnerPeerIds :=
      cleanupCache (cleanupIndexedProducers producers) (·.entries.isEmpty) roomId
        s.producerOwnerPeerIds }

def cleanupPeerProducerDemandCache (roomId : String) (producers : List String) : RoomService :=
  { s with
    producerDemandCache :=
      cleanupCache (DemandMap.cleanup producers) (·.states.entries.isEmpty) roomId
        s.producerDemandCache }

def indexPeerProducers (producers : List String) : RoomService :=
  { s with
    producerOwnerPeerIds := s.producerOwnerPeerIds.insert roomId
      (producers.foldl (fun owners producerId => owners.insert producerId peerId)
        ((s.producerOwnerPeerIds.lookup roomId).getD ∅)) }

/-! ### The life of a room -/

/-- What the registry answers to the claim of a room; without a registry it is granted. -/
inductive ClaimResult
  | granted
  | elsewhere (address : String)
  | unavailable
  deriving DecidableEq

/-- A join.  Its names have passed the checks of the signaling thread. -/
structure JoinCall where
  roomId : JoinId
  peerId : JoinId
  claim : ClaimResult := .granted
  /-- The room capacity of the workers; `0` is no limit. -/
  maxTotalRouters : ℕ := 0
  /-- Another node for a room this one has no capacity for. -/
  resolved : Option String := none
  rtpCapabilities : RtpCapabilities := .wellFormed
  /-- A worker provides a router, if one is needed. -/
  routerCreated : Bool := true
  newSessionId : ℕ := 0

/-- What is kept of a peer is erased, and its producers are struck off the tables of the room if it
is there.  (A join does the latter first.) -/
def forgetPeer (peer : Option ServicePeer) : RoomService :=
  let s := { s with toPeerStores := s.toPeerStores.erasePeer roomId peerId }
  match peer with
  | none => s
  | some peer =>
    (s.cleanupPeerProducerOwnerCache roomId peer.producers).cleanupPeerProducerDemandCache roomId
      peer.producers

def enterRoom (newSessionId : ℕ) : RoomService :=
  let oldPeer := getEntry s.rooms roomId peerId
  let s := { s with rooms := putEntry s.rooms roomId peerId { sessionId := newSessionId } }
  match oldPeer with
  | none => s
  | some oldPeer => (s.forgetPeer roomId peerId (some oldPeer)).markDownlinkRoomDirty roomId

def join (call : JoinCall) : JoinResult × RoomService :=
  match call.claim with
  | .elsewhere address => (.redirect address, s)
  | .unavailable => (.rejected "room registry unavailable", s)
  | .granted =>
    if !s.hasRoom call.roomId && 0 < call.maxTotalRouters &&
        call.maxTotalRouters ≤ s.rooms.entries.length then
      match call.resolved with
      | some address => (.redirect address, s)
      | none => (.rejected "no available capacity", s)
    else if call.rtpCapabilities = .notAnObject then (.rejected "invalid rtpCapabilities", s)
    else if !s.hasRoom call.roomId && !call.routerCreated then (.threw, s)
    else
      let s := { s with rooms := touchRoom s.rooms call.roomId }
      -- the room stays, without a peer, if the capabilities cannot be read
      if call.rtpCapabilities = .malformed then (.threw, s)
      else (.joined, s.enterRoom call.roomId call.peerId call.newSessionId)

/-- A peer leaves.  The last one takes the room with it, but `cleanupRoomResources` is not called
then. -/
def leave : RoomService :=
  match s.rooms.lookup roomId with
  | none => s
  | some peers =>
    let s := s.forgetPeer roomId peerId (peers.lookup peerId)
    if (peers.erase peerId).entries.isEmpty then { s with rooms := s.rooms.erase roomId }
    else { s with rooms := s.rooms.insert roomId (peers.erase peerId) }.markDownlinkRoomDirty roomId

def sessionMatches (expectedSessionId : ℕ) : Bool :=
  expectedSessionId ≠ 0 &&
    (getEntry s.rooms roomId peerId).any fun peer => peer.sessionId = expectedSessionId

def leaveIfSessionMatches (expectedSessionId : ℕ) : RoomService :=
  if s.sessionMatches roomId peerId expectedSessionId then s.leave roomId peerId else s

def cleanupRoomResources (roomId : String) : RoomService :=
  { s with
    toPeerStores := s.toPeerStores.eraseRoom roomId
    lastRoomQosStateSignatures := s.lastRoomQosStateSignatures.erase roomId
    planner := s.planner.cleanup roomId
    producerDemandCache := s.producerDemandCache.erase roomId
    producerOwnerPeerIds := s.producerOwnerPeerIds.erase roomId }

def destroyRoom (roomId : String) : RoomService :=
  let s := s.cleanupRoomResources roomId
  { s with rooms := s.rooms.erase roomId }

def destroyRooms (roomIds : List String) : RoomService := roomIds.foldl destroyRoom s

def checkRoomHealth (deadRooms : List String) : RoomService :=
  s.destroyRooms (s.rooms.keys.filter (· ∈ deadRooms))

def cleanIdleRooms (idleRooms : List String) : RoomService :=
  s.destroyRooms (s.rooms.keys.filter fun roomId =>
    roomId ∈ idleRooms && (s.rooms.lookup roomId).any (·.entries.isEmpty))

def closeAllRooms : RoomService := s.destroyRooms s.rooms.keys

/-! ### Reports of the peers -/

def maybeNotifyConnectionQuality (aggregate : PeerQosAggregate) :
    RoomService :=
  if !cfg.notify || !aggregate.hasSnapshot then s
  else
    let key := makePeerKey roomId peerId
    let signature := buildConnectionQualityPayload aggregate
    if s.lastConnectionQualitySignatures.lookup key = some signature then s
    else
      let s := s.notify cfg roomId peerId (.qosConnectionQuality signature)
      { s with
        lastConnectionQualitySignatures := s.lastConnectionQualitySignatures.insert key signature }

def clearAutomaticQosOverride (roomId peerId key reason : String) : RoomService :=
  match s.autoQosOverrideRecords.lookup key with
  | none => s
  | some _ =>
    let s := s.notify cfg roomId peerId (.qosOverride (buildPeerOverrideClearPayload reason))
    { s with autoQosOverrideRecords := s.autoQosOverrideRecords.erase key }

def sendAutomaticQosOverride (roomId peerId key : String) (overrideData : QosOverride)
    (nowMs : ℤ) : RoomService :=
  let s := s.notify cfg roomId peerId (.qosOverride overrideData.raw)
  { s with
    autoQosOverrideRecords := s.autoQosOverrideRecords.insert key
      ⟨overrideData.raw, nowMs, overrideData.ttlMs⟩ }

def maybeSendAutomaticQosOverride (aggregate : PeerQosAggregate)
    (nowMs : ℤ) : RoomService :=
  let key := makePeerKey roomId peerId
  match buildForAggregate aggregate with
  | none => s.clearAutomaticQosOverride cfg roomId peerId key "server_auto_clear"
  | some automatic =>
    let recent := (s.autoQosOverrideRecords.lookup key).any fun record =>
      record.signature = automatic.raw &&
        nowMs - record.sentAtMs < max 1000 ((record.ttlMs : ℤ) / 2)
    if recent then s else s.sendAutomaticQosOverride cfg roomId peerId key automatic nowMs

def maybeSendRoomPressureOverride (roomId : String) (roomAutomatic : Option QosOverride)
    (nowMs : ℤ) (s : RoomService) (peerId : String) : RoomService :=
  let key := makeRoomPressureKey roomId peerId
  match roomAutomatic with
  | none => s.clearAutomaticQosOverride cfg roomId peerId key "server_room_pressure_clear"
  | some automatic =>
    let peerAlreadyDegraded := (getEntry s.qosRegistry roomId peerId).any fun entry =>
      isPeerAlreadyDegraded (QosAggregator.aggregate (some entry) nowMs)
    if peerAlreadyDegraded then
      s.clearAutomaticQosOverride cfg roomId peerId key "server_room_pressure_clear"
    else if (s.autoQosOverrideRecords.lookup key).any (·.signature = automatic.raw) then s
    else s.sendAutomaticQosOverride cfg roomId peerId key automatic nowMs

def maybeSendRoomPressureOverrides (roomId : String) (aggregate : RoomQosAggregate) (nowMs : ℤ) :
    RoomService :=
  match s.rooms.lookup roomId with
  | none => s
  | some peers =>
    if cfg.notify then
      peers.keys.foldl
        (maybeSendRoomPressureOverride cfg roomId (buildForRoomAggregate aggregate) nowMs) s
    else s

def maybeBroadcastRoomQosState (roomId : String) (nowMs : ℤ) : RoomService :=
  if !cfg.broadcast then s
  else
    match s.rooms.lookup roomId with
    | none => s
    | some peers =>
      let aggregate := QosRoomAggregator.aggregate (peers.keys.filterMap fun peerId =>
        (getEntry s.qosRegistry roomId peerId).map fun entry =>
          QosAggregator.aggregate (some entry) nowMs)
      if !aggregate.hasQos then
        { s with lastRoomQosStateSignatures := s.lastRoomQosStateSignatures.erase roomId }
      else
        let s :=
          if s.lastRoomQosStateSignatures.lookup roomId = some aggregate.data then s
          else
            { s with
              sent := s.sent ++ [⟨roomId, none, .qosRoomState aggregate.data⟩]
              lastRoomQosStateSignatures :=
                s.lastRoomQosStateSignatures.insert roomId aggregate.data }
        s.maybeSendRoomPressureOverrides cfg roomId aggregate nowMs

variable (nowMs : ℤ)

def cleanupExpiredQosOverrides : RoomService :=
  if nowMs - s.lastOverrideCleanupMs < 1000 then s
  else
    let expired := s.autoQosOverrideRecords.toPairs.filter fun (_, record) =>
      record.expired nowMs
    let cleared := expired.filterMap fun (key, _) =>
      (parseRoomPeerKey key).map fun (roomId, peerId) =>
        ⟨roomId, some peerId, .qosOverride (buildPeerOverrideClearPayload "server_ttl_expired")⟩
    { s with
      lastOverrideCleanupMs := nowMs
      sent := if cfg.notify then s.sent ++ cleared else s.sent
      autoQosOverrideRecords := s.autoQosOverrideRecords.filter fun _ record =>
        !record.expired nowMs }

def clientStatsStored : RoomService :=
  let aggregate := QosAggregator.aggregate (getEntry s.qosRegistry roomId peerId) nowMs
  let s := s.maybeNotifyConnectionQuality cfg roomId peerId aggregate
  let s := s.maybeSendAutomaticQosOverride cfg roomId peerId aggregate nowMs
  let s := s.maybeBroadcastRoomQosState cfg roomId nowMs
  s.cleanupExpiredQosOverrides cfg nowMs

def setClientStats (stats : ClientReport) (nowMs : ℤ) :
    StatsReply × RoomService :=
  match s.rooms.lookup roomId with
  | none => (.error "room missing during clientStats", s)
  | some peers =>
    match peers.lookup peerId with
    | none => (.error "peer missing during clientStats", s)
    | some _ =>
      match upsertEntry
          (fun prev next => QosRegistry.rejectReason prev.toQosEntry next.toQosEntry)
          s.qosRegistry roomId peerId ⟨stats, nowMs⟩ with
      | (registry, some reason) => (.rejected reason, { s with qosRegistry := registry })
      | (registry, none) =>
        (.stored, { s with qosRegistry := registry }.clientStatsStored cfg roomId peerId nowMs)

def setDownlinkClientStats (stats : DownlinkSnapshot) (nowMs : ℤ) :
    StatsReply × RoomService :=
  match s.rooms.lookup roomId with
  | none => (.error "room missing during downlinkClientStats", s)
  | some peers =>
    match peers.lookup peerId with
    | none => (.error "peer missing during downlinkClientStats", s)
    | some peer =>
      if stats.subscriberPeerId ≠ peerId then (.error "downlink subscriberPeerId mismatch", s)
      else
        match DownlinkQosRegistry.upsertInPlace s.downlinkQosRegistry roomId peerId
            ⟨filterConsistentDownlinkSubscriptions peer.consumers stats, nowMs⟩ with
        | (registry, some reason) => (.rejected reason, { s with downlinkQosRegistry := registry })
        | (registry, none) =>
          (.stored, { s with downlinkQosRegistry := registry }.markDownlinkRoomDirty roomId)

def setQosOverride (roomId callerPeerId targetPeerId : String) (overrideData : Json) :
    Except String RoomService :=
  if callerPeerId ≠ targetPeerId then
    .error "permission denied: can only set QoS override for self"
  else if !s.hasRoom roomId then .error "room not found"
  else if (getEntry s.rooms roomId targetPeerId).isNone then .error "peer not found"
  else
    match QosValidator.parseOverride overrideData with
    | .error error => .error ("invalid qosOverride: " ++ error)
    | .ok parsed => .ok (s.notify cfg roomId targetPeerId (.qosOverride parsed.raw))

/-! ### Media -/

inductive RecorderStart
  /-- There is no socket, or it cannot be started: the pointer is reset. -/
  | failed
  /-- The transport cannot be made: an exception. -/
  | noTransport
  /-- The transport cannot be connected: an exception. -/
  | notConnected
  | ready
  deriving DecidableEq

def recordProducer (key producerId : String) (consumed : Bool) : RoomService :=
  match s.recorderTransports.lookup key with
  | none => s
  | some producers =>
    if consumed then
      { s with recorderTransports := s.recorderTransports.insert key (producers ++ [producerId]) }
    else s

def autoRecord (roomId peerId producerId : String) (start : RecorderStart) (consumed : Bool) :
    RoomService :=
  if cfg.recordDir = "" then s
  else
    let key := makePeerKey roomId peerId
    if (s.recorders.lookup key).getD false then s.recordProducer key producerId consumed
    else
      match start with
      | .failed => { s with recorders := s.recorders.insert key false }
      | .noTransport => { s with recorders := s.recorders.insert key true }
      | .notConnected =>
        { s with
          recorders := s.recorders.insert key true
          recorderTransports := s.recorderTransports.insert key [] }
      | .ready =>
        { s with
          recorders := s.recorders.insert key true
          recorderTransports := s.recorderTransports.insert key [] }.recordProducer key producerId
            consumed

def withPeer (call : ServicePeer → RoomService) : RoomService :=
  match getEntry s.rooms roomId peerId with
  | none => s
  | some peer => call peer

def setPeer (peer : ServicePeer) : RoomService :=
  { s with rooms := putEntry s.rooms roomId peerId peer }

def closeEntries (producers consumers : List String) : RoomService :=
  s.withPeer roomId peerId fun peer =>
    s.setPeer roomId peerId
      { peer with
        producers := peer.producers.filter (· ∉ producers)
        consumers := peer.consumers.filter fun consumerId _ => consumerId ∉ consumers }

/-- A transport is replaced by another one: what was made on it closes.  The tables are cleaned
after a transport for sending, by the closed producers the peer still lists, and there are none
(`RoomMedia.Tidy.eraseClosedPeerEntries`). -/
def replaceTransport (producing : Bool)
    (producers consumers : List String) : RoomService :=
  s.withPeer roomId peerId fun _ =>
    let s := s.closeEntries roomId peerId producers consumers
    if producing then
      (s.cleanupPeerProducerOwnerCache roomId []).cleanupPeerProducerDemandCache roomId []
    else s

def trackPeerProducer (s : RoomService) (producerId : String) :
    RoomService :=
  s.withPeer roomId peerId fun peer =>
    s.setPeer roomId peerId { peer with producers := producerId :: peer.producers }

def produce (made : Option String) (start : RecorderStart)
    (consumed : Bool) : RoomService :=
  match made with
  | none => s
  | some producerId =>
    s.withPeer roomId peerId fun peer =>
      let s := trackPeerProducer roomId peerId s producerId
      let s := s.indexPeerProducers roomId peerId (producerId :: peer.producers)
      s.autoRecord cfg roomId peerId producerId start consumed

/-- A plain client publishes: its old transport for sending is replaced, and producers are made on
the new one.  They are entered as the peer's own at the end, unless the call fails before; one
that does not has made at least one producer. -/
def plainPublish (closing made : List String) (completed : Bool) :
    RoomService :=
  s.withPeer roomId peerId fun _ =>
    let s := s.replaceTransport roomId peerId true closing []
    let s := made.foldl (trackPeerProducer roomId peerId) s
    if completed && !made.isEmpty then
      s.withPeer roomId peerId fun peer => s.indexPeerProducers roomId peerId peer.producers
    else s

def consume (roomId peerId consumerId producerId : String) : RoomService :=
  s.withPeer roomId peerId fun peer =>
    s.setPeer roomId peerId { peer with consumers := peer.consumers.insert consumerId producerId }

def changeConsumer (roomId peerId consumerId : String) : RoomService :=
  s.withPeer roomId peerId fun peer =>
    match peer.consumers.lookup consumerId with
    | none => s
    | some _ =>
      let key := makePeerKey roomId peerId
      { s with
        subscriberControllers := s.subscriberControllers.insert key (s.monitor key) }

/-! ### Planning passes -/

def downlinkRoom (roomId : String) (peers : Dict String ServicePeer) : DownlinkRoom where
  peers := peers.mapValues fun _ peer => peer.consumers
  registry := (s.downlinkQosRegistry.lookup roomId).getD ∅
  monitors := peers.mapValues fun peerId _ => s.monitor (makePeerKey roomId peerId)

def resolveProducerOwnerPeerId (roomId producerId : String) : Option String :=
  match getEntry s.producerOwnerPeerIds roomId producerId with
  | some peerId => some peerId
  | none =>
    (s.rooms.lookup roomId).bind fun peers =>
      (peers.toPairs.find? fun (_, peer) => producerId ∈ peer.producers).map Prod.fst

def resolveTrack (roomId producerId : String) : Option (String × String) :=
  (s.resolveProducerOwnerPeerId roomId producerId).bind fun ownerPeerId =>
    (getEntry s.qosRegistry roomId ownerPeerId).bind fun entry =>
      (entry.snapshot.tracks.find? fun track => track.producerId = producerId).map fun track =>
        (ownerPeerId, track.localTrackId)

def sendTrackQosOverride (roomId : String) (nowMs : ℤ) (t : TargetedOverride) (s : RoomService) :
    RoomService :=
  match maybeSendTrackQosOverride s.trackQosOverrideRecords roomId nowMs t with
  | (records, none) => { s with trackQosOverrideRecords := records }
  | (records, some raw) =>
    { s with trackQosOverrideRecords := records }.notify cfg roomId t.targetPeerId
      (.qosOverride raw)

def supplyPlanWrites (roomId : String) (nowMs : ℤ) (demandStates : List ProducerDemandState) :
    List (RoomService → RoomService) :=
  (fun s : RoomService =>
    { s with
      trackQosOverrideRecords :=
        cleanupExpiredTrackOverrideRecords s.trackQosOverrideRecords nowMs }) ::
    (buildOverrides demandStates (s.resolveTrack roomId) nowMs).map
      (sendTrackQosOverride cfg roomId nowMs)

def planningWrites (roomId : String) : List (RoomService → RoomService) :=
  match s.rooms.lookup roomId with
  | none => []
  | some peers =>
    let room := s.downlinkRoom roomId peers
    let prevDemand := (s.producerDemandCache.lookup roomId).getD ∅
    let outcome := MediasoupCpp.runDownlinkPlanningForRoom cfg.allocator nowMs room prevDemand
    ((room.fedPeers nowMs).map fun peerId (s : RoomService) =>
      { s with
        subscriberControllers := s.subscriberControllers.insert (makePeerKey roomId peerId)
          (outcome.room.monitor peerId) }) ++
    -- the demand of a room that has none is made when it is first asked for
    [fun s : RoomService =>
      { s with producerDemandCache := s.producerDemandCache.insert roomId prevDemand },
    fun s : RoomService =>
      { s with producerDemandCache := s.producerDemandCache.insert roomId outcome.demand }] ++
    match outcome.supplyPlan with
    | none => []
    | some demandStates => s.supplyPlanWrites cfg roomId nowMs demandStates

def runDownlinkPlanningForRoom (roomId : String) (done : Option ℕ) : RoomService :=
  let writes := s.planningWrites cfg nowMs roomId
  ((done.elim writes writes.take).foldl (fun s write => write s) s)

def pass (done : Option ℕ) : RoomService :=
  match s.planner.running.bind PlanningTask.pass with
  | none => s
  | some roomId =>
    let s := s.runDownlinkPlanningForRoom cfg nowMs roomId done
    { s with
      planner := s.planner.step cfg.downlinkPlanningIntervalMs (.endPass done.isSome) }

end RoomService

/-! ### Runs -/

inductive ServiceCall
  | join (call : RoomService.JoinCall)
  | leave (roomId peerId : String)
  | leaveIfSessionMatches (roomId peerId : String) (expectedSessionId : ℕ)
  | checkRoomHealth (deadRooms : List String)
  | cleanIdleRooms (idleRooms : List String)
  | closeAllRooms
  | setClientStats (roomId peerId : String) (stats : ClientReport) (nowMs : ℤ)
  | setDownlinkClientStats (roomId peerId : String) (stats : DownlinkSnapshot) (nowMs : ℤ)
  | setQosOverride (roomId callerPeerId targetPeerId : String) (overrideData : Json)
  | produce (roomId peerId : String) (made : Option String) (start : RoomService.RecorderStart)
      (consumed : Bool)
  | plainPublish (roomId peerId : String) (closing made : List String) (completed : Bool)
  | createTransport (roomId peerId : String) (producing : Bool) (producers consumers : List String)
  /-- Producers and consumers of a peer close without anybody asking for it. -/
  | closed (roomId peerId : String) (producers consumers : List String)
  | consume (roomId peerId consumerId producerId : String)
  | changeConsumer (roomId peerId consumerId : String)

inductive ServiceEvent
  | call (c : ServiceCall)
  | runTask (token : ℕ) (nowMs : ℤ)
  | next (nowMs : ℤ)
  /-- The pass of the room the task has taken. -/
  | pass (nowMs : ℤ) (done : Option ℕ)

namespace RoomService

variable (cfg : ServiceConfig) (s : RoomService)

def handle : ServiceCall → RoomService
  | .join call => (s.join call).2
  | .leave roomId peerId => s.leave roomId peerId
  | .leaveIfSessionMatches roomId peerId expectedSessionId =>
    s.leaveIfSessionMatches roomId peerId expectedSessionId
  | .checkRoomHealth deadRooms => s.checkRoomHealth deadRooms
  | .cleanIdleRooms idleRooms => s.cleanIdleRooms idleRooms
  | .closeAllRooms => s.closeAllRooms
  | .setClientStats roomId peerId stats nowMs => (s.setClientStats cfg roomId peerId stats nowMs).2
  | .setDownlinkClientStats roomId peerId stats nowMs =>
    (s.setDownlinkClientStats roomId peerId stats nowMs).2
  | .setQosOverride roomId callerPeerId targetPeerId overrideData =>
    match s.setQosOverride cfg roomId callerPeerId targetPeerId overrideData with
    | .error _ => s
    | .ok s => s
  | .produce roomId peerId made start consumed => s.produce cfg roomId peerId made start consumed
  | .plainPublish roomId peerId closing made completed =>
    s.plainPublish roomId peerId closing made completed
  | .createTransport roomId peerId producing producers consumers =>
    s.replaceTransport roomId peerId producing producers consumers
  | .closed roomId peerId producers consumers => s.closeEntries roomId peerId producers consumers
  | .consume roomId peerId consumerId producerId => s.consume roomId peerId consumerId producerId
  | .changeConsumer roomId peerId consumerId => s.changeConsumer roomId peerId consumerId

def step : ServiceEvent → RoomService
  | .call c => if s.planner.running = none then s.handle cfg c else s
  | .runTask token nowMs =>
    { s with
      planner := s.planner.step cfg.downlinkPlanningIntervalMs (.runTask token nowMs) }
  | .next nowMs =>
    { s with planner := s.planner.step cfg.downlinkPlanningIntervalMs (.next nowMs) }
  | .pass nowMs done => s.pass cfg nowMs done

abbrev reach (es : List ServiceEvent) : RoomService := Runs.runFrom (step cfg) {} es

/-! ### Manual overrides -/

theorem eq_notify_of_setQosOverride {cfg : ServiceConfig} {s s' : RoomService}
    {roomId callerPeerId targetPeerId : String} {overrideData : Json}
    (h : s.setQosOverride cfg roomId callerPeerId targetPeerId overrideData = .ok s') :
    ∃ o, QosValidator.parseOverride overrideData = .ok o ∧
      s' = s.notify cfg roomId targetPeerId (.qosOverride o.raw) := by
  unfold setQosOverride at h
  split at h
  · cases h
  split at h
  · cases h
  split at h
  · cases h
  split at h
  · cases h
  rename_i o ho
  cases h
  exact ⟨o, ho, rfl⟩

/-- **A manual override that the server takes is forwarded, and the client reads from it what the
server has read**; a track that is missing and one that is null are both no track. -/
theorem setQosOverride_understood {cfg : ServiceConfig} {s s' : RoomService}
    {roomId callerPeerId targetPeerId : String} {overrideData : Json}
    (h : s.setQosOverride cfg roomId callerPeerId targetPeerId overrideData = .ok s')
    (hints : IntsBelow overrideData) :
    ∃ o, QosValidator.parseOverride overrideData = .ok o ∧
      s' = s.notify cfg roomId targetPeerId (.qosOverride o.raw) ∧
      ∃ t, parseQosOverride o.raw = .ok { o.toClient with trackId := t } ∧ t.join = o.trackId := by
  obtain ⟨o, ho, hs'⟩ := eq_notify_of_setQosOverride h
  obtain ⟨hraw, hclient⟩ := parseQosOverride_of_parseOverride ho hints
  rw [← hraw] at hclient
  exact ⟨o, ho, hs', hclient⟩

def audioOnly : Json :=
  .obj [("schema", .str kOverrideSchema), ("scope", .str "peer"), ("trackId", .null),
    ("maxLevelClamp", .int 2), ("forceAudioOnly", .bool true), ("ttlMs", .int 8000),
    ("reason", .str "manual")]

theorem intsBelow_audioOnly : IntsBelow audioOnly := by
  intro key i h
  obtain ⟨before, after, hfields, -⟩ := List.lookup_eq_some_iff.mp h
  have hmem : (key, Json.int i) ∈ before ++ (key, Json.int i) :: after := by simp
  rw [← hfields] at hmem
  simp at hmem
  omega

theorem setQosOverride_understood_audioOnly :
    ∃ s s' : RoomService,
      s.setQosOverride { allocator := roughAllocator } "r" "a" "a" audioOnly = .ok s' ∧
      ∃ o, QosValidator.parseOverride audioOnly = .ok o ∧
        s' = s.notify { allocator := roughAllocator } "r" "a" (.qosOverride o.raw) ∧
        ∃ t, parseQosOverride o.raw = .ok { o.toClient with trackId := t } ∧ t.join = o.trackId :=
  ⟨{ rooms := AList.singleton "r" (AList.singleton "a" {}) }, _, rfl,
    @setQosOverride_understood _ _ _ "r" "a" "a" _ rfl intsBelow_audioOnly⟩

end RoomService

end MediasoupCpp
