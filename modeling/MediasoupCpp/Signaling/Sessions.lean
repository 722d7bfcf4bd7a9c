import MediasoupCpp.Lib.Run
import MediasoupCpp.Qos.Planning
import MediasoupCpp.Qos.Publication
import MediasoupCpp.Room.Manager
import MediasoupCpp.Signaling.Dispatch

/-!
# Sessions of a peer

A peer can join again from another connection; the new session takes the place of the old one.
The loop reads the requests off the sockets and posts them to the worker that has the room, and
the worker executes them in this order.

Main result: `isolated_iff`.

Source: `src/SignalingServerWs.cpp`, `src/SignalingSocketState.h`,
`src/SignalingRequestDispatcher.h`, `src/RoomServiceLifecycle.cpp`, `src/RoomServiceQos.cpp`,
`src/RoomServiceDownlink.cpp`.
-/

namespace MediasoupCpp

open List Runs Option

/-! ### Requests and what they cause -/

structure SessionRef where
  roomId : String
  peerId : String
  sessionId : ℕ
  deriving DecidableEq

def PerSocketData.sender (sd : PerSocketData) : SessionRef := ⟨sd.roomId, sd.peerId, sd.sessionId⟩

inductive Method
  | createWebRtcTransport
  | connectWebRtcTransport
  | produce
  | consume
  | pauseProducer
  | resumeProducer
  | restartIce
  | getStats
  | setQosOverride
  | setQosPolicy
  | pauseConsumer
  | resumeConsumer
  | getConsumerState
  | setConsumerPreferredLayers
  | setConsumerPriority
  | requestConsumerKeyFrame
  | plainPublish
  | plainSubscribe
  | unknown (method : String)

inductive CallScope
  | caller
  /-- The peer that the producer named in the request belongs to. -/
  | producerOwner
  | nobody

def Method.scope : Method → CallScope
  | .pauseProducer | .resumeProducer => .producerOwner
  | .getStats | .getConsumerState | .unknown _ => .nobody
  | _ => .caller

structure Request where
  method : Method
  producerOwner : Option String := none

inductive Answer
  | ok
  | notStored (reason : String)
  | error (message : String)
  | join (result : JoinResult)
  deriving DecidableEq

inductive LogEntry
  | joined (session : SessionRef)
  /-- A request of a session had an effect for a peer of its room. -/
  | effect (peerId : String) (sender : SessionRef)
  deriving DecidableEq

/-- A task in the worker's queue.  (A report does not carry its session in the source; it is
here for the log.) -/
inductive SessionTask
  | join (ws : ℕ) (req : JoinRequestContext) (newSessionId : ℕ)
  | request (ws : ℕ) (sender : SessionRef) (req : Request)
  | clientStats (ws : ℕ) (sender : SessionRef) (snapshot : ClientQosSnapshot)
  | downlinkClientStats (ws : ℕ) (sender : SessionRef) (snapshot : DownlinkSnapshot)
  /-- `leaveIfSessionMatches`: a closed socket, or the rollback of its join. -/
  | leave (session : SessionRef)

inductive SessionCallback
  | roomLifecycle (roomId : String) (created : Bool)
  /-- There is no room service; `join` is the room and the session of a join. -/
  | workerNotReady (ws : ℕ) (join : Option (String × ℕ))
  | joinCompletion (ws : ℕ) (session : SessionRef) (result : JoinResult)
  | answer (ws : ℕ) (answer : Answer)
  | downlinkStats (ws : ℕ) (mapKey : String) (seq : ℕ) (stored : Bool) (answer : Answer)
  | downlinkSnapshotApplied (mapKey : String) (seq : ℕ)

/-! ### The worker -/

def RoomManager.getPeer (rooms : RoomManager) (roomId peerId : String) : Option Peer :=
  (rooms.getRoom roomId).bind (Room.getPeer · peerId)

structure RoomWorker where
  /-- The thread has its room service, which needs a media worker at start. -/
  roomService : Bool := true
  workerCount : ℕ := 1
  rooms : RoomManager := ∅
  qosRegistry : QosRegistry := ∅
  downlinkQosRegistry : Dict String DownlinkQosRegistry := ∅
  tasks : List SessionTask := []
  log : List LogEntry := []

def erasePeerReports {α : Type} (reg : Dict String (Dict String α)) (roomId peerId : String) :
    Dict String (Dict String α) :=
  match reg.lookup roomId with
  | none => reg
  | some peers => reg.insert roomId (peers.erase peerId)

inductive StoreResult (ρ : Type)
  | error (message : String)
  | rejected (reason : String)
  | stored (registry : ρ)

def StoreResult.isStored {ρ : Type} : StoreResult ρ → Bool
  | .stored _ => true
  | _ => false

structure TaskEnv where
  answer : ClaimAnswer := .mine
  routerCreated : Bool := true
  failure : Option String := none
  nowMs : ℤ := 0

namespace RoomWorker

variable (w : RoomWorker) (session : SessionRef)

def getPeer : Option Peer :=
  w.rooms.getPeer session.roomId session.peerId

def erasePeer (roomId peerId : String) : RoomWorker :=
  { w with
    qosRegistry := erasePeerReports w.qosRegistry roomId peerId
    downlinkQosRegistry := erasePeerReports w.downlinkQosRegistry roomId peerId }

def record (entry : LogEntry) : RoomWorker := { w with log := w.log ++ [entry] }

def join (ws : ℕ) (req : JoinRequestContext) (newSessionId : ℕ) (env : TaskEnv) :
    RoomWorker × List SessionCallback :=
  let session := ⟨req.roomId, req.peerId, newSessionId⟩
  let (result, rooms) := dispatchJoin w.rooms req newSessionId env.answer env.routerCreated
  let created := (w.rooms.getRoom req.roomId).isNone && (rooms.getRoom req.roomId).isSome
  let callbacks :=
    (if created then [.roomLifecycle req.roomId true] else []) ++
      [.joinCompletion ws session result]
  if result = .joined then
    -- the reports are those of the peer that is replaced
    let w := if (w.getPeer session).isSome then w.erasePeer req.roomId req.peerId else w
    ({ w with rooms := rooms }.record (.joined session), callbacks)
  else ({ w with rooms := rooms }, callbacks)

def affected (sender : SessionRef) (req : Request) : Option String :=
  match req.method.scope with
  | .caller => if (w.getPeer sender).isSome then some sender.peerId else none
  | .producerOwner =>
    req.producerOwner.filter fun owner => (w.rooms.getPeer sender.roomId owner).isSome
  | .nobody => none

def isStale (sender : SessionRef) : Bool :=
  sender.sessionId != 0 &&
    (w.getPeer sender).any fun peer => peer.sessionId != 0 && peer.sessionId != sender.sessionId

/-- A call to the room service.  (What it does to the media is not looked at here, only to
whom.) -/
def request (ws : ℕ) (sender : SessionRef) (req : Request) (env : TaskEnv) :
    RoomWorker × List SessionCallback :=
  if w.isStale sender then (w, [.answer ws (.error "remote login")])
  else
    match env.failure with
    | some message => (w, [.answer ws (.error message)])
    | none =>
      match w.affected sender req with
      | some peerId => (w.record (.effect peerId sender), [.answer ws .ok])
      | none =>
        (w, [.answer ws (match req.method with
          | .unknown method => .error ("unknown method: " ++ method)
          | .getStats | .getConsumerState => .ok
          | _ => .error (if (w.rooms.getRoom sender.roomId).isNone then "room not found"
              else if req.method.scope matches .producerOwner then "producer not found"
              else "peer not found"))])

def setClientStats (snapshot : ClientQosSnapshot) (nowMs : ℤ) :
    StoreResult QosRegistry :=
  match w.rooms.getRoom session.roomId with
  | none => .error "room missing during clientStats"
  | some room =>
    match room.getPeer session.peerId with
    | none => .error "peer missing during clientStats"
    | some _ =>
      match w.qosRegistry.upsert session.roomId session.peerId snapshot nowMs with
      | .error reason => .rejected reason
      | .ok registry => .stored registry

/-- (The subscriptions are not checked against the consumers here; it does not matter for
whether the report is stored.) -/
def setDownlinkClientStats (stats : DownlinkSnapshot) (nowMs : ℤ) :
    StoreResult (Dict String DownlinkQosRegistry) :=
  match w.rooms.getRoom session.roomId with
  | none => .error "room missing during downlinkClientStats"
  | some room =>
    match room.getPeer session.peerId with
    | none => .error "peer missing during downlinkClientStats"
    | some _ =>
      if stats.subscriberPeerId ≠ session.peerId then .error "downlink subscriberPeerId mismatch"
      else
        match ((w.downlinkQosRegistry.lookup session.roomId).getD ∅).upsert session.peerId stats
          nowMs with
        | .error reason => .rejected reason
        | .ok registry => .stored (w.downlinkQosRegistry.insert session.roomId registry)

def clientStats (ws : ℕ) (sender : SessionRef) (snapshot : ClientQosSnapshot) (env : TaskEnv) :
    RoomWorker × List SessionCallback :=
  match w.setClientStats sender snapshot env.nowMs with
  | .error message => (w, [.answer ws (.error message)])
  | .rejected reason => (w, [.answer ws (.notStored reason)])
  | .stored registry =>
    ({ w with qosRegistry := registry }.record (.effect sender.peerId sender), [.answer ws .ok])

def downlinkClientStats (ws : ℕ) (sender : SessionRef) (snapshot : DownlinkSnapshot)
    (env : TaskEnv) : RoomWorker × List SessionCallback :=
  let callback :=
    SessionCallback.downlinkStats ws (wsMapKey sender.roomId sender.peerId) snapshot.seq
  match w.setDownlinkClientStats sender snapshot env.nowMs with
  | .error message => (w, [callback false (.error message)])
  | .rejected reason => (w, [callback false (.notStored reason)])
  | .stored registry =>
    ({ w with downlinkQosRegistry := registry }.record (.effect sender.peerId sender),
      [callback true .ok])

def leaveIfSessionMatches : RoomWorker × List SessionCallback :=
  let (rooms, destroyed) :=
    w.rooms.leaveIfSessionMatches session.roomId session.peerId session.sessionId
  if session.sessionId ≠ 0 && (w.getPeer session).any (·.sessionId = session.sessionId) then
    ({ w.erasePeer session.roomId session.peerId with rooms := rooms }.record
        (.effect session.peerId session),
      if destroyed then [.roomLifecycle session.roomId false] else [])
  else (w, [])

def execute (env : TaskEnv) : SessionTask → RoomWorker × List SessionCallback
  | .join ws req newSessionId =>
    if w.roomService then w.join ws req newSessionId env
    else (w, [.workerNotReady ws (some (req.roomId, newSessionId))])
  | .request ws sender req =>
    if w.roomService then w.request ws sender req env else (w, [.workerNotReady ws none])
  | .clientStats ws sender snapshot =>
    if w.roomService then w.clientStats ws sender snapshot env
    else (w, [.answer ws (.error "worker not ready")])
  | .downlinkClientStats ws sender snapshot =>
    if w.roomService then w.downlinkClientStats ws sender snapshot env
    else
      (w, [.downlinkStats ws (wsMapKey sender.roomId sender.peerId) snapshot.seq false
        (.error "worker not ready")])
  | .leave session => if w.roomService then w.leaveIfSessionMatches session else (w, [])

end RoomWorker

/-! ### The loop -/

structure DownlinkStatsRateLimitState where
  pendingSinceMs : ℤ := 0
  lastAcceptedSeq : ℕ := 0
  pendingSeq : ℕ := 0
  hasAcceptedSeq : Bool := false
  pending : Bool := false

namespace DownlinkStatsRateLimitState

variable (state : DownlinkStatsRateLimitState)

def kMinDownlinkStatsIntervalMs : ℤ := 100

variable (seq : ℕ)

def isAdvancingDownlinkSeq : Bool :=
  let baselineSeq := if state.pending then state.pendingSeq else state.lastAcceptedSeq
  (!state.pending && !state.hasAcceptedSeq) || baselineSeq < seq ||
    (seq < baselineSeq && isSeqWrapOrReset baselineSeq seq)

def markAcceptedDownlinkSeq : DownlinkStatsRateLimitState :=
  { state with lastAcceptedSeq := seq, hasAcceptedSeq := true }

def clearPendingDownlinkSeqIfMatches : DownlinkStatsRateLimitState :=
  if state.pending && state.pendingSeq = seq then { state with pending := false } else state

def forward (nowMs : ℤ) : DownlinkStatsRateLimitState :=
  if state.isAdvancingDownlinkSeq seq then
    { state with pending := true, pendingSinceMs := nowMs, pendingSeq := seq }
  else state

end DownlinkStatsRateLimitState

structure SessionServer where
  sockets : ℕ → PerSocketData := fun _ => {}
  peers : Dict String ℕ := ∅
  nextSessionId : ℕ
  roomDispatch : Finset String := ∅
  destroyedRooms : Finset String := ∅
  downlinkStatsRateLimit : Dict String DownlinkStatsRateLimitState := ∅
  deferred : List SessionCallback := []
  worker : RoomWorker := {}
  /-- The answers, with the sockets they were sent to. -/
  sent : List (ℕ × Answer) := []

def initSessionIdBase (random : ℕ) : ℕ := random % 2 ^ 48 + 2 ^ 48

namespace SessionServer

variable (s : SessionServer)

def init (random : ℕ) (roomService : Bool) (workerCount : ℕ) : SessionServer where
  nextSessionId := initSessionIdBase random
  worker := { roomService := roomService, workerCount := workerCount }

variable (ws : ℕ)

def setSocket (sd : PerSocketData) : SessionServer :=
  { s with sockets := Function.update s.sockets ws sd }

def send (answer : Answer) : SessionServer := { s with sent := s.sent ++ [(ws, answer)] }

def sendIfAlive (answer : Answer) : SessionServer :=
  if (s.sockets ws).alive then s.send ws answer else s

def post (task : SessionTask) : SessionServer :=
  { s with worker := { s.worker with tasks := s.worker.tasks ++ [task] } }

variable (roomId : String)

def assignRoom : SessionServer :=
  { s with
    roomDispatch := insert roomId s.roomDispatch
    destroyedRooms := s.destroyedRooms.erase roomId }

def unassignRoom : SessionServer :=
  { s with roomDispatch := s.roomDispatch.erase roomId }

def selectWorker : Option SessionServer :=
  if roomId ∈ s.roomDispatch ∧ roomId ∉ s.destroyedRooms then some s
  else if s.worker.workerCount = 0 then none
  else some (s.assignRoom roomId)

def hasMappedSession : Bool :=
  let sd := s.sockets ws
  sd.roomId != "" && sd.peerId != "" && sd.sessionId != 0 &&
    s.peers.lookup (wsMapKey sd.roomId sd.peerId) == some ws

def joinRequest (req : JoinRequestContext) : SessionServer :=
  let sd := s.sockets ws
  if !sd.alive then s
  else if s.hasMappedSession ws || sd.pendingSessionId != 0 then
    s.send ws (.error "already joined on this connection")
  else if !(isValidJoinId req.roomId && isValidJoinId req.peerId) then
    s.send ws (.error "invalid roomId or peerId (allowed: [A-Za-z0-9_-]\x7b1,128\x7d)")
  else
    let newSessionId := s.nextSessionId
    let s := { s with nextSessionId := newSessionId + 1 }
    match s.selectWorker req.roomId with
    | none => s.send ws (.error "no available worker thread")
    | some s =>
      (s.setSocket ws (sd.setPendingSocketJoin req.roomId req.peerId newSessionId)).post
        (.join ws req newSessionId)

def request (req : Request) : SessionServer :=
  let sd := s.sockets ws
  if !sd.alive then s
  else if sd.roomId ∉ s.roomDispatch then s.send ws (.error "room not assigned")
  else s.post (.request ws sd.sender req)

def clientStats (data : Except String ClientQosSnapshot) : SessionServer :=
  let sd := s.sockets ws
  if !sd.alive then s
  else if sd.roomId = "" ∨ sd.peerId = "" ∨ sd.sessionId = 0 then
    s.send ws (.error "clientStats requires joined session")
  else if !s.hasMappedSession ws then s.send ws (.error "stale session")
  else if sd.roomId ∉ s.roomDispatch ∨ !s.worker.roomService then
    s.send ws (.error "room not assigned")
  else
    match data with
    | .error message => s.send ws (.error ("invalid clientStats: " ++ message))
    | .ok snapshot => s.post (.clientStats ws sd.sender snapshot)

def downlinkClientStats (data : Except String DownlinkSnapshot) (nowMs : ℤ) :
    SessionServer :=
  let sd := s.sockets ws
  if !sd.alive then s
  else if sd.roomId = "" ∨ sd.peerId = "" ∨ sd.sessionId = 0 then
    s.send ws (.error "downlinkClientStats requires joined session")
  else if !s.hasMappedSession ws then s.send ws (.error "stale session")
  else
    match data with
    | .error message => s.send ws (.error ("invalid downlinkClientStats: " ++ message))
    | .ok snapshot =>
      if sd.roomId ∉ s.roomDispatch ∨ !s.worker.roomService then
        s.send ws (.error "room not assigned")
      else
        let mapKey := wsMapKey sd.roomId sd.peerId
        let state := (s.downlinkStatsRateLimit.lookup mapKey).getD {}
        let advancing := state.isAdvancingDownlinkSeq snapshot.seq
        if advancing && state.pending && nowMs - state.pendingSinceMs ≤
            DownlinkStatsRateLimitState.kMinDownlinkStatsIntervalMs then
          s.send ws (.error "downlinkClientStats rate limited")
        else
          let state :=
            if advancing then
              { state with pending := true, pendingSinceMs := nowMs, pendingSeq := snapshot.seq }
            else state
          { s with
            downlinkStatsRateLimit := s.downlinkStatsRateLimit.insert mapKey state }.post
              (.downlinkClientStats ws sd.sender snapshot)

/-- The socket is closed.  What it had joined, or was about to join, is left. -/
def closeSocket : SessionServer :=
  let sd := s.sockets ws
  if sd.closed then s
  else
    let pending := sd.sessionId = 0 ∧ sd.pendingSessionId ≠ 0
    let session : SessionRef :=
      if pending then ⟨sd.pendingRoomId, sd.pendingPeerId, sd.pendingSessionId⟩ else sd.sender
    let mapKey := wsMapKey sd.roomId sd.peerId
    let s := s.setSocket ws { sd with alive := false, closed := true }.clearPendingSocketJoin
    let s :=
      if sd.sessionId ≠ 0 ∧ sd.peerId ≠ "" ∧ s.peers.lookup mapKey = some ws then
        { s with
          peers := s.peers.erase mapKey
          downlinkStatsRateLimit := s.downlinkStatsRateLimit.erase mapKey }
      else s
    if session.roomId ≠ "" ∧ session.sessionId ≠ 0 ∧ session.roomId ∈ s.roomDispatch then
      s.post (.leave session)
    else s

def registerJoinedSocket (session : SessionRef) : SessionServer :=
  let mapKey := wsMapKey session.roomId session.peerId
  let peers := s.peers.filter fun key owner => owner != ws || key == mapKey
  let s := s.setSocket ws
    { s.sockets ws with
      roomId := session.roomId
      peerId := session.peerId
      sessionId := session.sessionId }.clearPendingSocketJoin
  let s :=
    match peers.lookup mapKey with
    | some oldWs =>
      if oldWs ≠ ws then s.setSocket oldWs { s.sockets oldWs with alive := false } else s
    | none => s
  { s with peers := peers.insert mapKey ws }

def clearPendingJoin (ws sessionId : ℕ) : SessionServer :=
  s.setSocket ws ((s.sockets ws).clearPendingSocketJoinIfMatches sessionId)

def completeJoin (session : SessionRef) (result : JoinResult) : SessionServer :=
  let alive := (s.sockets ws).alive
  if result = .joined then
    if !alive then s.post (.leave session)
    else if !s.worker.roomService then
      ((s.clearPendingJoin ws session.sessionId).unassignRoom session.roomId).send ws
        (.error "worker unavailable during join completion")
    else
      ((s.registerJoinedSocket ws session).assignRoom session.roomId).send ws (.join result)
  else
    let s :=
      if !s.worker.roomService || (s.worker.rooms.getRoom session.roomId).isNone then
        s.unassignRoom session.roomId
      else s
    if !alive then s else (s.clearPendingJoin ws session.sessionId).send ws (.join result)

def updateRateLimit (mapKey : String)
    (f : DownlinkStatsRateLimitState → DownlinkStatsRateLimitState) : SessionServer :=
  match s.downlinkStatsRateLimit.lookup mapKey with
  | none => s
  | some state =>
    { s with downlinkStatsRateLimit := s.downlinkStatsRateLimit.insert mapKey (f state) }

def runCallback : SessionCallback → SessionServer
  | .roomLifecycle roomId created =>
    if created then { s with destroyedRooms := s.destroyedRooms.erase roomId }
    else { s with destroyedRooms := insert roomId s.destroyedRooms }.unassignRoom roomId
  | .workerNotReady ws none => s.sendIfAlive ws (.error "worker not ready")
  | .workerNotReady ws (some (roomId, newSessionId)) =>
    let s := s.unassignRoom roomId
    if (s.sockets ws).alive then
      (s.clearPendingJoin ws newSessionId).send ws (.error "worker not ready")
    else s
  | .joinCompletion ws session result => s.completeJoin ws session result
  | .answer ws answer => s.sendIfAlive ws answer
  | .downlinkStats ws mapKey seq stored answer =>
    (s.updateRateLimit mapKey fun state =>
      if stored then state.markAcceptedDownlinkSeq seq
      else state.clearPendingDownlinkSeqIfMatches seq).sendIfAlive ws answer
  | .downlinkSnapshotApplied mapKey seq =>
    s.updateRateLimit mapKey (·.clearPendingDownlinkSeqIfMatches seq)

def runDeferred : SessionServer :=
  match s.deferred with
  | [] => s
  | callback :: callbacks => { s with deferred := callbacks }.runCallback callback

def runTask (env : TaskEnv) : SessionServer :=
  match s.worker.tasks with
  | [] => s
  | task :: tasks =>
    let (worker, callbacks) := { s.worker with tasks := tasks }.execute env task
    { s with worker := worker, deferred := s.deferred ++ callbacks }

def destroyRoom : SessionServer :=
  if (s.worker.rooms.getRoom roomId).isSome then
    { s with
      worker :=
        { s.worker with
          rooms := s.worker.rooms.removeRoom roomId
          qosRegistry := s.worker.qosRegistry.erase roomId
          downlinkQosRegistry := s.worker.downlinkQosRegistry.erase roomId }
      deferred := s.deferred ++ [.roomLifecycle roomId false] }
  else s

end SessionServer

inductive SessionEvent
  | joinRequest (ws : ℕ) (req : JoinRequestContext)
  | request (ws : ℕ) (req : Request)
  | clientStats (ws : ℕ) (data : Except String ClientQosSnapshot)
  | downlinkClientStats (ws : ℕ) (data : Except String DownlinkSnapshot) (nowMs : ℤ)
  | closeSocket (ws : ℕ)
  | runDeferred
  | runTask (env : TaskEnv)
  | destroyRoom (roomId : String)
  /-- A planning pass on the worker has used a report. -/
  | snapshotApplied (roomId peerId : String) (seq : ℕ)
  /-- A media worker of the thread dies, or is started again. -/
  | setWorkerCount (count : ℕ)

def sessionStep (s : SessionServer) : SessionEvent → SessionServer
  | .joinRequest ws req => s.joinRequest ws req
  | .request ws req => s.request ws req
  | .clientStats ws data => s.clientStats ws data
  | .downlinkClientStats ws data nowMs => s.downlinkClientStats ws data nowMs
  | .closeSocket ws => s.closeSocket ws
  | .runDeferred => s.runDeferred
  | .runTask env => s.runTask env
  | .destroyRoom roomId => s.destroyRoom roomId
  | .snapshotApplied roomId peerId seq =>
    { s with
      deferred := s.deferred ++ [.downlinkSnapshotApplied (wsMapKey roomId peerId) seq] }
  | .setWorkerCount count => { s with worker := { s.worker with workerCount := count } }

/-! ### Isolation -/

def LogEntry.Fits : LogEntry → LogEntry → Prop
  | .joined session, .effect peerId sender =>
    peerId = session.peerId → sender.peerId = session.peerId → sender.roomId = session.roomId →
      session.sessionId ≤ sender.sessionId
  | _, _ => True

instance : DecidableRel LogEntry.Fits
  | .joined _, .effect _ _ => inferInstanceAs (Decidable (_ → _ → _ → _))
  | .joined _, .joined _ => .isTrue trivial
  | .effect _ _, .joined _ => .isTrue trivial
  | .effect _ _, .effect _ _ => .isTrue trivial

namespace SessionServer

def Isolated (s : SessionServer) : Prop := s.worker.log.Pairwise LogEntry.Fits

end SessionServer

def RoomWorker.stores (w : RoomWorker) (env : TaskEnv) : SessionTask → Bool
  | .clientStats _ sender snapshot =>
    w.roomService && (w.setClientStats sender snapshot env.nowMs).isStored
  | .downlinkClientStats _ sender snapshot =>
    w.roomService && (w.setDownlinkClientStats sender snapshot env.nowMs).isStored
  | _ => false

def SessionTask.sender? : SessionTask → Option SessionRef
  | .request _ sender _ | .clientStats _ sender _ | .downlinkClientStats _ sender _ => some sender
  | .join .. | .leave _ => none

def SessionServer.OwnSession (s : SessionServer) : SessionEvent → Prop
  | .runTask env => ∀ task ∈ s.worker.tasks.head?, s.worker.stores env task = true →
    ∀ sender ∈ task.sender?, (s.worker.getPeer sender).map Peer.sessionId = some sender.sessionId
  | _ => True

/-! ### The peers of the rooms -/

namespace RoomManager

variable {rooms rooms' : RoomManager} {r p : String}

theorem getPeer_replacePeer (rooms : RoomManager) (roomId peerId : String) (peer : Peer)
    (r p : String) :
    (rooms.setRoom roomId (((rooms.getRoom roomId).getD {}).replacePeer peerId peer)).getPeer r p =
      if r = roomId ∧ p = peerId then some peer else rooms.getPeer r p := by
  rw [getPeer, getRoom_setRoom, getPeer]
  by_cases hr : r = roomId
  · subst hr
    rw [if_pos rfl, bind_some, Room.getPeer, Room.replacePeer, Dict.lookup_insert_eq]
    split
    next hp =>
      rw [if_pos ⟨rfl, hp⟩]
    rename_i hp
    rw [if_neg fun h => hp h.2]
    cases rooms.getRoom r <;> rfl
  · rw [if_neg hr, if_neg fun h => hr h.1]

variable {peer : Peer} {roomId : String}

theorem getPeer_createRoom {routerCreated : Bool}
    (h : rooms.createRoom roomId routerCreated = .ok rooms') :
    rooms'.getPeer r p = rooms.getPeer r p := by
  rw [getPeer, getRoom_createRoom h, getPeer]
  split
  next hr =>
    rw [hr]
    cases rooms.getRoom roomId <;> rfl
  · rfl

theorem getPeer_of_leave {peerId : String}
    (h : (rooms.leave roomId peerId).1.getPeer r p = some peer) :
    rooms.getPeer r p = some peer := by
  unfold leave at h
  split at h
  · exact h
  rename_i hroom
  split at h
  · rw [getPeer, getRoom_removeRoom] at h
    split at h
    · cases h
    · exact h
  rw [getPeer, getRoom_setRoom] at h
  split at h
  next hr =>
    rw [bind_some, Room.getPeer, Room.removePeer, Dict.lookup_erase_eq] at h
    split at h
    · cases h
    · rw [getPeer, hr, hroom]
      exact h
  · exact h

theorem getPeer_of_leaveIfSessionMatches {peerId : String} {sessionId : ℕ}
    (h : (rooms.leaveIfSessionMatches roomId peerId sessionId).1.getPeer r p = some peer) :
    rooms.getPeer r p = some peer := by
  unfold leaveIfSessionMatches at h
  split at h
  · exact h
  split at h
  · exact h
  split at h
  · exact h
  · exact getPeer_of_leave h

theorem getPeer_of_removeRoom
    (h : (rooms.removeRoom roomId).getPeer r p = some peer) : rooms.getPeer r p = some peer := by
  rw [getPeer, getRoom_removeRoom] at h
  split at h
  · cases h
  · exact h

end RoomManager

open RoomManager

theorem getPeer_dispatchJoin (rooms : RoomManager) (req : JoinRequestContext) (newSessionId : ℕ)
    (answer : ClaimAnswer) (routerCreated : Bool) (r p : String) :
    (dispatchJoin rooms req newSessionId answer routerCreated).2.getPeer r p =
      if (dispatchJoin rooms req newSessionId answer routerCreated).1 = .joined ∧ r = req.roomId ∧
          p = req.peerId then some ⟨newSessionId⟩ else rooms.getPeer r p := by
  cases answer with
  | redirect | rejected => simp [dispatchJoin]
  | mine =>
    unfold dispatchJoin enter
    dsimp only
    by_cases hobj : req.rtpCapabilities = .notAnObject
    · simp [hobj]
    rw [if_neg hobj]
    cases hcre : rooms.createRoom req.roomId routerCreated with
    | error error => simp
    | ok rooms' =>
      have hsame : rooms'.getPeer r p = rooms.getPeer r p :=
        getPeer_createRoom hcre
      dsimp only
      by_cases hread : req.rtpCapabilities = .malformed
      · simp [hread, hsame]
      · simp only [if_neg hread, getPeer_replacePeer, hsame, true_and]
        split <;> rfl

/-! ### What holds in every run -/

namespace RoomWorker

def Known (w : RoomWorker) (session : SessionRef) : Prop :=
  session.sessionId = 0 ∧ session.roomId = "" ∨ .joined session ∈ w.log

end RoomWorker

def LogEntry.joinedSession? : LogEntry → Option ℕ
  | .joined session => some session.sessionId
  | .effect .. => none

def SessionTask.newSession? : SessionTask → Option ℕ
  | .join _ _ newSessionId => some newSessionId
  | _ => none

def RoomWorker.sessions (w : RoomWorker) (nextSessionId : ℕ) : List ℕ :=
  w.log.filterMap LogEntry.joinedSession? ++
    (w.tasks.filterMap SessionTask.newSession? ++ [nextSessionId])

structure RoomWorker.Inv (w : RoomWorker) (nextSessionId : ℕ) : Prop where
  ordered : (w.sessions nextSessionId).Pairwise (· < ·)
  positive : ∀ n ∈ w.sessions nextSessionId, 0 < n
  joinsNamed : ∀ {ws req newSessionId}, .join ws req newSessionId ∈ w.tasks → req.roomId ≠ ""
  logNamed : ∀ {session}, .joined session ∈ w.log → session.roomId ≠ ""
  /-- A peer has the last session that has joined as this peer. -/
  current : ∀ {r p peer}, w.rooms.getPeer r p = some peer →
    .joined ⟨r, p, peer.sessionId⟩ ∈ w.log ∧
      ∀ sessionId, .joined ⟨r, p, sessionId⟩ ∈ w.log → sessionId ≤ peer.sessionId
  senders : ∀ task ∈ w.tasks, ∀ sender ∈ task.sender?, w.Known sender

structure SessionServer.Inv (s : SessionServer) : Prop where
  worker : s.worker.Inv s.nextSessionId
  sockets : ∀ ws, s.worker.Known (s.sockets ws).sender
  completions : ∀ {ws session}, .joinCompletion ws session .joined ∈ s.deferred →
    .joined session ∈ s.worker.log

namespace RoomWorker

variable {w w' : RoomWorker} {nextSessionId : ℕ} {session sender : SessionRef}

theorem Known.mono (hlog : ∀ entry ∈ w.log, entry ∈ w'.log) (h : w.Known session) :
    w'.Known session :=
  h.imp_right (hlog _)

theorem Inv.joined_pos (h : w.Inv nextSessionId) (hjoined : .joined session ∈ w.log) :
    0 < session.sessionId :=
  h.positive _ (mem_append_left _ (mem_filterMap.mpr ⟨_, hjoined, rfl⟩))

variable {tasks : List SessionTask} {req : JoinRequestContext} {task : SessionTask} {p : String}
  {ok : Prop} {callbacks : List SessionCallback} {peer : Peer}

theorem Inv.fits_iff (h : w.Inv nextSessionId)
    (hpeer : w.rooms.getPeer sender.roomId p = some peer) :
    (∀ entry ∈ w.log, entry.Fits (.effect p sender)) ↔
      (sender.peerId = p → peer.sessionId ≤ sender.sessionId) := by
  obtain ⟨hjoined, hlast⟩ := h.current hpeer
  constructor
  · intro hfits hsend
    exact hfits _ hjoined rfl hsend rfl
  intro hle entry hent
  cases entry with
  | effect => trivial
  | joined session =>
    rintro rfl hsend hroom
    obtain ⟨r, p, sessionId⟩ := session
    obtain rfl : sender.roomId = r := hroom
    exact (hlast sessionId hent).trans (hle hsend)

theorem Inv.le_of_known (h : w.Inv nextSessionId) (hknow : w.Known sender)
    (hpeer : w.getPeer sender = some peer) :
    .joined sender ∈ w.log ∧ sender.sessionId ≤ peer.sessionId := by
  obtain ⟨hjoined, hlast⟩ := h.current hpeer
  rcases hknow with ⟨-, hroom⟩ | hknow
  · have hnm := h.logNamed hjoined
    exact absurd hroom hnm
  · exact ⟨hknow, hlast _ hknow⟩

theorem Inv.fits_request (h : w.Inv nextSessionId) (hknow : w.Known sender)
    (hstal : w.isStale sender = false) {req : Request}
    (haff : w.affected sender req = some p) : ∀ entry ∈ w.log, entry.Fits (.effect p sender) := by
  obtain ⟨peer, hpeer⟩ : ∃ peer, w.rooms.getPeer sender.roomId p = some peer := by
    unfold affected at haff
    split at haff
    · split at haff
      next hsome =>
        cases haff
        exact isSome_iff_exists.mp hsome
      · cases haff
    · exact isSome_iff_exists.mp (filter_eq_some_iff.mp haff).2
    · cases haff
  refine (h.fits_iff hpeer).mpr fun hsend => ?_
  subst hsend
  obtain ⟨hjoined, -⟩ := h.le_of_known hknow hpeer
  have hsession := h.joined_pos hjoined
  have hcur := h.joined_pos (h.current hpeer).1
  -- neither session is `0`, so the worker has compared them
  rw [isStale, getPeer, hpeer] at hstal
  simp [hsession.ne', hcur.ne'] at hstal
  exact hstal.le

/-! ### Executing a task -/

/-- What executing a task comes to: the worker's invariant is kept, the log has grown, a join that
is to be completed is in it, and the sessions are still isolated exactly if `ok`. -/
structure Executed (log : List LogEntry) (nextSessionId : ℕ) (ok : Prop)
    (out : RoomWorker × List SessionCallback) : Prop where
  inv : out.1.Inv nextSessionId
  grows : ∀ entry ∈ log, entry ∈ out.1.log
  completions : ∀ {ws session}, .joinCompletion ws session .joined ∈ out.2 →
    .joined session ∈ out.1.log
  isolated : out.1.log.Pairwise LogEntry.Fits ↔ log.Pairwise LogEntry.Fits ∧ ok

theorem Executed.congr {log : List LogEntry} {ok' : Prop}
    {out : RoomWorker × List SessionCallback} (h : Executed log nextSessionId ok out)
    (hok : ok ↔ ok') : Executed log nextSessionId ok' out :=
  ⟨h.inv, h.grows, h.completions, h.isolated.trans (and_congr_right' hok)⟩

def NoCompletion (callbacks : List SessionCallback) : Prop :=
  ∀ ws session result, .joinCompletion ws session result ∉ callbacks

theorem Inv.dequeue (h : w.Inv nextSessionId)
    (htsk : w.tasks = task :: tasks) : { w with tasks := tasks }.Inv nextSessionId := by
  have hsub : ({ w with tasks := tasks }.sessions nextSessionId).Sublist
      (w.sessions nextSessionId) := by
    rw [sessions, sessions, htsk]
    exact ((((sublist_cons_self task tasks).filterMap _).append_right _)).append_left _
  exact ⟨h.ordered.sublist hsub, fun n hn => h.positive n (hsub.subset hn),
    fun hmem => h.joinsNamed (htsk ▸ mem_cons_of_mem _ hmem), h.logNamed, h.current,
    fun task hmem => h.senders task (htsk ▸ mem_cons_of_mem _ hmem)⟩

theorem Inv.of_effect (h : w.Inv nextSessionId) (htsk : w'.tasks = w.tasks)
    (hlog : w'.log = w.log ∨ ∃ p sender, w'.log = w.log ++ [.effect p sender])
    (hprs : ∀ r p peer, w'.rooms.getPeer r p = some peer → w.rooms.getPeer r p = some peer) :
    w'.Inv nextSessionId := by
  have hjoined : ∀ session, LogEntry.joined session ∈ w'.log ↔ .joined session ∈ w.log := by
    intro session
    rcases hlog with hlog | ⟨p, sender, hlog⟩ <;> simp [hlog]
  have hsess : w'.sessions nextSessionId = w.sessions nextSessionId := by
    rw [sessions, sessions, htsk]
    rcases hlog with hlog | ⟨p, sender, hlog⟩
    · rw [hlog]
    · rw [hlog, filterMap_append]
      simp [LogEntry.joinedSession?]
  refine ⟨hsess ▸ h.ordered, hsess ▸ h.positive, fun hmem => h.joinsNamed (htsk ▸ hmem),
    fun hmem => h.logNamed ((hjoined _).mp hmem), fun hpeer => ?_,
    fun task hmem sender hsend => ?_⟩
  · obtain ⟨hlast, hall⟩ := h.current (hprs _ _ _ hpeer)
    exact ⟨(hjoined _).mpr hlast, fun sessionId hmem => hall sessionId ((hjoined _).mp hmem)⟩
  · exact (h.senders task (htsk ▸ hmem) sender hsend).imp_right (hjoined _).mpr

theorem Inv.executed_same (h : w.Inv nextSessionId) (hnone : NoCompletion callbacks) (hok : ok) :
    Executed w.log nextSessionId ok (w, callbacks) where
  inv := h
  grows _ hmem := hmem
  completions hmem := absurd hmem (hnone _ _ _)
  isolated := (and_iff_left hok).symm

theorem pairwise_fits_concat (log : List LogEntry) (entry : LogEntry) :
    (log ++ [entry]).Pairwise LogEntry.Fits ↔
      log.Pairwise LogEntry.Fits ∧ ∀ earlier ∈ log, earlier.Fits entry := by
  simp [pairwise_append]

theorem Inv.executed_effect (h : w.Inv nextSessionId) (htsk : w'.tasks = w.tasks)
    (hlog : w'.log = w.log ++ [.effect p sender])
    (hprs : ∀ r p peer, w'.rooms.getPeer r p = some peer → w.rooms.getPeer r p = some peer)
    (hnone : NoCompletion callbacks) (hok : (∀ entry ∈ w.log, entry.Fits (.effect p sender)) ↔ ok) :
    Executed w.log nextSessionId ok (w', callbacks) where
  inv := h.of_effect htsk (.inr ⟨p, sender, hlog⟩) hprs
  grows entry hmem := by
    rw [hlog]
    exact mem_append_left _ hmem
  completions hmem := absurd hmem (hnone _ _ _)
  isolated := by
    rw [hlog, pairwise_fits_concat, hok]

theorem noCompletion_answer (ws : ℕ) (answer : Answer) : NoCompletion [.answer ws answer] := by
  intro ws session result
  simp

theorem Inv.request (h : w.Inv nextSessionId) (hknow : w.Known sender) (ws : ℕ) (req : Request)
    (env : TaskEnv) : Executed w.log nextSessionId True (w.request ws sender req env) := by
  unfold RoomWorker.request
  split
  · exact h.executed_same (noCompletion_answer _ _) trivial
  rename_i hstal
  split
  · exact h.executed_same (noCompletion_answer _ _) trivial
  split
  next haff =>
    refine h.executed_effect (by rfl) (by rfl) (by exact fun _ _ _ hpeer => hpeer)
      (noCompletion_answer _ _) ?_
    exact iff_true_intro
      (h.fits_request hknow (Bool.eq_false_of_not_eq_true hstal) haff)
  · exact h.executed_same (noCompletion_answer _ _) trivial

theorem Inv.fits_report (h : w.Inv nextSessionId) (hknow : w.Known sender)
    (hpeer : w.getPeer sender = some peer) :
    (∀ entry ∈ w.log, entry.Fits (.effect sender.peerId sender)) ↔
      (w.getPeer sender).map Peer.sessionId = some sender.sessionId := by
  rw [h.fits_iff hpeer, hpeer, map_some, some.injEq]
  exact ⟨fun hle => le_antisymm (hle rfl) (h.le_of_known hknow hpeer).2, fun heq _ => heq.le⟩

theorem getPeer_eq_some {room : Room} (hroom : w.rooms.getRoom session.roomId = some room)
    (hpeer : room.getPeer session.peerId = some peer) : w.getPeer session = some peer := by
  rw [getPeer, RoomManager.getPeer, hroom, bind_some, hpeer]

theorem getPeer_of_isStored {nowMs : ℤ}
    (h : (∃ snapshot, (w.setClientStats session snapshot nowMs).isStored) ∨
      ∃ stats, (w.setDownlinkClientStats session stats nowMs).isStored) :
    ∃ peer, w.getPeer session = some peer := by
  unfold setClientStats setDownlinkClientStats at h
  cases hroom : w.rooms.getRoom session.roomId with
  | none => simp [hroom, StoreResult.isStored] at h
  | some room =>
    cases hpeer : room.getPeer session.peerId with
    | none => simp [hroom, hpeer, StoreResult.isStored] at h
    | some peer => exact ⟨peer, getPeer_eq_some hroom hpeer⟩

def OwnReport (w : RoomWorker) (stored : Bool) (sender : SessionRef) : Prop :=
  stored = true → (w.getPeer sender).map Peer.sessionId = some sender.sessionId

theorem ownReport_iff {env : TaskEnv} {stored : Bool}
    (hsend : task.sender? = some sender) (hstor : w.stores env task = stored) :
    w.OwnReport stored sender ↔ (w.stores env task → ∀ sender ∈ task.sender?,
      (w.getPeer sender).map Peer.sessionId = some sender.sessionId) := by
  rw [hsend, hstor]
  simp only [OwnReport, mem_def, some.injEq, forall_eq']

section

variable (h : w.Inv nextSessionId)
include h

theorem Inv.clientStats (hknow : w.Known sender) (ws : ℕ) (snapshot : ClientQosSnapshot)
    (env : TaskEnv) : Executed w.log nextSessionId
      (w.OwnReport (w.setClientStats sender snapshot env.nowMs).isStored sender)
      (w.clientStats ws sender snapshot env) := by
  unfold RoomWorker.clientStats
  cases hres : w.setClientStats sender snapshot env.nowMs with
  | error | rejected =>
    exact h.executed_same (noCompletion_answer _ _) nofun
  | stored registry =>
    obtain ⟨_, hpeer⟩ := getPeer_of_isStored (.inl ⟨snapshot, by rw [hres]; rfl⟩)
    refine h.executed_effect (by rfl) (by rfl) (by exact fun _ _ _ hpeer => hpeer)
      (noCompletion_answer _ _) ?_
    exact (h.fits_report hknow hpeer).trans ⟨fun heq _ => heq, fun hown => hown rfl⟩

theorem Inv.downlinkClientStats (hknow : w.Known sender) (ws : ℕ) (snapshot : DownlinkSnapshot)
    (env : TaskEnv) : Executed w.log nextSessionId
      (w.OwnReport (w.setDownlinkClientStats sender snapshot env.nowMs).isStored sender)
      (w.downlinkClientStats ws sender snapshot env) := by
  have hnone : ∀ stored answer, NoCompletion [.downlinkStats ws
      (wsMapKey sender.roomId sender.peerId) snapshot.seq stored answer] := by
    intro stored answer ws session result
    simp
  unfold RoomWorker.downlinkClientStats
  cases hres : w.setDownlinkClientStats sender snapshot env.nowMs with
  | error | rejected => exact h.executed_same (hnone _ _) nofun
  | stored registry =>
    obtain ⟨_, hpeer⟩ := getPeer_of_isStored (.inr ⟨snapshot, by rw [hres]; rfl⟩)
    refine h.executed_effect (by rfl) (by rfl) (by exact fun _ _ _ hpeer => hpeer) (hnone _ _) ?_
    exact (h.fits_report hknow hpeer).trans ⟨fun heq _ => heq, fun hown => hown rfl⟩

theorem Inv.leaveIfSessionMatches (session : SessionRef) :
    Executed w.log nextSessionId True (w.leaveIfSessionMatches session) := by
  unfold RoomWorker.leaveIfSessionMatches
  dsimp only
  split
  next hmat =>
    rw [Bool.and_eq_true, Option.any_eq_true] at hmat
    obtain ⟨-, _, hpeer, hsession⟩ := hmat
    refine h.executed_effect (by rfl) (by rfl)
      (by exact fun _ _ _ hpeer => getPeer_of_leaveIfSessionMatches hpeer) ?_ ?_
    · intro ws session result
      split <;> simp
    · exact iff_true_intro ((h.fits_iff hpeer).mpr fun _ => (of_decide_eq_true hsession).le)
  · exact h.executed_same (fun _ _ _ => not_mem_nil) trivial

theorem Inv.joined {ws : ℕ} {newSessionId : ℕ}
    (htsk : w.tasks = .join ws req newSessionId :: tasks) (htsk' : w'.tasks = tasks)
    (hlog : w'.log = w.log ++ [.joined ⟨req.roomId, req.peerId, newSessionId⟩])
    (hprs : ∀ r p, w'.rooms.getPeer r p =
      if r = req.roomId ∧ p = req.peerId then some ⟨newSessionId⟩ else w.rooms.getPeer r p) :
    w'.Inv nextSessionId := by
  have hsess : w'.sessions nextSessionId = w.sessions nextSessionId := by
    rw [sessions, sessions, hlog, htsk', htsk, filterMap_append]
    simp [LogEntry.joinedSession?, SessionTask.newSession?]
  have hlater : ∀ {session}, LogEntry.joined session ∈ w.log →
      session.sessionId < newSessionId := by
    intro session hmem
    refine (pairwise_append.mp h.ordered).2.2 _ (mem_filterMap.mpr ⟨_, hmem, rfl⟩) _ ?_
    rw [htsk]
    exact mem_cons_self
  have hmem : ∀ session, LogEntry.joined session ∈ w'.log ↔
      .joined session ∈ w.log ∨ session = ⟨req.roomId, req.peerId, newSessionId⟩ := by
    intro session
    rw [hlog, mem_append, mem_singleton, LogEntry.joined.injEq]
  refine ⟨hsess ▸ h.ordered, hsess ▸ h.positive,
    fun hjoin => h.joinsNamed (htsk ▸ mem_cons_of_mem _ (htsk' ▸ hjoin)),
    fun {session} hjoined => ?_, fun {r p peer} hpeer => ?_, fun task htask sender hsend => ?_⟩
  · rcases (hmem session).mp hjoined with hold | rfl
    · exact h.logNamed hold
    · exact h.joinsNamed (htsk ▸ mem_cons_self)
  · rw [hprs] at hpeer
    split_ifs at hpeer with heq
    · cases hpeer
      obtain ⟨rfl, rfl⟩ := heq
      refine ⟨(hmem _).mpr (.inr rfl), fun sessionId hjoined => ?_⟩
      rcases (hmem _).mp hjoined with hold | hnew
      · exact (hlater hold).le
      · exact (congrArg SessionRef.sessionId hnew).le
    · obtain ⟨hlast, hall⟩ := h.current hpeer
      refine ⟨(hmem _).mpr (.inl hlast), fun sessionId hjoined => ?_⟩
      rcases (hmem _).mp hjoined with hold | hnew
      · exact hall sessionId hold
      · injection hnew with hr hp
        exact absurd ⟨hr, hp⟩ heq
  · have htask := htsk ▸ mem_cons_of_mem _ (htsk' ▸ htask)
    exact (h.senders task htask sender hsend).imp_right fun hknow => (hmem _).mpr (.inl hknow)

theorem Inv.join {ws : ℕ} {newSessionId : ℕ} (htsk : w.tasks = .join ws req newSessionId :: tasks)
    (env : TaskEnv) :
    Executed w.log nextSessionId True ({ w with tasks := tasks }.join ws req newSessionId env) := by
  have hprs := getPeer_dispatchJoin w.rooms req newSessionId env.answer env.routerCreated
  unfold RoomWorker.join
  dsimp only
  cases hjoin : dispatchJoin w.rooms req newSessionId env.answer env.routerCreated with
  | mk result rooms =>
  rw [hjoin] at hprs
  dsimp only at hprs ⊢
  split
  next hjoined =>
    subst hjoined
    simp only [true_and] at hprs
    generalize hw : (if ({ w with tasks := tasks }.getPeer
      ⟨req.roomId, req.peerId, newSessionId⟩).isSome
        then { w with tasks := tasks }.erasePeer req.roomId req.peerId
        else { w with tasks := tasks }) = w₁
    have hsame : w₁.log = w.log ∧ w₁.tasks = tasks := by
      subst hw
      split <;> exact ⟨rfl, rfl⟩
    have hlog : ({ w₁ with rooms := rooms }.record
        (.joined ⟨req.roomId, req.peerId, newSessionId⟩)).log =
          w.log ++ [.joined ⟨req.roomId, req.peerId, newSessionId⟩] := by
      rw [← hsame.1]
      rfl
    refine ⟨h.joined htsk hsame.2 hlog hprs, fun entry hmem => ?_,
      fun {ws session} hmem => ?_, ?_⟩
    · rw [hlog]
      exact mem_append_left _ hmem
    · rw [hlog]
      split at hmem <;> simp_all
    rw [hlog, pairwise_fits_concat]
    refine and_congr_right fun _ => iff_true_intro fun earlier _ => ?_
    cases earlier <;> trivial
  next hfail =>
    have hinv : { w with tasks := tasks, rooms := rooms }.Inv nextSessionId :=
      (h.dequeue htsk).of_effect rfl (.inl rfl) fun r p peer hpeer => by
        rwa [hprs, if_neg fun hjoined => hfail hjoined.1] at hpeer
    refine ⟨hinv, fun _ hmem => hmem, fun {ws session} hmem => ?_, (and_iff_left trivial).symm⟩
    split at hmem <;> simp_all

theorem Inv.executed_ite {service : Bool} {out : RoomWorker × List SessionCallback}
    (hon : service → Executed w.log nextSessionId ok out) (hnone : NoCompletion callbacks)
    (hok : service = false → ok) :
    Executed w.log nextSessionId ok (if service then out else (w, callbacks)) := by
  cases service with
  | true => exact hon rfl
  | false => exact h.executed_same hnone (hok rfl)

theorem Inv.execute (htsk : w.tasks = task :: tasks) (env : TaskEnv) :
    Executed w.log nextSessionId (w.stores env task → ∀ sender ∈ task.sender?,
        (w.getPeer sender).map Peer.sessionId = some sender.sessionId)
      ({ w with tasks := tasks }.execute env task) := by
  have hdeq := h.dequeue htsk
  have hknow := h.senders task (htsk ▸ mem_cons_self)
  cases task with
  | join ws req newSessionId =>
    refine hdeq.executed_ite (fun _ => ?_) (by intro ws session result; simp)
      nofun
    exact (h.join htsk env).congr (iff_of_true trivial nofun)
  | request ws sender req =>
    refine hdeq.executed_ite (fun _ => ?_) (by intro ws session result; simp)
      nofun
    exact (hdeq.request (hknow sender rfl) ws req env).congr
      (iff_of_true trivial nofun)
  | clientStats ws sender snapshot =>
    refine hdeq.executed_ite (fun hserv => ?_) (noCompletion_answer _ _)
      fun hserv hstor => ?_
    · refine (hdeq.clientStats (hknow sender rfl) ws snapshot env).congr ?_
      exact @ownReport_iff w sender _ env _ rfl (congrArg (· && _) hserv)
    · have hon := (Bool.and_eq_true_iff.mp hstor).1
      cases hserv.symm.trans hon
  | downlinkClientStats ws sender snapshot =>
    refine hdeq.executed_ite (fun hserv => ?_) (by intro ws session result; simp)
      fun hserv hstor => ?_
    · refine (hdeq.downlinkClientStats (hknow sender rfl) ws snapshot env).congr ?_
      exact @ownReport_iff w sender _ env _ rfl (congrArg (· && _) hserv)
    · have hon := (Bool.and_eq_true_iff.mp hstor).1
      cases hserv.symm.trans hon
  | leave session =>
    refine hdeq.executed_ite (fun _ => ?_) (fun _ _ _ => not_mem_nil)
      nofun
    exact (hdeq.leaveIfSessionMatches session).congr
      (iff_of_true trivial nofun)

end

/-! ### Queueing a join -/

section

variable (h : w.Inv nextSessionId)
include h

theorem Inv.le_next {n : ℕ} (hn : n ∈ w.sessions nextSessionId) : n ≤ nextSessionId := by
  have hord := h.ordered
  rw [sessions, ← append_assoc] at hn hord
  rcases mem_append.mp hn with hn | hn
  · exact ((pairwise_append.mp hord).2.2 n hn _ (mem_singleton_self _)).le
  · exact (mem_singleton.mp hn).le

theorem Inv.skip : w.Inv (nextSessionId + 1) := by
  have hord := h.ordered
  rw [sessions, ← append_assoc, pairwise_append] at hord
  obtain ⟨hbef, -, hlast⟩ := hord
  refine ⟨?_, fun n hn => ?_, h.joinsNamed, h.logNamed, h.current, h.senders⟩
  · rw [sessions, ← append_assoc, pairwise_append]
    refine ⟨hbef, pairwise_singleton _ _, fun n hn m hm => ?_⟩
    rw [mem_singleton.mp hm]
    exact Nat.lt_succ_of_lt (hlast n hn _ (mem_singleton_self _))
  rw [sessions, ← append_assoc] at hn
  rcases mem_append.mp hn with hn | hn
  · refine h.positive n ?_
    rw [sessions, ← append_assoc]
    exact mem_append_left _ hn
  · rw [mem_singleton.mp hn]
    exact Nat.succ_pos _

theorem Inv.queueJoin (hroom : req.roomId ≠ "") (ws : ℕ) :
    { w with tasks := w.tasks ++ [SessionTask.join ws req nextSessionId] }.Inv
      (nextSessionId + 1) := by
  have hsess : { w with tasks := w.tasks ++ [SessionTask.join ws req nextSessionId] }.sessions
      (nextSessionId + 1) = w.sessions nextSessionId ++ [nextSessionId + 1] := by
    simp [sessions, SessionTask.newSession?]
  refine ⟨?_, fun n hn => ?_, fun {ws' req' n} hmem => ?_, h.logNamed, h.current,
    fun task hmem sender hsend => ?_⟩
  · rw [hsess, pairwise_append]
    refine ⟨h.ordered, pairwise_singleton _ _, fun n hn m hm => ?_⟩
    rw [mem_singleton.mp hm]
    exact Nat.lt_succ_of_le (h.le_next hn)
  · rw [hsess] at hn
    rcases mem_append.mp hn with hn | hn
    · exact h.positive n hn
    · rw [mem_singleton.mp hn]
      exact Nat.succ_pos _
  · rcases mem_append.mp hmem with hmem | hmem
    · exact h.joinsNamed hmem
    · injection mem_singleton.mp hmem with _ hreq
      exact hreq ▸ hroom
  · rcases mem_append.mp hmem with hmem | hmem
    · exact h.senders task hmem sender hsend
    · rw [mem_singleton.mp hmem] at hsend
      cases hsend

theorem Inv.queue (hnew : task.newSession? = none)
    (hsend : ∀ sender ∈ task.sender?, w.Known sender) :
    { w with tasks := w.tasks ++ [task] }.Inv nextSessionId := by
  have hsess : { w with tasks := w.tasks ++ [task] }.sessions nextSessionId =
      w.sessions nextSessionId := by
    simp [sessions, hnew]
  refine ⟨hsess ▸ h.ordered, hsess ▸ h.positive, fun {ws req n} hmem => ?_, h.logNamed,
    h.current, fun task' hmem => ?_⟩
  · rcases mem_append.mp hmem with hmem | hmem
    · exact h.joinsNamed hmem
    · rw [← mem_singleton.mp hmem] at hnew
      cases hnew
  · rcases mem_append.mp hmem with hmem | hmem
    · exact h.senders task' hmem
    · rw [mem_singleton.mp hmem]
      exact hsend

end

end RoomWorker

/-! ### The loop -/

namespace SessionServer

variable {s s' : SessionServer} {ws : ℕ}

theorem ne_empty_of_isValidJoinId {value : String} (h : isValidJoinId value) :
    value ≠ "" := by
  rintro rfl
  cases h

theorem selectWorker_eq {roomId : String} (h : s.selectWorker roomId = some s') :
    ∃ roomDispatch destroyedRooms,
      s' = { s with roomDispatch := roomDispatch, destroyedRooms := destroyedRooms } := by
  unfold SessionServer.selectWorker at h
  split at h
  · exact ⟨_, _, (some.inj h).symm⟩
  split at h
  · cases h
  · exact ⟨_, _, (some.inj h).symm⟩

theorem joinRequest_cases (s : SessionServer) (ws : ℕ) (req : JoinRequestContext) :
    s.joinRequest ws req = s ∨ (∃ answer, s.joinRequest ws req = s.send ws answer) ∨
      (∃ answer, s.joinRequest ws req =
        { s with nextSessionId := s.nextSessionId + 1 }.send ws answer) ∨
      ((s.sockets ws).alive ∧ ¬s.hasMappedSession ws ∧
        (s.sockets ws).pendingSessionId = 0 ∧ req.roomId ≠ "" ∧ req.peerId ≠ "" ∧
        ∃ roomDispatch destroyedRooms, s.joinRequest ws req =
          ({ s with
            nextSessionId := s.nextSessionId + 1
            roomDispatch := roomDispatch
            destroyedRooms := destroyedRooms }.setSocket ws
              ((s.sockets ws).setPendingSocketJoin req.roomId req.peerId s.nextSessionId)).post
                (.join ws req s.nextSessionId)) := by
  unfold joinRequest
  dsimp only
  split
  · exact .inl rfl
  rename_i halive
  rw [Bool.not_eq_true', Bool.not_eq_false] at halive
  split
  · exact .inr (.inl ⟨_, rfl⟩)
  rename_i hfree
  rw [Bool.or_eq_true, not_or, bne_iff_ne, not_ne_iff] at hfree
  split
  · exact .inr (.inl ⟨_, rfl⟩)
  rename_i hval
  rw [Bool.not_eq_true', Bool.not_eq_false, Bool.and_eq_true] at hval
  split
  · exact .inr (.inr (.inl ⟨_, rfl⟩))
  rename_i hsel
  obtain ⟨roomDispatch, destroyedRooms, rfl⟩ := selectWorker_eq hsel
  exact .inr (.inr (.inr ⟨halive, hfree.1, hfree.2, ne_empty_of_isValidJoinId hval.1,
    ne_empty_of_isValidJoinId hval.2, _, _, rfl⟩))

theorem completeJoin_cases (s : SessionServer) (ws : ℕ) (session : SessionRef)
    (result : JoinResult) : s.completeJoin ws session result = s.post (.leave session) ∨
      (result = .joined ∧ (s.sockets ws).alive ∧ s.completeJoin ws session result =
        ((s.registerJoinedSocket ws session).assignRoom session.roomId).send ws (.join result)) ∨
      ∃ roomDispatch, s.completeJoin ws session result = { s with roomDispatch := roomDispatch } ∨
        (s.sockets ws).alive ∧ ∃ answer, s.completeJoin ws session result =
          ({ s with roomDispatch := roomDispatch }.clearPendingJoin ws session.sessionId).send ws
            answer := by
  unfold completeJoin
  dsimp only
  split
  next hjoined =>
    split
    · exact .inl rfl
    rename_i halive
    rw [Bool.not_eq_true', Bool.not_eq_false] at halive
    split
    · exact .inr (.inr ⟨s.roomDispatch.erase session.roomId, .inr ⟨halive, .error _, rfl⟩⟩)
    · exact .inr (.inl ⟨hjoined, halive, rfl⟩)
  · have hroom : ∃ roomDispatch, (if (!s.worker.roomService ||
        (s.worker.rooms.getRoom session.roomId).isNone) = true then s.unassignRoom session.roomId
          else s) = { s with roomDispatch := roomDispatch } := by
      split <;> exact ⟨_, rfl⟩
    obtain ⟨roomDispatch, hroom⟩ := hroom
    rw [hroom]
    refine .inr (.inr ⟨roomDispatch, ?_⟩)
    split
    · exact .inl rfl
    rename_i halive
    rw [Bool.not_eq_true', Bool.not_eq_false] at halive
    exact .inr ⟨halive, _, rfl⟩

theorem request_cases (s : SessionServer) (ws : ℕ) (req : Request) :
    s.request ws req = s ∨ (∃ answer, s.request ws req = s.send ws answer) ∨
      s.request ws req = s.post (.request ws (s.sockets ws).sender req) := by
  unfold request
  dsimp only
  split
  · exact .inl rfl
  split
  · exact .inr (.inl ⟨_, rfl⟩)
  · exact .inr (.inr rfl)

theorem clientStats_cases (s : SessionServer) (ws : ℕ) (data : Except String ClientQosSnapshot) :
    s.clientStats ws data = s ∨ (∃ answer, s.clientStats ws data = s.send ws answer) ∨
      ∃ snapshot, s.clientStats ws data =
        s.post (.clientStats ws (s.sockets ws).sender snapshot) := by
  unfold clientStats
  dsimp only
  split
  · exact .inl rfl
  split
  · exact .inr (.inl ⟨_, rfl⟩)
  split
  · exact .inr (.inl ⟨_, rfl⟩)
  split
  · exact .inr (.inl ⟨_, rfl⟩)
  split
  · exact .inr (.inl ⟨_, rfl⟩)
  · exact .inr (.inr ⟨_, rfl⟩)

theorem downlinkClientStats_cases (s : SessionServer) (ws : ℕ)
    (data : Except String DownlinkSnapshot) (nowMs : ℤ) : s.downlinkClientStats ws data nowMs = s ∨
      (∃ answer, s.downlinkClientStats ws data nowMs = s.send ws answer) ∨ ∃ snapshot,
        let sd := s.sockets ws
        let mapKey := wsMapKey sd.roomId sd.peerId
        let state := (s.downlinkStatsRateLimit.lookup mapKey).getD {}
        data = .ok snapshot ∧ sd.alive ∧ s.hasMappedSession ws ∧
          (state.isAdvancingDownlinkSeq snapshot.seq → state.pending →
            100 < nowMs - state.pendingSinceMs) ∧ s.downlinkClientStats ws data nowMs =
            { s with
              downlinkStatsRateLimit := s.downlinkStatsRateLimit.insert mapKey
                (state.forward snapshot.seq nowMs) }.post
                  (.downlinkClientStats ws sd.sender snapshot) := by
  unfold downlinkClientStats
  dsimp only
  split
  · exact .inl rfl
  rename_i halive
  split
  · exact .inr (.inl ⟨_, rfl⟩)
  split
  · exact .inr (.inl ⟨_, rfl⟩)
  rename_i hmap
  split
  · exact .inr (.inl ⟨_, rfl⟩)
  rename_i snapshot
  split
  · exact .inr (.inl ⟨_, rfl⟩)
  split
  · exact .inr (.inl ⟨_, rfl⟩)
  rename_i hlim
  rw [Bool.not_eq_true', Bool.not_eq_false] at halive hmap
  refine .inr (.inr ⟨snapshot, rfl, halive, hmap, fun hadv hpend => ?_, rfl⟩)
  rw [hadv, hpend, Bool.true_and, Bool.true_and, decide_eq_true_eq] at hlim
  exact Int.lt_of_not_ge hlim

theorem closeSocket_cases (s : SessionServer) (ws : ℕ) :
    s.closeSocket ws = s ∨ ∃ peers downlinkStatsRateLimit, let sd := s.sockets ws
      let mapKey := wsMapKey sd.roomId sd.peerId
      let s' := { s.setSocket ws
          { sd with alive := false, closed := true }.clearPendingSocketJoin with
        peers := peers, downlinkStatsRateLimit := downlinkStatsRateLimit }
      (peers = s.peers ∧ downlinkStatsRateLimit = s.downlinkStatsRateLimit ∨
        s.peers.lookup mapKey = some ws ∧ peers = s.peers.erase mapKey ∧
          downlinkStatsRateLimit = s.downlinkStatsRateLimit.erase mapKey) ∧
      (s.closeSocket ws = s' ∨ ∃ session, s.closeSocket ws = s'.post (.leave session)) := by
  unfold closeSocket
  dsimp only [setSocket]
  split
  · exact .inl rfl
  refine .inr ?_
  generalize (if (s.sockets ws).sessionId = 0 ∧ (s.sockets ws).pendingSessionId ≠ 0 then
    (⟨(s.sockets ws).pendingRoomId, (s.sockets ws).pendingPeerId,
      (s.sockets ws).pendingSessionId⟩ : SessionRef) else (s.sockets ws).sender) = session
  by_cases hmap : (s.sockets ws).sessionId ≠ 0 ∧ (s.sockets ws).peerId ≠ "" ∧
      s.peers.lookup (wsMapKey (s.sockets ws).roomId (s.sockets ws).peerId) = some ws
  · refine ⟨_, _, .inr ⟨hmap.2.2, rfl, rfl⟩, ?_⟩
    rw [if_pos hmap]
    split
    · exact .inr ⟨_, rfl⟩
    · exact .inl rfl
  · refine ⟨_, _, .inl ⟨rfl, rfl⟩, ?_⟩
    rw [if_neg hmap]
    split
    · exact .inr ⟨_, rfl⟩
    · exact .inl rfl

structure Quiet (s s' : SessionServer) : Prop where
  inv : s'.Inv
  log : s'.worker.log = s.worker.log

theorem Quiet.trans {s'' : SessionServer} (h : s.Quiet s') (h' : s'.Quiet s'') : s.Quiet s'' :=
  ⟨h'.inv, h'.log.trans h.log⟩

section

variable (h : s.Inv)
include h

theorem Inv.quiet : s.Quiet s := ⟨h, rfl⟩

theorem Inv.tables (peers : Dict String ℕ) (roomDispatch destroyedRooms : Finset String)
    (downlinkStatsRateLimit : Dict String DownlinkStatsRateLimitState) (sent : List (ℕ × Answer)) :
    s.Quiet { s with
      peers := peers
      roomDispatch := roomDispatch
      destroyedRooms := destroyedRooms
      downlinkStatsRateLimit := downlinkStatsRateLimit
      sent := sent } :=
  ⟨⟨h.worker, h.sockets, h.completions⟩, rfl⟩

theorem Inv.send (ws : ℕ) (answer : Answer) : s.Quiet (s.send ws answer) := h.tables ..

variable (roomId : String)

theorem Inv.assignRoom : s.Quiet (s.assignRoom roomId) := h.tables ..

theorem Inv.unassignRoom : s.Quiet (s.unassignRoom roomId) :=
  h.tables ..

theorem Inv.sendIfAlive (ws : ℕ) (answer : Answer) : s.Quiet (s.sendIfAlive ws answer) := by
  unfold SessionServer.sendIfAlive
  split
  · exact h.send ws answer
  · exact h.quiet

theorem Inv.updateRateLimit (mapKey : String)
    (f : DownlinkStatsRateLimitState → DownlinkStatsRateLimitState) :
    s.Quiet (s.updateRateLimit mapKey f) := by
  unfold SessionServer.updateRateLimit
  split
  · exact h.quiet
  · exact h.tables ..

theorem Inv.known_setSocket {sd : PerSocketData} (hknow : s.worker.Known sd.sender) (ws' : ℕ) :
    s.worker.Known ((s.setSocket ws sd).sockets ws').sender := by
  change s.worker.Known (Function.update s.sockets ws sd ws').sender
  rw [Function.update_apply]
  split
  · exact hknow
  · exact h.sockets ws'

theorem Inv.setSocket {sd : PerSocketData} (hknow : s.worker.Known sd.sender) :
    s.Quiet (s.setSocket ws sd) :=
  ⟨⟨h.worker, h.known_setSocket hknow, h.completions⟩, rfl⟩

theorem Inv.dropSocket (ws : ℕ) : s.Quiet (s.setSocket ws { s.sockets ws with alive := false }) :=
  h.setSocket (h.sockets ws)

theorem Inv.clearPendingJoin (ws sessionId : ℕ) : s.Quiet (s.clearPendingJoin ws sessionId) := by
  refine h.setSocket ?_
  have hsame : ((s.sockets ws).clearPendingSocketJoinIfMatches sessionId).sender =
      (s.sockets ws).sender := by
    unfold PerSocketData.clearPendingSocketJoinIfMatches
    split <;> rfl
  rw [hsame]
  exact h.sockets ws

theorem Inv.post {task : SessionTask} (hnew : task.newSession? = none)
    (hsend : ∀ sender ∈ task.sender?, s.worker.Known sender) : s.Quiet (s.post task) :=
  ⟨⟨h.worker.queue hnew hsend, h.sockets, h.completions⟩, rfl⟩

theorem Inv.post_leave (session : SessionRef) : s.Quiet (s.post (.leave session)) :=
  h.post rfl nofun

theorem Inv.post_sent (ws : ℕ) {task : SessionTask} (hnew : task.newSession? = none)
    (hsend : task.sender? = some (s.sockets ws).sender) : s.Quiet (s.post task) :=
  h.post hnew fun sender hmem => by
    rw [hsend] at hmem
    cases hmem
    exact h.sockets ws

theorem Inv.joinRequest (ws : ℕ) (req : JoinRequestContext) : s.Quiet (s.joinRequest ws req) := by
  obtain heq | ⟨answer, heq⟩ | ⟨answer, heq⟩ | ⟨-, -, -, hroom, -, _, _,
    heq⟩ := s.joinRequest_cases ws req <;> rw [heq]
  · exact h.quiet
  · exact h.send ..
  · have hskip : s.Quiet { s with nextSessionId := s.nextSessionId + 1 } :=
      ⟨⟨h.worker.skip, h.sockets, h.completions⟩, rfl⟩
    exact hskip.trans (hskip.inv.send ..)
  · refine ⟨⟨h.worker.queueJoin hroom ws, h.known_setSocket ?_, h.completions⟩, rfl⟩
    -- a pending join does not change the session of the socket
    exact h.sockets ws

theorem Inv.request (ws : ℕ) (req : Request) : s.Quiet (s.request ws req) := by
  obtain heq | ⟨_, heq⟩ | heq := s.request_cases ws req <;> rw [heq]
  · exact h.quiet
  · exact h.send ..
  · exact h.post_sent ws rfl rfl

theorem Inv.clientStats (ws : ℕ) (data : Except String ClientQosSnapshot) :
    s.Quiet (s.clientStats ws data) := by
  obtain heq | ⟨_, heq⟩ | ⟨_, heq⟩ := s.clientStats_cases ws data <;> rw [heq]
  · exact h.quiet
  · exact h.send ..
  · exact h.post_sent ws rfl rfl

theorem Inv.downlinkClientStats (ws : ℕ) (data : Except String DownlinkSnapshot) (nowMs : ℤ) :
    s.Quiet (s.downlinkClientStats ws data nowMs) := by
  obtain heq | ⟨_, heq⟩ | ⟨_, -, -, -, -, heq⟩ :=
    s.downlinkClientStats_cases ws data nowMs <;> rw [heq]
  · exact h.quiet
  · exact h.send ..
  · have hlim := h.tables s.peers s.roomDispatch s.destroyedRooms
    exact (hlim _ _).trans ((hlim _ _).inv.post_sent ws rfl rfl)

theorem Inv.closeSocket (ws : ℕ) : s.Quiet (s.closeSocket ws) := by
  have hsock : s.Quiet (s.setSocket ws
      { s.sockets ws with alive := false, closed := true }.clearPendingSocketJoin) :=
    h.setSocket (h.sockets ws)
  have hqt := fun peers downlinkStatsRateLimit => hsock.trans
    (hsock.inv.tables peers s.roomDispatch s.destroyedRooms downlinkStatsRateLimit s.sent)
  obtain heq | ⟨peers, downlinkStatsRateLimit, -, heq | ⟨session, heq⟩⟩ :=
    s.closeSocket_cases ws <;> rw [heq]
  · exact h.quiet
  · exact hqt ..
  · exact (hqt ..).trans ((hqt ..).inv.post_leave session)

theorem Inv.registerJoinedSocket (ws : ℕ) {session : SessionRef}
    (hjoined : .joined session ∈ s.worker.log) : s.Quiet (s.registerJoinedSocket ws session) := by
  unfold SessionServer.registerJoinedSocket
  dsimp only
  have hsock : s.Quiet (s.setSocket ws { s.sockets ws with
      roomId := session.roomId
      peerId := session.peerId
      sessionId := session.sessionId }.clearPendingSocketJoin) :=
    h.setSocket (.inr hjoined)
  split
  next oldWs _ =>
    split
    · have hold := hsock.trans (hsock.inv.dropSocket oldWs)
      exact hold.trans (hold.inv.tables ..)
    · exact hsock.trans (hsock.inv.tables ..)
  · exact hsock.trans (hsock.inv.tables ..)

theorem Inv.completeJoin (ws : ℕ) {session : SessionRef} {result : JoinResult}
    (hjoined : result = .joined → .joined session ∈ s.worker.log) :
    s.Quiet (s.completeJoin ws session result) := by
  obtain heq | ⟨hres, -, heq⟩ | ⟨roomDispatch, heq | ⟨-, _, heq⟩⟩ :=
    s.completeJoin_cases ws session result <;> rw [heq]
  · exact h.post_leave session
  · have hreg := h.registerJoinedSocket ws (hjoined hres)
    have hasg := hreg.trans (hreg.inv.assignRoom session.roomId)
    exact hasg.trans (hasg.inv.send ..)
  · exact h.tables ..
  · have hroom : s.Quiet { s with roomDispatch := roomDispatch } := h.tables ..
    have hclear := hroom.trans (hroom.inv.clearPendingJoin ws session.sessionId)
    exact hclear.trans (hclear.inv.send ..)

theorem Inv.runCallback {callback : SessionCallback}
    (hjoined : ∀ {ws session}, callback = .joinCompletion ws session .joined →
      .joined session ∈ s.worker.log) : s.Quiet (s.runCallback callback) := by
  cases callback with
  | roomLifecycle roomId created =>
    unfold SessionServer.runCallback
    dsimp only
    split <;> exact h.tables ..
  | workerNotReady ws join =>
    cases join with
    | none => exact h.sendIfAlive ..
    | some join =>
      have hun := h.unassignRoom join.1
      unfold SessionServer.runCallback
      dsimp only
      split
      · have hclear := hun.trans (hun.inv.clearPendingJoin ws join.2)
        exact hclear.trans (hclear.inv.send ..)
      · exact hun
  | joinCompletion ws session result =>
    exact h.completeJoin ws fun hres => hjoined (by rw [hres])
  | answer ws answer => exact h.sendIfAlive ..
  | downlinkStats ws mapKey seq stored answer =>
    have hlim := h.updateRateLimit mapKey fun state =>
      if stored then state.markAcceptedDownlinkSeq seq
      else state.clearPendingDownlinkSeqIfMatches seq
    exact hlim.trans (hlim.inv.sendIfAlive ..)
  | downlinkSnapshotApplied mapKey seq => exact h.updateRateLimit ..

theorem Inv.runDeferred : s.Quiet s.runDeferred := by
  unfold SessionServer.runDeferred
  split
  · exact h.quiet
  rename_i callbacks hdef
  have hrest : s.Quiet { s with deferred := callbacks } :=
    ⟨⟨h.worker, h.sockets, fun hmem => h.completions (hdef ▸ mem_cons_of_mem _ hmem)⟩, rfl⟩
  refine hrest.trans (hrest.inv.runCallback fun hcb => ?_)
  apply h.completions
  rw [hdef, hcb]
  exact mem_cons_self

theorem Inv.defer {callback : SessionCallback}
    (hnone : ∀ ws session result, callback ≠ .joinCompletion ws session result) :
    s.Quiet { s with deferred := s.deferred ++ [callback] } := by
  refine ⟨⟨h.worker, h.sockets, fun {ws session} hmem => ?_⟩, rfl⟩
  rcases mem_append.mp hmem with hmem | hmem
  · exact h.completions hmem
  · exact absurd (mem_singleton.mp hmem).symm (hnone _ _ _)

theorem Inv.destroyRoom : s.Quiet (s.destroyRoom roomId) := by
  unfold SessionServer.destroyRoom
  split
  · have hwork : s.Quiet { s with worker := { s.worker with
        rooms := s.worker.rooms.removeRoom roomId
        qosRegistry := s.worker.qosRegistry.erase roomId
        downlinkQosRegistry := s.worker.downlinkQosRegistry.erase roomId } } :=
      ⟨⟨h.worker.of_effect rfl (.inl rfl)
        (fun _ _ _ hpeer => getPeer_of_removeRoom hpeer), h.sockets, h.completions⟩,
        rfl⟩
    exact hwork.trans (hwork.inv.defer (by simp))
  · exact h.quiet

end

/-! ### One step, and runs -/

theorem Inv.runTask (h : s.Inv) (env : TaskEnv) : (s.runTask env).Inv ∧
      ((s.runTask env).Isolated ↔ s.Isolated ∧ s.OwnSession (.runTask env)) := by
  unfold SessionServer.runTask
  split
  next hemp =>
    refine ⟨h, (and_iff_left ?_).symm⟩
    intro task htask
    rw [hemp] at htask
    cases htask
  rename_i task tasks htsk
  have hexec := h.worker.execute htsk env
  refine ⟨⟨hexec.inv, fun ws => (h.sockets ws).mono hexec.grows,
    fun {ws session} hmem => ?_⟩, ?_⟩
  · rcases mem_append.mp hmem with hmem | hmem
    · exact hexec.grows _ (h.completions hmem)
    · exact hexec.completions hmem
  · refine hexec.isolated.trans (and_congr_right fun _ => ?_)
    simp only [OwnSession, htsk, List.head?_cons, mem_def, some.injEq, forall_eq']

theorem Inv.step (h : s.Inv) (e : SessionEvent) :
    (sessionStep s e).Inv ∧ ((sessionStep s e).Isolated ↔ s.Isolated ∧ s.OwnSession e) := by
  have hloop : ∀ {s'}, s.Quiet s' → s'.Inv ∧ (s'.Isolated ↔ s.Isolated ∧ True) := by
    intro s' hqt
    rw [Isolated, Isolated, hqt.log]
    exact ⟨hqt.inv, (and_iff_left trivial).symm⟩
  cases e with
  | joinRequest ws req => exact hloop (h.joinRequest ws req)
  | request ws req => exact hloop (h.request ws req)
  | clientStats ws data => exact hloop (h.clientStats ws data)
  | downlinkClientStats ws data nowMs => exact hloop (h.downlinkClientStats ws data nowMs)
  | closeSocket ws => exact hloop (h.closeSocket ws)
  | runDeferred => exact hloop h.runDeferred
  | runTask env => exact h.runTask env
  | destroyRoom roomId => exact hloop (h.destroyRoom roomId)
  | snapshotApplied roomId peerId seq => exact hloop (h.defer (by simp))
  | setWorkerCount count =>
    exact hloop ⟨⟨h.worker.of_effect rfl (.inl rfl) (fun _ _ _ hpeer => hpeer), h.sockets,
      h.completions⟩, rfl⟩

theorem inv_init (random : ℕ) (roomService : Bool) (workerCount : ℕ) :
    (init random roomService workerCount).Inv where
  worker :=
    { ordered := pairwise_singleton _ _
      positive := by
        intro n hn
        rw [mem_singleton.mp hn]
        exact Nat.add_pos_right _ (by decide)
      joinsNamed := nofun
      logNamed := nofun
      current := nofun
      senders := nofun }
  sockets _ := .inl ⟨rfl, rfl⟩
  completions hmem := nomatch hmem

end SessionServer

def reportsWhileReplaced : List SessionEvent :=
  [.joinRequest 0 ⟨"r", "p", .wellFormed⟩, .runTask {}, .runDeferred, .runDeferred,
    .joinRequest 1 ⟨"r", "p", .wellFormed⟩, .clientStats 0 (.ok ⟨1, []⟩), .runTask {}, .runTask {}]

end MediasoupCpp
