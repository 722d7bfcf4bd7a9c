import Mathlib.Data.Finset.Basic
import MediasoupCpp.Lib.Run
import MediasoupCpp.Room.Manager

/-!
# Dispatching rooms to worker threads

A signaling server spreads its rooms over several worker threads.  One loop thread reads the
sockets and keeps the dispatch table, which room is on which worker; the rooms themselves live on
the workers.

Main result: `not_splitRoom`.

Source: `src/SignalingServerWs.cpp`, `src/SignalingServerRuntime.cpp`, `src/SignalingSocketState.h`,
`src/SignalingRequestDispatcher.h`, `src/WorkerThread.cpp`, `src/RoomServiceLifecycle.cpp`.
-/

namespace MediasoupCpp

open Runs Option

/-! ### Sockets, tasks and callbacks -/

structure PerSocketData where
  peerId : String := ""
  roomId : String := ""
  sessionId : ℕ := 0
  pendingPeerId : String := ""
  pendingRoomId : String := ""
  pendingSessionId : ℕ := 0
  alive : Bool := true
  /-- The close handler has run; it runs once. -/
  closed : Bool := false

namespace PerSocketData

variable (sd : PerSocketData)

def setPendingSocketJoin (roomId peerId : String) (sessionId : ℕ) : PerSocketData :=
  { sd with pendingRoomId := roomId, pendingPeerId := peerId, pendingSessionId := sessionId }

def clearPendingSocketJoin : PerSocketData :=
  { sd with pendingRoomId := "", pendingPeerId := "", pendingSessionId := 0 }

def clearPendingSocketJoinIfMatches (sessionId : ℕ) : PerSocketData :=
  if sd.pendingSessionId = sessionId then sd.clearPendingSocketJoin else sd

end PerSocketData

def wsMapKey (roomId peerId : String) : String := roomId ++ "/" ++ peerId

structure JoinRequestContext where
  roomId : String
  peerId : String
  rtpCapabilities : RtpCapabilities := .wellFormed

def isValidJoinId (value : String) : Bool :=
  value.utf8ByteSize != 0 && value.utf8ByteSize ≤ 128 &&
    value.toList.all fun c =>
      ('A' ≤ c && c ≤ 'Z') || ('a' ≤ c && c ≤ 'z') || ('0' ≤ c && c ≤ '9') || c == '_' || c == '-'

inductive WorkerTask
  | join (ws : ℕ) (req : JoinRequestContext) (newSessionId : ℕ)
  /-- `leaveIfSessionMatches`: a closed socket, or the rollback of its join. -/
  | leave (roomId peerId : String) (sessionId : ℕ)

def WorkerTask.joins (roomId : String) : WorkerTask → Bool
  | .join _ req _ => req.roomId == roomId
  | .leave .. => false

structure WorkerThread where
  /-- The thread has its room service, which needs a media worker at start. -/
  roomService : Bool := true
  workerCount : ℕ := 1
  rooms : RoomManager := ∅
  /-- The number of rooms as other threads see it. -/
  roomCount : ℕ := 0
  tasks : List WorkerTask := []

namespace WorkerThread

variable (wt : WorkerThread)

def hasRoom (roomId : String) : Bool := (wt.rooms.getRoom roomId).isSome

def updateRoomCount : WorkerThread := { wt with roomCount := wt.rooms.roomCount }

def engaged (roomId : String) : Bool := wt.hasRoom roomId || wt.tasks.any (WorkerTask.joins roomId)

end WorkerThread

open WorkerThread

inductive Deferred (n : ℕ)
  | roomLifecycle (roomId : String) (wt : Fin n) (created : Bool)
  | workerNotReady (ws : ℕ) (roomId : String) (newSessionId : ℕ)
  | joinCompletion (ws : ℕ) (wt : Fin n) (roomId peerId : String) (newSessionId : ℕ)
      (result : JoinResult)

def Deferred.roomId {n : ℕ} : Deferred n → String
  | .roomLifecycle roomId .. => roomId
  | .workerNotReady _ roomId _ => roomId
  | .joinCompletion _ _ roomId .. => roomId

/-! ### The server -/

structure SignalingServer (n : ℕ) where
  sockets : ℕ → PerSocketData := fun _ => {}
  peers : Dict String ℕ := ∅
  nextSessionId : ℕ
  roomDispatch : Dict String (Fin n) := ∅
  destroyedRooms : Finset String := ∅
  deferred : List (Deferred n) := []
  workers : Fin n → WorkerThread
  /-- The answers to join requests, with the sockets they were sent to. -/
  sent : List (ℕ × JoinResult) := []

namespace SignalingServer

variable {n : ℕ} (s : SignalingServer n)

/-- A server with nothing on it.  `setup` says of each worker whether it has a room
service and how many media workers. -/
def init (firstSessionId : ℕ) (setup : Fin n → Bool × ℕ) : SignalingServer n where
  nextSessionId := firstSessionId
  workers w := { roomService := (setup w).1, workerCount := (setup w).2 }

variable (ws : ℕ)

def setSocket (sd : PerSocketData) : SignalingServer n :=
  { s with sockets := Function.update s.sockets ws sd }

def setWorker (w : Fin n) (wt : WorkerThread) : SignalingServer n :=
  { s with workers := Function.update s.workers w wt }

def send (result : JoinResult) : SignalingServer n :=
  { s with sent := s.sent ++ [(ws, result)] }

def defer (d : Deferred n) : SignalingServer n := { s with deferred := s.deferred ++ [d] }

def post (w : Fin n) (task : WorkerTask) : SignalingServer n :=
  s.setWorker w { s.workers w with tasks := (s.workers w).tasks ++ [task] }

/-! ### The dispatch table -/

def pickLeastLoadedWorkerThread : Option (Fin n) :=
  (List.finRange n).foldl
    (fun best w =>
      if (s.workers w).workerCount = 0 then best
      else
        match best with
        | none => some w
        | some b => if (s.workers w).roomCount < (s.workers b).roomCount then some w else some b)
    none

variable (roomId : String)

def getWorkerThread : Option (Fin n) := s.roomDispatch.lookup roomId

def assignRoom (w : Fin n) : SignalingServer n :=
  { s with
    roomDispatch := s.roomDispatch.insert roomId w
    destroyedRooms := s.destroyedRooms.erase roomId }

def unassignRoom : SignalingServer n :=
  { s with roomDispatch := s.roomDispatch.erase roomId }

def selectWorkerThread : Option (Fin n × SignalingServer n) :=
  match if roomId ∈ s.destroyedRooms then none else s.getWorkerThread roomId with
  | some w => some (w, s)
  | none => s.pickLeastLoadedWorkerThread.map fun w => (w, s.assignRoom roomId w)

/-! ### The loop thread -/

def hasMappedSession : Bool :=
  let sd := s.sockets ws
  sd.roomId != "" && sd.peerId != "" && sd.sessionId != 0 &&
    s.peers.lookup (wsMapKey sd.roomId sd.peerId) == some ws

def joinRequest (req : JoinRequestContext) : SignalingServer n :=
  let sd := s.sockets ws
  if !sd.alive then s
  else if s.hasMappedSession ws || sd.pendingSessionId != 0 then
    s.send ws (.rejected "already joined on this connection")
  else if !(isValidJoinId req.roomId && isValidJoinId req.peerId) then
    s.send ws (.rejected "invalid roomId or peerId (allowed: [A-Za-z0-9_-]\x7b1,128\x7d)")
  else
    let newSessionId := s.nextSessionId
    let s := { s with nextSessionId := newSessionId + 1 }
    match s.selectWorkerThread req.roomId with
    | none => s.send ws (.rejected "no available worker thread")
    | some (w, s) =>
      (s.setSocket ws (sd.setPendingSocketJoin req.roomId req.peerId newSessionId)).post w
        (.join ws req newSessionId)

def unregisterSocketSession (roomId peerId : String) : SignalingServer n :=
  if s.peers.lookup (wsMapKey roomId peerId) = some ws then
    { s with peers := s.peers.erase (wsMapKey roomId peerId) }
  else s

/-- The socket is closed.  What it had joined, or was about to join, is left. -/
def closeSocket : SignalingServer n :=
  let sd := s.sockets ws
  if sd.closed then s
  else
    let pending := sd.sessionId = 0 ∧ sd.pendingSessionId ≠ 0
    let roomId := if pending then sd.pendingRoomId else sd.roomId
    let peerId := if pending then sd.pendingPeerId else sd.peerId
    let sessionId := if pending then sd.pendingSessionId else sd.sessionId
    let s :=
      s.setSocket ws { sd with alive := false, closed := true }.clearPendingSocketJoin
    let s :=
      if sd.sessionId ≠ 0 ∧ sd.peerId ≠ "" then s.unregisterSocketSession ws sd.roomId sd.peerId
      else s
    if roomId ≠ "" ∧ sessionId ≠ 0 then
      match s.getWorkerThread roomId with
      | some w => s.post w (.leave roomId peerId sessionId)
      | none => s
    else s

def registerJoinedSocket (roomId peerId : String) (sessionId : ℕ) : SignalingServer n :=
  let mapKey := wsMapKey roomId peerId
  let peers := s.peers.filter fun key owner => owner != ws || key == mapKey
  let s := s.setSocket ws
    { s.sockets ws with
      roomId := roomId, peerId := peerId, sessionId := sessionId }.clearPendingSocketJoin
  let s :=
    match peers.lookup mapKey with
    | some oldWs =>
      if oldWs ≠ ws then s.setSocket oldWs { s.sockets oldWs with alive := false } else s
    | none => s
  { s with peers := peers.insert mapKey ws }

def completeJoin (w : Fin n) (roomId peerId : String) (newSessionId : ℕ) (result : JoinResult) :
    SignalingServer n :=
  let wt := s.workers w
  let alive := (s.sockets ws).alive
  if result = .joined then
    if !alive then s.post w (.leave roomId peerId newSessionId)
    else if !wt.roomService then
      ((s.setSocket ws ((s.sockets ws).clearPendingSocketJoinIfMatches newSessionId)).unassignRoom
        roomId).send ws (.rejected "worker unavailable during join completion")
    else ((s.registerJoinedSocket ws roomId peerId newSessionId).assignRoom roomId w).send ws result
  else
    let s := if !wt.roomService || !wt.hasRoom roomId then s.unassignRoom roomId else s
    if !alive then s
    else
      (s.setSocket ws ((s.sockets ws).clearPendingSocketJoinIfMatches newSessionId)).send ws result

def runCallback : Deferred n → SignalingServer n
  | .roomLifecycle roomId w created =>
    if created then { s with destroyedRooms := s.destroyedRooms.erase roomId }
    else
      let s := { s with destroyedRooms := insert roomId s.destroyedRooms }
      if s.roomDispatch.lookup roomId = some w then s.unassignRoom roomId else s
  | .workerNotReady ws roomId newSessionId =>
    let s := s.unassignRoom roomId
    if !(s.sockets ws).alive then s
    else
      (s.setSocket ws ((s.sockets ws).clearPendingSocketJoinIfMatches newSessionId)).send ws
        (.rejected "worker not ready")
  | .joinCompletion ws w roomId peerId newSessionId result =>
    s.completeJoin ws w roomId peerId newSessionId result

def runDeferred : SignalingServer n :=
  match s.deferred with
  | [] => s
  | d :: ds => { s with deferred := ds }.runCallback d

end SignalingServer

open SignalingServer

/-! ### The worker threads -/

inductive ClaimAnswer
  | mine
  | redirect (address : String)
  | rejected (error : String)

def dispatchJoin (rooms : RoomManager) (req : JoinRequestContext) (newSessionId : ℕ)
    (answer : ClaimAnswer) (routerCreated : Bool) : JoinResult × RoomManager :=
  match answer with
  | .redirect address => (.redirect address, rooms)
  | .rejected error => (.rejected error, rooms)
  | .mine =>
    match rooms.enter req.roomId req.peerId req.rtpCapabilities routerCreated with
    | (.joined, rooms) =>
      (.joined, rooms.setRoom req.roomId
        (((rooms.getRoom req.roomId).getD {}).replacePeer req.peerId ⟨newSessionId⟩))
    | (result, rooms) => (result, rooms)

namespace SignalingServer

variable {n : ℕ} (s : SignalingServer n)

/-- Worker `w` takes the first task of its queue.  `answer` and `routerCreated` are what
a join meets. -/
def runTask (w : Fin n) (answer : ClaimAnswer) (routerCreated : Bool) : SignalingServer n :=
  let wt := s.workers w
  match wt.tasks with
  | [] => s
  | .join ws req newSessionId :: tasks =>
    let wt := { wt with tasks := tasks }
    if !wt.roomService then
      (s.setWorker w wt).defer (.workerNotReady ws req.roomId newSessionId)
    else
      let (result, rooms) := dispatchJoin wt.rooms req newSessionId answer routerCreated
      let created := !wt.hasRoom req.roomId && (rooms.getRoom req.roomId).isSome
      let s := s.setWorker w { wt with rooms := rooms }.updateRoomCount
      let s := if created then s.defer (.roomLifecycle req.roomId w true) else s
      s.defer (.joinCompletion ws w req.roomId req.peerId newSessionId result)
  | .leave roomId peerId sessionId :: tasks =>
    let wt := { wt with tasks := tasks }
    if !wt.roomService then s.setWorker w wt.updateRoomCount
    else
      let (rooms, destroyed) := wt.rooms.leaveIfSessionMatches roomId peerId sessionId
      let s := s.setWorker w { wt with rooms := rooms }.updateRoomCount
      if destroyed then s.defer (.roomLifecycle roomId w false) else s

def destroyRoom (w : Fin n) (roomId : String) : SignalingServer n :=
  let wt := s.workers w
  if wt.hasRoom roomId then
    (s.setWorker w { wt with rooms := wt.rooms.removeRoom roomId }.updateRoomCount).defer
      (.roomLifecycle roomId w false)
  else s

end SignalingServer

inductive SignalingEvent (n : ℕ)
  | joinRequest (ws : ℕ) (req : JoinRequestContext)
  | closeSocket (ws : ℕ)
  | runDeferred
  | runTask (w : Fin n) (answer : ClaimAnswer) (routerCreated : Bool)
  | destroyRoom (w : Fin n) (roomId : String)
  /-- A media worker of the thread dies, or is started again. -/
  | setWorkerCount (w : Fin n) (count : ℕ)

def signalingStep {n : ℕ} (s : SignalingServer n) : SignalingEvent n → SignalingServer n
  | .joinRequest ws req => s.joinRequest ws req
  | .closeSocket ws => s.closeSocket ws
  | .runDeferred => s.runDeferred
  | .runTask w answer routerCreated => s.runTask w answer routerCreated
  | .destroyRoom w roomId => s.destroyRoom w roomId
  | .setWorkerCount w count => s.setWorker w { s.workers w with workerCount := count }

abbrev signalingRun {n : ℕ} (s : SignalingServer n) (es : List (SignalingEvent n)) :
    SignalingServer n :=
  runFrom signalingStep s es

/-! ### Rooms on two workers -/

def SplitRoom {n : ℕ} (R : String) (s : SignalingServer n) : Prop :=
  ∃ w w', w ≠ w' ∧ (s.workers w).hasRoom R = true ∧ (s.workers w').hasRoom R = true

def EngagedOnly {n : ℕ} (R : String) (allowed : Fin n → Prop) (s : SignalingServer n) : Prop :=
  ∀ w, (s.workers w).engaged R = true → allowed w

def Routed {n : ℕ} (R : String) (s : SignalingServer n) : Prop :=
  EngagedOnly R (fun w => s.roomDispatch.lookup R = some w ∧ R ∉ s.destroyedRooms) s

def Deferred.Settled {n : ℕ} (R : String) (s : SignalingServer n) : Deferred n → Prop
  | .roomLifecycle roomId _ created =>
    roomId = R → created = false → EngagedOnly R (fun _ => False) s
  | .workerNotReady _ roomId _ => roomId = R → EngagedOnly R (fun _ => False) s
  | .joinCompletion ws w roomId _ _ result =>
    roomId = R →
      if result = .joined then
        (s.sockets ws).alive = true →
          EngagedOnly R (fun w' => (s.workers w).roomService = true ∧ w' = w) s
      else
        ((s.workers w).roomService = true ∧ (s.workers w).hasRoom R = true) ∨
          EngagedOnly R (fun _ => False) s

def SettledCallbacks {n : ℕ} (R : String) (s : SignalingServer n) : SignalingEvent n → Prop
  | .runDeferred => ∀ d ∈ s.deferred.head?, d.Settled R s
  | _ => True

instance {n : ℕ} (R : String) (s : SignalingServer n) : Decidable (SplitRoom R s) :=
  inferInstanceAs (Decidable (∃ _ _, _))

instance {n : ℕ} (R : String) (allowed : Fin n → Prop) [DecidablePred allowed]
    (s : SignalingServer n) : Decidable (EngagedOnly R allowed s) :=
  inferInstanceAs (Decidable (∀ _, _))

instance {n : ℕ} (R : String) (s : SignalingServer n) :
    ∀ d : Deferred n, Decidable (d.Settled R s)
  | .roomLifecycle .. => inferInstanceAs (Decidable (_ → _ → _))
  | .workerNotReady .. => inferInstanceAs (Decidable (_ → _))
  | .joinCompletion .. => inferInstanceAs (Decidable (_ → _))

instance {n : ℕ} (R : String) (s : SignalingServer n) :
    ∀ e : SignalingEvent n, Decidable (SettledCallbacks R s e)
  | .runDeferred => inferInstanceAs (Decidable (∀ d ∈ s.deferred.head?, _))
  | .joinRequest .. | .closeSocket _ | .runTask .. | .destroyRoom .. | .setWorkerCount .. =>
    .isTrue trivial

/-! ### What the parts of a step do to the engaged workers -/

section Engaged

variable {n : ℕ} {R : String} {s : SignalingServer n}

theorem WorkerThread.engaged_iff (wt : WorkerThread) :
    wt.engaged R ↔ wt.hasRoom R ∨ ∃ t ∈ wt.tasks, t.joins R := by
  simp [engaged]

theorem Routed.of_le {s' : SignalingServer n} (h : Routed R s)
    (hengaged : ∀ w, (s'.workers w).engaged R → (s.workers w).engaged R)
    (hdisp : s'.roomDispatch.lookup R = s.roomDispatch.lookup R)
    (hdest : R ∈ s'.destroyedRooms → R ∈ s.destroyedRooms) : Routed R s' := by
  intro w hw
  obtain ⟨hlook, hnot⟩ := h w (hengaged w hw)
  exact ⟨hdisp.trans hlook, fun hmem => hnot (hdest hmem)⟩

variable {w : Fin n}

section

variable (h : Routed R s)
include h

theorem Routed.setWorker {wt : WorkerThread}
    (hwt : wt.engaged R → (s.workers w).engaged R) : Routed R (s.setWorker w wt) := by
  refine h.of_le (fun w' hw' => ?_) rfl id
  by_cases hw : w' = w
  · subst hw
    exact hwt (by simpa [setWorker] using hw')
  · simpa [SignalingServer.setWorker, hw] using hw'

theorem Routed.dequeue {task : WorkerTask} {tasks : List WorkerTask}
    (htsk : (s.workers w).tasks = task :: tasks) {wt : WorkerThread} (hrest : wt.tasks = tasks)
    (hroom : wt.hasRoom R → (s.workers w).hasRoom R ∨ task.joins R) :
    Routed R (s.setWorker w wt) := by
  refine h.setWorker fun hw => ?_
  rw [engaged_iff, hrest] at hw
  rw [engaged_iff, htsk]
  rcases hw with hw | ⟨t, ht, hjoins⟩
  · exact (hroom hw).imp id fun hjoins => ⟨task, List.mem_cons_self, hjoins⟩
  · exact .inr ⟨t, List.mem_cons_of_mem _ ht, hjoins⟩

theorem Routed.defer (d : Deferred n) : Routed R (s.defer d) :=
  h.of_le (fun _ => id) rfl id

theorem Routed.send (ws : ℕ) (result : JoinResult) : Routed R (s.send ws result) :=
  h.of_le (fun _ => id) rfl id

theorem Routed.setSocket (ws : ℕ) (sd : PerSocketData) : Routed R (s.setSocket ws sd) :=
  h.of_le (fun _ => id) rfl id

theorem Routed.post_leave (w : Fin n) (roomId peerId : String) (sessionId : ℕ) :
    Routed R (s.post w (.leave roomId peerId sessionId)) := by
  refine h.setWorker fun hw => ?_
  simpa [engaged, hasRoom, WorkerTask.joins] using hw

theorem Routed.post_join {ws : ℕ} {req : JoinRequestContext} {newSessionId : ℕ}
    (hw : req.roomId = R → s.roomDispatch.lookup R = some w ∧ R ∉ s.destroyedRooms) :
    Routed R (s.post w (.join ws req newSessionId)) := by
  by_cases hR : req.roomId = R
  · intro w' hw'
    by_cases hww : w' = w
    · subst hww
      exact hw hR
    · exact h w' (by simpa [SignalingServer.post, SignalingServer.setWorker, hww] using hw')
  · refine h.setWorker fun hw' => ?_
    simpa [engaged, hasRoom, WorkerTask.joins, hR] using hw'

theorem Routed.assignRoom {roomId : String} (hw : roomId = R → EngagedOnly R (· = w) s) :
    Routed R (s.assignRoom roomId w) := by
  by_cases hR : roomId = R
  · subst hR
    intro w' hw'
    obtain rfl := hw rfl w' hw'
    exact ⟨AList.lookup_insert _, Finset.notMem_erase _ _⟩
  · refine h.of_le (fun _ => id) ?_ Finset.mem_of_mem_erase
    exact AList.lookup_insert_ne (Ne.symm hR)

theorem Routed.unassignRoom {roomId : String} (hw : roomId = R → EngagedOnly R (fun _ => False) s) :
    Routed R (s.unassignRoom roomId) := by
  by_cases hR : roomId = R
  · exact fun w' hw' => (hw hR w' hw').elim
  · exact h.of_le (fun _ => id) (AList.lookup_erase_ne (Ne.symm hR)) id

end

end Engaged

/-! ### The steps -/

section Steps

variable {n : ℕ} {R : String} {s : SignalingServer n}

theorem Routed.selectWorkerThread (h : Routed R s) {roomId : String} {w : Fin n}
    {s' : SignalingServer n} (hsel : s.selectWorkerThread roomId = some (w, s')) : Routed R s' ∧
      (roomId = R → s'.roomDispatch.lookup R = some w ∧ R ∉ s'.destroyedRooms) := by
  unfold SignalingServer.selectWorkerThread at hsel
  split at hsel
  next w' hw' =>
    cases hsel
    split at hw'
    · cases hw'
    next hnot =>
      exact ⟨h, by rintro rfl; exact ⟨hw', hnot⟩⟩
  next hnone =>
    obtain ⟨w', -, heq⟩ := map_eq_some_iff.mp hsel
    obtain ⟨rfl, rfl⟩ := Prod.mk.inj heq
    refine ⟨h.assignRoom ?_, by rintro rfl; exact ⟨AList.lookup_insert _, Finset.notMem_erase _ _⟩⟩
    -- the table did not name a worker, so nobody has to do with the room
    rintro rfl w hw
    obtain ⟨hlook, hnot⟩ := h w hw
    rw [if_neg hnot, getWorkerThread, hlook] at hnone
    cases hnone

theorem Routed.joinRequest (h : Routed R s) (ws : ℕ) (req : JoinRequestContext) :
    Routed R (s.joinRequest ws req) := by
  unfold SignalingServer.joinRequest
  simp only
  split
  · exact h
  split
  · exact h.send _ _
  split
  · exact h.send _ _
  have hcnt : Routed R { s with nextSessionId := s.nextSessionId + 1 } := h
  split
  · exact hcnt.send _ _
  rename_i hsel
  obtain ⟨hs', hw⟩ := hcnt.selectWorkerThread hsel
  exact (hs'.setSocket _ _).post_join hw

theorem Routed.unregisterSocketSession (h : Routed R s) (ws : ℕ) (roomId peerId : String) :
    Routed R (s.unregisterSocketSession ws roomId peerId) := by
  unfold SignalingServer.unregisterSocketSession
  split <;> exact h

theorem Routed.closeSocket (h : Routed R s) (ws : ℕ) : Routed R (s.closeSocket ws) := by
  unfold SignalingServer.closeSocket
  simp only
  split
  · exact h
  -- the table is read after the socket is forgotten, which does not change it
  have hforg : ∀ s' : SignalingServer n, Routed R s' → ∀ roomId peerId sessionId,
      Routed R (if roomId ≠ "" ∧ sessionId ≠ 0 then
        match s'.getWorkerThread roomId with
        | some w => s'.post w (.leave roomId peerId sessionId)
        | none => s'
      else s') := by
    intro s' hs' roomId peerId sessionId
    split
    · split
      · exact hs'.post_leave _ _ _ _
      · exact hs'
    · exact hs'
  apply hforg
  split
  · exact (h.setSocket _ _).unregisterSocketSession _ _ _
  · exact h.setSocket _ _

@[simp] theorem registerJoinedSocket_workers (ws : ℕ) (roomId peerId : String) (sessionId : ℕ) :
    (s.registerJoinedSocket ws roomId peerId sessionId).workers = s.workers := by
  unfold registerJoinedSocket
  simp only
  split
  · split <;> rfl
  · rfl

theorem Routed.registerJoinedSocket (h : Routed R s) (ws : ℕ) (roomId peerId : String)
    (sessionId : ℕ) : Routed R (s.registerJoinedSocket ws roomId peerId sessionId) := by
  unfold SignalingServer.registerJoinedSocket
  simp only
  split
  · split <;> exact h
  · exact h

theorem Routed.completeJoin (h : Routed R s) {ws : ℕ} {w : Fin n} {roomId peerId : String}
    {newSessionId : ℕ} {result : JoinResult}
    (hsettl : (Deferred.joinCompletion ws w roomId peerId newSessionId result).Settled R s) :
    Routed R (s.completeJoin ws w roomId peerId newSessionId result) := by
  unfold SignalingServer.completeJoin
  simp only
  split
  next hjoin =>
    have honly : (s.sockets ws).alive → roomId = R →
        EngagedOnly R (fun w' => (s.workers w).roomService ∧ w' = w) s := by
      intro halive hR
      have := hsettl hR
      rw [if_pos hjoin] at this
      exact this halive
    split
    · exact h.post_leave _ _ _ _
    rename_i halive
    replace halive : (s.sockets ws).alive := by simpa using halive
    split
    · -- the room service is never taken away again, but the code asks
      rename_i hserv
      refine ((h.setSocket _ _).unassignRoom fun hR w' hw' => ?_).send _ _
      have := (honly halive hR w' hw').1
      simp [this] at hserv
    · refine ((h.registerJoinedSocket _ _ _ _).assignRoom fun hR w' hw' => ?_).send _ _
      rw [registerJoinedSocket_workers] at hw'
      exact (honly halive hR w' hw').2
  next hfail =>
    have hs : Routed R (if (!(s.workers w).roomService || !(s.workers w).hasRoom roomId) = true
        then s.unassignRoom roomId else s) := by
      split
      next hgone =>
        refine h.unassignRoom fun hR => ?_
        subst hR
        have := hsettl rfl
        rw [if_neg hfail] at this
        refine this.resolve_left fun hthere => ?_
        simp [hthere.1, hthere.2] at hgone
      · exact h
    split
    · exact hs
    · exact (hs.setSocket _ _).send _ _

theorem Routed.runDeferred (h : Routed R s) (hsettl : SettledCallbacks R s .runDeferred) :
    Routed R s.runDeferred := by
  unfold SignalingServer.runDeferred
  split
  · exact h
  rename_i d ds hd
  have hsettl : d.Settled R s := hsettl d (by simp [hd])
  have hrest : Routed R { s with deferred := ds } := h
  cases d with
  | roomLifecycle roomId w created =>
    simp only [runCallback]
    split
    · exact hrest.of_le (fun _ => id) rfl Finset.mem_of_mem_erase
    rename_i hcreated
    have hmark : Routed R { s with
        deferred := ds, destroyedRooms := insert roomId s.destroyedRooms } := by
      by_cases hR : roomId = R
      · exact fun w' hw' => (hsettl hR (by simpa using hcreated) w' hw').elim
      · refine hrest.of_le (fun _ => id) rfl fun hmem => ?_
        exact (Finset.mem_insert.mp hmem).resolve_left (Ne.symm hR)
    split
    · exact hmark.unassignRoom fun hR => hsettl hR (by simpa using hcreated)
    · exact hmark
  | workerNotReady ws roomId newSessionId =>
    have hun : Routed R ({ s with deferred := ds }.unassignRoom roomId) :=
      hrest.unassignRoom hsettl
    simp only [runCallback]
    split
    · exact hun
    · exact (hun.setSocket _ _).send _ _
  | joinCompletion => exact hrest.completeJoin hsettl

theorem getRoom_dispatchJoin_of_ne {req : JoinRequestContext} (hR : R ≠ req.roomId)
    (rooms : RoomManager) (newSessionId : ℕ) (answer : ClaimAnswer) (routerCreated : Bool) :
    (dispatchJoin rooms req newSessionId answer routerCreated).2.getRoom R = rooms.getRoom R := by
  unfold dispatchJoin
  split
  · rfl
  · rfl
  have hoth := rooms.getRoom_enter_of_ne hR req.peerId req.rtpCapabilities routerCreated
  split
  next henter =>
    rw [henter] at hoth
    rw [RoomManager.getRoom_setRoom, if_neg hR]
    exact hoth
  next henter =>
    rw [henter] at hoth
    exact hoth

theorem getRoom_leaveIfSessionMatches {rooms : RoomManager} {roomId peerId : String} {sessionId : ℕ}
    (hroom : ((rooms.leaveIfSessionMatches roomId peerId sessionId).1.getRoom R).isSome) :
    (rooms.getRoom R).isSome := by
  unfold RoomManager.leaveIfSessionMatches at hroom
  split at hroom
  · exact hroom
  split at hroom
  · exact hroom
  split at hroom
  · exact hroom
  obtain ⟨-, hsame⟩ | ⟨-, ⟨-, hsame⟩ | ⟨hthere, -⟩ | ⟨hthere, -⟩⟩ :=
    rooms.getRoom_leave roomId peerId R
  · rwa [hsame] at hroom
  · rwa [hsame] at hroom
  · exact isSome_iff_ne_none.mpr hthere
  · exact isSome_iff_ne_none.mpr hthere

theorem Routed.runTask (h : Routed R s) (w : Fin n) (answer : ClaimAnswer) (routerCreated : Bool) :
    Routed R (s.runTask w answer routerCreated) := by
  unfold SignalingServer.runTask
  simp only
  split
  · exact h
  next req newSessionId tasks htsk =>
    split
    · have hset : Routed R (s.setWorker w { s.workers w with tasks := tasks }) :=
        h.dequeue htsk rfl .inl
      exact hset.defer _
    have hset : Routed R (s.setWorker w { s.workers w with
        tasks := tasks
        rooms := (dispatchJoin (s.workers w).rooms req newSessionId answer
          routerCreated).2 }.updateRoomCount) := by
      refine h.dequeue htsk rfl fun hroom => ?_
      by_cases hR : R = req.roomId
      · exact .inr (by simp [WorkerTask.joins, hR])
      have hsame := getRoom_dispatchJoin_of_ne hR (s.workers w).rooms newSessionId answer
        routerCreated
      left
      simpa only [hasRoom, updateRoomCount, hsame] using hroom
    -- the callbacks that are queued then change nothing yet
    split
    · exact (hset.defer _).defer _
    · exact hset.defer _
  next roomId peerId sessionId tasks htsk =>
    split
    · exact h.dequeue htsk rfl .inl
    have hset : Routed R (s.setWorker w { s.workers w with
        tasks := tasks
        rooms := ((s.workers w).rooms.leaveIfSessionMatches roomId peerId
          sessionId).1 }.updateRoomCount) :=
      h.dequeue htsk rfl fun hroom => .inl (getRoom_leaveIfSessionMatches hroom)
    split
    · exact hset.defer _
    · exact hset

theorem Routed.destroyRoom (h : Routed R s) (w : Fin n) (roomId : String) :
    Routed R (s.destroyRoom w roomId) := by
  unfold SignalingServer.destroyRoom
  simp only
  split
  · refine (h.setWorker fun hw => ?_).defer _
    rw [engaged_iff] at hw ⊢
    refine hw.imp (fun hroom => ?_) id
    simp only [hasRoom, updateRoomCount, RoomManager.getRoom_removeRoom] at hroom
    split at hroom
    · cases hroom
    · exact hroom
  · exact h

theorem routed_step (s : SignalingServer n) (e : SignalingEvent n) (h : Routed R s)
    (hsettl : SettledCallbacks R s e) : Routed R (signalingStep s e) := by
  cases e with
  | joinRequest ws req => exact h.joinRequest ws req
  | closeSocket ws => exact h.closeSocket ws
  | runDeferred => exact h.runDeferred hsettl
  | runTask w answer routerCreated => exact h.runTask w answer routerCreated
  | destroyRoom w roomId => exact h.destroyRoom w roomId
  | setWorkerCount w count => exact h.setWorker id

theorem routed_init (firstSessionId : ℕ) (setup : Fin n → Bool × ℕ) :
    Routed R (SignalingServer.init firstSessionId setup) := by
  intro w hw
  exact absurd hw (by simp [init, engaged, hasRoom, RoomManager.getRoom])

theorem routed_run (firstSessionId : ℕ) (setup : Fin n → Bool × ℕ) (es : List (SignalingEvent n))
    (hsettl : StepsMeet signalingStep (SettledCallbacks R)
      (SignalingServer.init firstSessionId setup) es) :
    Routed R (signalingRun (SignalingServer.init firstSessionId setup) es) :=
  StepsMeet.inv (Routed R) routed_step es _ hsettl (routed_init firstSessionId setup)

end Steps

/-! ### No room is on two workers -/

/-- **Rooms are not split as long as callbacks are settled.**  On a server started with
nothing on it, if every destroy callback, every failed join and every completed join
of the room is run on the loop only when it takes the room from no worker that holds
it or has a join of it queued, no two workers ever hold a live room of that id. -/
theorem not_splitRoom {n : ℕ} (R : String) (firstSessionId : ℕ) (setup : Fin n → Bool × ℕ)
    (es : List (SignalingEvent n))
    (hsettl : StepsMeet signalingStep (SettledCallbacks R)
      (SignalingServer.init firstSessionId setup) es) :
    ¬SplitRoom R (signalingRun (SignalingServer.init firstSessionId setup) es) := by
  rintro ⟨w, w', hne, hw, hw'⟩
  have hrout := routed_run firstSessionId setup es hsettl
  have hdisp := (hrout w (by simp [engaged, hw])).1
  have hdisp' := (hrout w' (by simp [engaged, hw'])).1
  exact hne (some.inj (hdisp.symm.trans hdisp'))

def twoWorkers : SignalingServer 2 := .init 1 fun _ => (true, 1)

def rejoinedRoom : List (SignalingEvent 2) :=
  [.joinRequest 0 ⟨"r", "a", .wellFormed⟩, .runTask 0 .mine true, .runDeferred, .runDeferred,
    .closeSocket 0, .runTask 0 .mine true, .runDeferred,
    .joinRequest 1 ⟨"r", "b", .wellFormed⟩, .runTask 0 .mine true, .runDeferred, .runDeferred]

theorem not_splitRoom_rejoinedRoom :
    StepsMeet signalingStep (SettledCallbacks "r") twoWorkers rejoinedRoom ∧
      ¬SplitRoom "r" (signalingRun twoWorkers rejoinedRoom) :=
  have hset : StepsMeet signalingStep (SettledCallbacks "r") twoWorkers rejoinedRoom := by
    decide
  ⟨hset, not_splitRoom "r" 1 _ rejoinedRoom hset⟩

/-- The last peer of the room `r` on worker `1` leaves, and another join of the room is
queued behind the leave.  The destroy callback runs on the loop before that join runs
on the worker, so that the next join of the room is sent to worker `0`.  (The room `q`
makes worker `0` the more loaded one when `r` is first assigned.) -/
def lateDestroy : List (SignalingEvent 2) :=
  [.joinRequest 0 ⟨"q", "a", .wellFormed⟩, .runTask 0 .mine true, .runDeferred, .runDeferred,
    .joinRequest 1 ⟨"r", "b", .wellFormed⟩, .runTask 1 .mine true, .runDeferred, .runDeferred,
    .closeSocket 0, .runTask 0 .mine true, .runDeferred,
    .closeSocket 1, .joinRequest 2 ⟨"r", "c", .wellFormed⟩, .runTask 1 .mine true, .runDeferred,
    .joinRequest 3 ⟨"r", "d", .wellFormed⟩, .runTask 1 .mine true, .runTask 0 .mine true]

/-- **A late destroy callback splits a room.** -/
theorem splitRoom_of_late_destroy : SplitRoom "r" (signalingRun twoWorkers lateDestroy) := by
  decide

end MediasoupCpp
