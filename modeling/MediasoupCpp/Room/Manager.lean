import MediasoupCpp.Lib.Dict

/-!
# Rooms and their peers

The rooms of one worker, and what joining and leaving does to them.  A room holds its peers by id;
a peer carries the session of the connection it joined by.

Main results: `RoomManager.getRoom_enter_of_ne`, `RoomManager.getRoom_leave`.

Source: `src/RoomManager.h`, `src/Peer.h`, `src/RoomServiceLifecycle.cpp`.
-/

namespace MediasoupCpp

structure Peer where
  /-- The session of the connection the peer joined by; `0` before it is set. -/
  sessionId : ℕ := 0
  deriving DecidableEq

structure Room where
  peers : Dict String Peer := ∅

namespace Room

variable (room : Room) (peerId : String)

def getPeer : Option Peer := room.peers.lookup peerId

def replacePeer (peer : Peer) : Room :=
  { room with peers := room.peers.insert peerId peer }

def removePeer : Room := { room with peers := room.peers.erase peerId }

def empty : Bool := room.peers.entries.isEmpty

end Room

inductive RtpCapabilities
  | absent
  | notAnObject
  /-- An object that cannot be read as capabilities. -/
  | malformed
  | wellFormed
  deriving DecidableEq

inductive JoinResult
  | joined
  | redirect (address : String)
  | rejected (error : String)
  | threw
  deriving DecidableEq

abbrev RoomManager := Dict String Room

namespace RoomManager

variable (rooms : RoomManager) (roomId : String)

def getRoom : Option Room := rooms.lookup roomId

def roomCount : ℕ := rooms.entries.length

def createRoom (routerCreated : Bool) : Except String RoomManager :=
  match rooms.getRoom roomId with
  | some _ => .ok rooms
  | none => if routerCreated then .ok (rooms.insert roomId {}) else .error "no available worker"

def setRoom (room : Room) : RoomManager := rooms.insert roomId room

def removeRoom : RoomManager := rooms.erase roomId

variable (peerId : String)

def enter (rtpCapabilities : RtpCapabilities) (routerCreated : Bool) :
    JoinResult × RoomManager :=
  if rtpCapabilities = .notAnObject then (.rejected "invalid rtpCapabilities", rooms)
  else
    match rooms.createRoom roomId routerCreated with
    | .error _ => (.threw, rooms)
    | .ok rooms =>
      -- the room stays, without a peer, if the capabilities cannot be read
      if rtpCapabilities = .malformed then (.threw, rooms)
      else
        (.joined, rooms.setRoom roomId (((rooms.getRoom roomId).getD {}).replacePeer peerId {}))

def leave : RoomManager × Bool :=
  match rooms.getRoom roomId with
  | none => (rooms, false)
  | some room =>
    if (room.removePeer peerId).empty then (rooms.removeRoom roomId, true)
    else (rooms.setRoom roomId (room.removePeer peerId), false)

def leaveIfSessionMatches (expectedSessionId : ℕ) : RoomManager × Bool :=
  if expectedSessionId = 0 then (rooms, false)
  else
    match (rooms.getRoom roomId).bind (Room.getPeer · peerId) with
    | none => (rooms, false)
    | some peer =>
      if peer.sessionId ≠ expectedSessionId then (rooms, false) else rooms.leave roomId peerId

theorem getRoom_setRoom (r r' : String) (room : Room) :
    (rooms.setRoom r room).getRoom r' = if r' = r then some room else rooms.getRoom r' :=
  Dict.lookup_insert_eq rooms r r' room

theorem getRoom_removeRoom (r r' : String) :
    (rooms.removeRoom r).getRoom r' = if r' = r then none else rooms.getRoom r' :=
  Dict.lookup_erase_eq rooms r r'

theorem getRoom_createRoom {rooms rooms' : RoomManager} {r : String} {routerCreated : Bool}
    (h : rooms.createRoom r routerCreated = .ok rooms') (r' : String) : rooms'.getRoom r' =
      if r' = r then some ((rooms.getRoom r).getD {}) else rooms.getRoom r' := by
  unfold createRoom at h
  split at h
  next hroom =>
    cases h
    split
    · rename_i heq; rw [heq, hroom]; rfl
    · rfl
  rename_i hroom
  split at h
  · cases h
    rw [getRoom, Dict.lookup_insert_eq, hroom]
    rfl
  · cases h

theorem getRoom_enter_of_ne {roomId r : String} (hr : r ≠ roomId) (peerId : String)
    (rtpCapabilities : RtpCapabilities) (routerCreated : Bool) :
    (rooms.enter roomId peerId rtpCapabilities routerCreated).2.getRoom r = rooms.getRoom r := by
  unfold enter
  split
  · rfl
  split
  · rfl
  rename_i rooms' hcre
  have hoth : rooms'.getRoom r = rooms.getRoom r := by
    rw [getRoom_createRoom hcre, if_neg hr]
  split
  · exact hoth
  · rw [getRoom_setRoom, if_neg hr, hoth]

theorem getRoom_leave (peerId r : String) :
    let left := rooms.leave roomId peerId
    r ≠ roomId ∧ left.1.getRoom r = rooms.getRoom r ∨ r = roomId ∧
        (rooms.getRoom r = none ∧ left = (rooms, false) ∨
          rooms.getRoom r ≠ none ∧ left.2 ∧ left.1.getRoom r = none ∨
          rooms.getRoom r ≠ none ∧ left.2 = false ∧ left.1.getRoom r ≠ none) := by
  unfold leave
  dsimp only
  by_cases hr : r = roomId
  · subst hr
    refine .inr ⟨rfl, ?_⟩
    split
    next hroom =>
      exact .inl ⟨hroom, rfl⟩
    rename_i hroom
    split
    · exact .inr (.inl ⟨by simp [hroom], rfl, by rw [getRoom_removeRoom, if_pos rfl]⟩)
    · exact .inr (.inr ⟨by simp [hroom], rfl, by rw [getRoom_setRoom, if_pos rfl]; simp⟩)
  · refine .inl ⟨hr, ?_⟩
    split
    · rfl
    split
    · rw [getRoom_removeRoom, if_neg hr]
    · rw [getRoom_setRoom, if_neg hr]

end RoomManager

end MediasoupCpp
