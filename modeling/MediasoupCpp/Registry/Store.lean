import Mathlib.Logic.Function.Basic
import MediasoupCpp.Lib.Dict
import MediasoupCpp.Registry.Selection

/-!
# Redis, the local cache and pub/sub

Room ownership is recorded in Redis: the key of a room holds the id of the node that claims it,
the key of a node the data the node publishes about itself.  Both kinds of key have a time to
live, so any key may vanish at any time.

Main result: `Redis.evalClaim_room_of_ne`.

Source: `src/RoomRegistry.h`, `src/RoomRegistry.cpp`, `src/RoomRegistryPubSub.cpp`.
-/

namespace MediasoupCpp

open AList

/-! ### Redis -/

structure Redis where
  rooms : Dict String String := ∅
  nodes : Dict String NodeInfo := ∅

inductive ScriptReply
  /-- The room had no key; it now names the caller. -/
  | granted
  | self
  /-- The owner's node key is gone; the room key now names the caller. -/
  | taken (owner : String)
  | addr (node : NodeInfo)
  deriving DecidableEq

namespace Redis

variable (db : Redis) (nodeId : String)

def evalClaim (roomId : String) : ScriptReply × Redis :=
  match db.rooms.lookup roomId with
  | none => (.granted, { db with rooms := db.rooms.insert roomId nodeId })
  | some owner =>
    if owner = nodeId then (.self, db)
    else
      match db.nodes.lookup owner with
      | none => (.taken owner, { db with rooms := db.rooms.insert roomId nodeId })
      | some node => (.addr node, db)

def delRoom (roomId : String) : Redis := { db with rooms := db.rooms.erase roomId }

def delNode : Redis := { db with nodes := db.nodes.erase nodeId }

def setNode (info : NodeInfo) : Redis :=
  { db with nodes := db.nodes.insert nodeId info }

variable {db}

theorem delRoom_lookup (r r' : String) :
    (db.delRoom r).rooms.lookup r' = if r' = r then none else db.rooms.lookup r' :=
  Dict.lookup_erase_eq db.rooms r r'

@[simp] theorem evalClaim_nodes (i r : String) : (db.evalClaim i r).2.nodes = db.nodes := by
  unfold evalClaim
  split
  · rfl
  split
  · rfl
  · split <;> rfl

theorem evalClaim_room_of_ne {i r r' : String} (h : r' ≠ r) :
    (db.evalClaim i r).2.rooms.lookup r' = db.rooms.lookup r' := by
  unfold evalClaim
  split
  · exact lookup_insert_ne h
  split
  · rfl
  split
  · exact lookup_insert_ne h
  · rfl

theorem evalClaim_cases (db : Redis) (i r : String) :
    (∃ owner node, db.rooms.lookup r = some owner ∧ owner ≠ i ∧
        db.nodes.lookup owner = some node ∧ db.evalClaim i r = (.addr node, db)) ∨
      (db.evalClaim i r).2.rooms.lookup r = some i ∧
        ((db.evalClaim i r).1 = .granted ∧ db.rooms.lookup r = none ∨
          (db.evalClaim i r).1 = .self ∧ db.rooms.lookup r = some i ∨
            ∃ owner, (db.evalClaim i r).1 = .taken owner ∧ db.rooms.lookup r = some owner ∧
              owner ≠ i ∧ db.nodes.lookup owner = none) := by
  unfold evalClaim
  split
  next hroom =>
    exact .inr ⟨lookup_insert _, .inl ⟨rfl, hroom⟩⟩
  rename_i owner hroom
  split_ifs with hown
  · subst hown
    exact .inr ⟨hroom, .inr (.inl ⟨rfl, hroom⟩)⟩
  split
  next hnode =>
    exact .inr ⟨lookup_insert _, .inr (.inr ⟨owner, rfl, hroom, hown, hnode⟩)⟩
  next node hnode =>
    exact .inl ⟨owner, node, hroom, hown, hnode, rfl⟩

theorem evalClaim_owned {i r : String} (h : ∀ node, (db.evalClaim i r).1 ≠ .addr node) :
    (db.evalClaim i r).2.rooms.lookup r = some i := by
  rcases evalClaim_cases db i r with ⟨_, node, -, -, -, heq⟩ | ⟨hkey, -⟩
  · exact absurd (by rw [heq]) (h node)
  · exact hkey

theorem evalClaim_of_free {i r : String}
    (h : db.rooms.lookup r = none ∨ db.rooms.lookup r = some i) :
    (db.evalClaim i r).2.rooms.lookup r = some i := by
  rcases evalClaim_cases db i r with ⟨owner, _, hroom, hown, -⟩ | ⟨hkey, -⟩
  · rcases h with h | h <;> rw [h] at hroom
    · cases hroom
    · exact absurd (Option.some.inj hroom).symm hown
  · exact hkey

end Redis

/-! ### The cache -/

structure CacheView where
  nodes : Dict String NodeInfo := ∅
  rooms : Dict String String := ∅

namespace CacheView

variable (cache : CacheView) (roomId : String)

def roomAddress : Option String :=
  (cache.rooms.lookup roomId).filter fun address => !(address == "")

variable (nodeId : String)

def nodeAddressForId : Option String :=
  ((cache.nodes.lookup nodeId).map NodeInfo.address).filter fun address => !(address == "")

def upsertNode (info : NodeInfo) : CacheView :=
  { cache with nodes := cache.nodes.insert nodeId info }

def upsertRoom (address : String) : CacheView :=
  { cache with rooms := cache.rooms.insert roomId address }

def eraseRoom : CacheView := { cache with rooms := cache.rooms.erase roomId }

def eraseNodeAndOwnedRooms : CacheView :=
  match cache.nodes.lookup nodeId with
  | none => cache
  | some info =>
    { nodes := cache.nodes.erase nodeId
      rooms := if info.address = "" then cache.rooms
        else cache.rooms.filter fun _ address => !(address == info.address) }

def otherNodeIds (selfNodeId : String) : List String :=
  cache.nodes.keys.filter fun nodeId => !(nodeId == selfNodeId)

def mergeNodes (newNodes : List (String × NodeInfo)) : CacheView :=
  { cache with nodes := newNodes.foldl (fun nodes e => nodes.insert e.1 e.2) cache.nodes }

@[simp] theorem roomAddress_upsertRoom_self (r a : String) (ha : a ≠ "") :
    (cache.upsertRoom r a).roomAddress r = some a := by
  simp [roomAddress, upsertRoom, ha]

@[simp] theorem roomAddress_eraseRoom_self (r : String) :
    (cache.eraseRoom r).roomAddress r = none := by
  simp [roomAddress, eraseRoom]

theorem roomAddress_upsertRoom_of_ne {r r' : String} (a : String) (h : r' ≠ r) :
    (cache.upsertRoom r a).roomAddress r' = cache.roomAddress r' := by
  simp [roomAddress, upsertRoom, lookup_insert_ne h]

theorem roomAddress_eraseRoom_of_ne {r r' : String} (h : r' ≠ r) :
    (cache.eraseRoom r).roomAddress r' = cache.roomAddress r' := by
  simp [roomAddress, eraseRoom, lookup_erase_ne h]

theorem roomAddress_eraseNodeAndOwnedRooms (i r : String) :
    (cache.eraseNodeAndOwnedRooms i).roomAddress r = cache.roomAddress r ∨
      (cache.eraseNodeAndOwnedRooms i).roomAddress r = none := by
  unfold eraseNodeAndOwnedRooms
  split
  · exact .inl rfl
  rename_i info _
  by_cases haddr : info.address = ""
  · simp only [haddr, if_true]
    exact .inl rfl
  simp only [haddr, if_false, roomAddress, Dict.lookup_filter]
  cases cache.rooms.lookup r with
  | none => exact .inl rfl
  | some address =>
    by_cases hown : address = info.address
    · exact .inr (by simp [hown])
    · exact .inl (by simp [Option.filter, hown])

end CacheView

/-! ### Pub/sub -/

inductive PubSubMessage
  | node (nodeId : String) (value : Option NodeInfo)
  /-- A room's new address; empty when the room is gone. -/
  | room (roomId address : String)
  deriving DecidableEq

def handlePubSubMessage (cache : CacheView) : PubSubMessage → CacheView
  | .node nodeId none => cache.eraseNodeAndOwnedRooms nodeId
  | .node nodeId (some info) => cache.upsertNode nodeId info
  | .room roomId address =>
    if address = "" then cache.eraseRoom roomId else cache.upsertRoom roomId address

theorem roomAddress_handlePubSubMessage (cache : CacheView) (m : PubSubMessage) (r : String) :
    (handlePubSubMessage cache m).roomAddress r = cache.roomAddress r ∨
      (handlePubSubMessage cache m).roomAddress r = none ∨
        ∃ address, m = .room r address ∧ address ≠ "" ∧
          (handlePubSubMessage cache m).roomAddress r = some address := by
  match m with
  | .node i none =>
    exact (cache.roomAddress_eraseNodeAndOwnedRooms i r).imp_right .inl
  | .node i (some info) => exact .inl rfl
  | .room r' address =>
    by_cases hr : r = r'
    · subst hr
      by_cases haddr : address = ""
      · exact .inr (.inl (by simp [handlePubSubMessage, haddr]))
      · exact .inr (.inr ⟨address, rfl, haddr, by simp [handlePubSubMessage, haddr]⟩)
    left
    simp only [handlePubSubMessage]
    split
    · exact cache.roomAddress_eraseRoom_of_ne hr
    · exact cache.roomAddress_upsertRoom_of_ne address hr

end MediasoupCpp
