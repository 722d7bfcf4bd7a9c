import MediasoupCpp.Lib.Run
import MediasoupCpp.Room.Keys

/-!
# The sockets of the peers

The loop finds the socket of a peer by the key of the peer, and the sockets of a room by the room.
A socket that joins is entered in both maps; if the peer had another socket, that one is taken out
and is no longer served, and a mapping that the joining socket had under another key is taken out
as well.

Main results: `broadcast_reaches_peers`, `socketMaps_spec`.

Source: `src/SignalingSocketState.h`.
-/

namespace MediasoupCpp

open Runs Dict Option Function

/-! ### The maps -/

/-- The sockets by the key of the peer and by room, and what is kept with each socket. -/
structure SocketMaps where
  sockets : ℕ → PerSocketData := fun _ => {}
  peers : Dict String ℕ := ∅
  roomPeers : Dict String (Finset ℕ) := ∅

def roomOfKey? (key : String) : Option String :=
  (key.toList.findIdx? (· == '/')).map fun delimiterPos =>
    String.ofList (key.toList.take delimiterPos)

namespace SocketMaps

variable (m : SocketMaps)

def room (roomId : String) : Finset ℕ := (m.roomPeers.lookup roomId).getD ∅

variable (ws : ℕ)

def removeSocketFromRoomPeers (roomId : String) : SocketMaps :=
  match m.roomPeers.lookup roomId with
  | none => m
  | some sockets =>
    if sockets.erase ws = ∅ then { m with roomPeers := m.roomPeers.erase roomId }
    else { m with roomPeers := m.roomPeers.insert roomId (sockets.erase ws) }

def removeMapping (mapKey : String) (m : SocketMaps) (entry : String × ℕ) : SocketMaps :=
  if entry.2 ≠ ws ∨ entry.1 = mapKey then m
  else
    let m :=
      match roomOfKey? entry.1 with
      | some roomId => m.removeSocketFromRoomPeers ws roomId
      | none => m
    { m with peers := m.peers.erase entry.1 }

def removeOtherMappings (mapKey : String) : SocketMaps :=
  m.peers.toPairs.foldl (removeMapping ws mapKey) m

def retire (oldWs? : Option ℕ) (roomId : String) : SocketMaps :=
  match oldWs? with
  | some oldWs =>
    { m with
      sockets := Function.update m.sockets oldWs
        { m.sockets oldWs with alive := false } }.removeSocketFromRoomPeers oldWs roomId
  | none => m

variable (roomId peerId : String)

/-- The socket has joined as a peer.  What is returned is the socket it replaces. -/
def registerJoinedSocket (sessionId : ℕ) :
    SocketMaps × Option ℕ :=
  let mapKey := wsMapKey roomId peerId
  let m := m.removeOtherMappings ws mapKey
  let m :=
    { m with
      sockets := Function.update m.sockets ws
        { m.sockets ws with
          roomId := roomId, peerId := peerId, sessionId := sessionId }.clearPendingSocketJoin }
  let oldWs? := (m.peers.lookup mapKey).filter (· != ws)
  let m := { m with peers := m.peers.insert mapKey ws }.retire oldWs? roomId
  ({ m with roomPeers := m.roomPeers.insert roomId (insert ws (m.room roomId)) }, oldWs?)

def unregisterSocketSession : SocketMaps × Bool :=
  let mapKey := wsMapKey roomId peerId
  if m.peers.lookup mapKey = some ws then
    ({ m with peers := m.peers.erase mapKey }.removeSocketFromRoomPeers ws roomId, true)
  else (m, false)

def notifyTarget : Option ℕ := m.peers.lookup (wsMapKey roomId peerId)

def broadcastTargets (roomId excludePeerId : String) : Finset ℕ :=
  let excludeWs? :=
    if excludePeerId = "" then none else m.peers.lookup (wsMapKey roomId excludePeerId)
  (m.room roomId).filter fun ws => excludeWs? ≠ some ws

end SocketMaps

inductive SocketCall
  | register (ws : ℕ) (roomId peerId : JoinId) (sessionId : ℕ)
  | unregister (ws : ℕ) (roomId peerId : JoinId)

def socketStep (m : SocketMaps) : SocketCall → SocketMaps
  | .register ws roomId peerId sessionId => (m.registerJoinedSocket ws roomId peerId sessionId).1
  | .unregister ws roomId peerId => (m.unregisterSocketSession ws roomId peerId).1

/-! ### Keys -/

theorem roomOfKey?_wsMapKey (roomId peerId : JoinId) :
    roomOfKey? (wsMapKey roomId peerId) = some roomId.val := by
  have hkey : (wsMapKey roomId peerId).toList = roomId.val.toList ++ '/' :: peerId.val.toList :=
    toList_makePeerKey _ _
  rw [roomOfKey?, hkey, Separator.findIdx?_append_cons roomId.slash_notMem, map_some,
    List.take_left, String.ofList_toList]

theorem eq_of_wsMapKey_eq {r p : String} {roomId peerId : JoinId}
    (h : wsMapKey r p = wsMapKey roomId peerId) : r = roomId.val := by
  have hlist := congrArg String.toList h
  rw [show wsMapKey r p = makePeerKey r p from rfl, toList_makePeerKey,
    show wsMapKey roomId peerId = makePeerKey roomId peerId from rfl, toList_makePeerKey] at hlist
  refine String.toList_inj.mp (Separator.eq_of_concat_isPrefix roomId.slash_notMem
    peerId.slash_notMem ⟨p.toList, ?_⟩)
  rw [List.append_assoc, List.singleton_append, hlist]

namespace SocketMaps

variable {m : SocketMaps} {ws : ℕ} {roomId peerId : String}

/-! ### Taking a socket out of a room -/

def NoEmptyRoom (m : SocketMaps) : Prop :=
  ∀ (roomId : String) (sockets : Finset ℕ), m.roomPeers.lookup roomId = some sockets →
    sockets.Nonempty

theorem removeSocketFromRoomPeers_frame (m : SocketMaps) (ws : ℕ) (roomId : String) :
    (m.removeSocketFromRoomPeers ws roomId).peers = m.peers ∧
      (m.removeSocketFromRoomPeers ws roomId).sockets = m.sockets := by
  unfold removeSocketFromRoomPeers
  split
  · exact ⟨rfl, rfl⟩
  · split <;> exact ⟨rfl, rfl⟩

theorem room_removeSocketFromRoomPeers (m : SocketMaps) (ws : ℕ) (roomId r : String) :
    (m.removeSocketFromRoomPeers ws roomId).room r =
      if r = roomId then (m.room r).erase ws else m.room r := by
  unfold removeSocketFromRoomPeers
  split
  next hnone =>
    split
    next hr =>
      rw [room, hr, hnone]
      rfl
    · rfl
  next hsome =>
    split
    next hemp =>
      rw [room, lookup_erase_eq]
      split
      next hr =>
        rw [room, hr, hsome, getD_some, hemp]
        rfl
      · rfl
    · rw [room, lookup_insert_eq]
      split
      next hr =>
        rw [room, hr, hsome]
        rfl
      · rfl

theorem NoEmptyRoom.removeSocketFromRoomPeers (h : m.NoEmptyRoom) (ws : ℕ) (roomId : String) :
    (m.removeSocketFromRoomPeers ws roomId).NoEmptyRoom := by
  intro r sockets' hlook
  unfold SocketMaps.removeSocketFromRoomPeers at hlook
  split at hlook
  · exact h _ _ hlook
  split at hlook
  · rw [lookup_erase_eq] at hlook
    split at hlook
    · cases hlook
    · exact h _ _ hlook
  rename_i hne
  rw [lookup_insert_eq] at hlook
  split at hlook
  · cases hlook
    exact Finset.nonempty_iff_ne_empty.mpr hne
  · exact h _ _ hlook

/-! ### Taking out the other mappings of a socket -/

def IsOther (ws : ℕ) (mapKey : String) (entry : String × ℕ) : Prop :=
  entry.2 = ws ∧ entry.1 ≠ mapKey

theorem removeMapping_of_not {mapKey : String} {entry : String × ℕ}
    (h : ¬IsOther ws mapKey entry) : removeMapping ws mapKey m entry = m :=
  if_pos (by rwa [IsOther, not_and_or, not_not] at h)

theorem removeMapping_of_isOther {mapKey : String} {entry : String × ℕ}
    (h : IsOther ws mapKey entry) :
    let m' := removeMapping ws mapKey m entry
    m'.sockets = m.sockets ∧ m'.peers = m.peers.erase entry.1 ∧
      (∀ r, m'.room r = if roomOfKey? entry.1 = some r then (m.room r).erase ws else m.room r) ∧
      (m.NoEmptyRoom → m'.NoEmptyRoom) := by
  unfold removeMapping
  rw [if_neg (by rwa [not_or, not_not])]
  cases hroom : roomOfKey? entry.1 with
  | none => exact ⟨rfl, rfl, fun r => rfl, fun h => h⟩
  | some roomId =>
    obtain ⟨hprs, hsocks⟩ := m.removeSocketFromRoomPeers_frame ws roomId
    dsimp only
    refine ⟨hsocks, by rw [hprs], fun r => ?_, fun h => h.removeSocketFromRoomPeers ws roomId⟩
    refine (m.room_removeSocketFromRoomPeers ws roomId r).trans (if_congr ?_ rfl rfl)
    rw [some_inj, eq_comm]

theorem foldl_removeMapping (ws : ℕ) (mapKey : String) (entries : List (String × ℕ))
    (m : SocketMaps) :
    let m' := entries.foldl (removeMapping ws mapKey) m
    m'.sockets = m.sockets ∧
      (∀ key w, m'.peers.lookup key = some w ↔ m.peers.lookup key = some w ∧
        ¬∃ e ∈ entries, IsOther ws mapKey e ∧ e.1 = key) ∧
      (∀ r w, w ∈ m'.room r ↔ w ∈ m.room r ∧
        ¬(w = ws ∧ ∃ e ∈ entries, IsOther ws mapKey e ∧ roomOfKey? e.1 = some r)) ∧
      (m.NoEmptyRoom → m'.NoEmptyRoom) := by
  induction entries generalizing m with
  | nil => simp
  | cons e entries ih =>
    obtain ⟨hsocks, hprs, hroom, hemp⟩ := ih (removeMapping ws mapKey m e)
    rw [List.foldl_cons]
    by_cases he : IsOther ws mapKey e
    · obtain ⟨hsocks', hprs', hroom', hemp'⟩ := @removeMapping_of_isOther m ws mapKey e he
      refine ⟨hsocks.trans hsocks', fun key w => ?_, fun r w => ?_, fun h => hemp (hemp' h)⟩
      · rw [hprs, hprs', lookup_erase_eq, List.exists_mem_cons_iff]
        by_cases hkey : key = e.1
        · simp [hkey, he]
        · simp [hkey, Ne.symm hkey]
      rw [hroom, hroom', List.exists_mem_cons_iff]
      by_cases hr : roomOfKey? e.1 = some r
      · rw [if_pos hr, Finset.mem_erase]
        tauto
      · simp [hr]
    · rw [removeMapping_of_not he] at hsocks hprs hroom hemp ⊢
      simp only [List.exists_mem_cons_iff, he, false_and, false_or]
      exact ⟨hsocks, hprs, hroom, hemp⟩

theorem lookup_removeOtherMappings (m : SocketMaps) (ws : ℕ) (mapKey key : String) (w : ℕ) :
    (m.removeOtherMappings ws mapKey).peers.lookup key = some w ↔
      m.peers.lookup key = some w ∧ (w = ws → key = mapKey) := by
  rw [removeOtherMappings, (foldl_removeMapping ws mapKey _ m).2.1]
  refine and_congr_right fun hlook => ?_
  constructor
  · intro hnone hw
    by_contra hkey
    exact hnone ⟨(key, w), mem_toPairs.mpr hlook, ⟨hw, hkey⟩, rfl⟩
  rintro hkey ⟨⟨key', _⟩, hmem, ⟨hws, hne⟩, heq⟩
  have hlook' := mem_toPairs.mp hmem
  rw [show key' = key from heq, hlook, some_inj] at hlook'
  exact hne (heq.trans (hkey (hlook'.trans hws)))

theorem mem_room_removeOtherMappings (m : SocketMaps) (ws : ℕ) (mapKey r : String) (w : ℕ) :
    w ∈ (m.removeOtherMappings ws mapKey).room r ↔
      w ∈ m.room r ∧ ¬(w = ws ∧ ∃ key, m.peers.lookup key = some ws ∧ key ≠ mapKey ∧
        roomOfKey? key = some r) := by
  rw [removeOtherMappings, (foldl_removeMapping ws mapKey _ m).2.2.1]
  refine and_congr_right fun _ => not_congr (and_congr_right fun _ => ?_)
  constructor
  · rintro ⟨⟨key, _⟩, hmem, ⟨rfl, hne⟩, hroom⟩
    exact ⟨key, mem_toPairs.mp hmem, hne, hroom⟩
  · rintro ⟨key, hlook, hne, hroom⟩
    exact ⟨(key, ws), mem_toPairs.mpr hlook, ⟨rfl, hne⟩, hroom⟩

/-! ### A socket joins -/

theorem retire_spec (m : SocketMaps) (oldWs? : Option ℕ) (roomId : String) :
    (m.retire oldWs? roomId).peers = m.peers ∧ (∀ w, (m.retire oldWs? roomId).sockets w =
        if oldWs? = some w then { m.sockets w with alive := false } else m.sockets w) ∧
      (∀ r w, w ∈ (m.retire oldWs? roomId).room r ↔
        w ∈ m.room r ∧ ¬(r = roomId ∧ oldWs? = some w)) ∧
      (m.NoEmptyRoom → (m.retire oldWs? roomId).NoEmptyRoom) := by
  cases oldWs? with
  | none => exact ⟨rfl, fun w => rfl, fun r w => by simp [retire], id⟩
  | some oldWs =>
    unfold retire
    obtain ⟨hprs, hsocks⟩ := removeSocketFromRoomPeers_frame { m with
      sockets := update m.sockets oldWs { m.sockets oldWs with alive := false } }
      oldWs roomId
    refine ⟨hprs, fun w => ?_, fun r w => ?_, fun h => ?_⟩
    · dsimp only
      rw [hsocks]
      by_cases hw : w = oldWs
      · subst hw
        rw [if_pos rfl]
        exact update_self ..
      · rw [if_neg (fun h => hw (some_inj.mp h).symm)]
        exact update_of_ne hw ..
    · dsimp only
      rw [room_removeSocketFromRoomPeers]
      change w ∈ (if r = roomId then (m.room r).erase oldWs else m.room r) ↔ _
      by_cases hr : r = roomId
      · rw [if_pos hr, Finset.mem_erase, some_inj]
        simp only [hr, true_and, ne_comm, and_comm]
      · simp [hr]
    · have hemp : NoEmptyRoom { m with
        sockets := update m.sockets oldWs { m.sockets oldWs with alive := false } } := h
      exact hemp.removeSocketFromRoomPeers oldWs roomId

section Register

variable (m : SocketMaps) (ws : ℕ) (roomId peerId : String) (sessionId : ℕ)

theorem registerJoinedSocket_snd : (m.registerJoinedSocket ws roomId peerId sessionId).2 =
      (m.peers.lookup (wsMapKey roomId peerId)).filter (· != ws) := by
  change ((m.removeOtherMappings ws (wsMapKey roomId peerId)).peers.lookup
    (wsMapKey roomId peerId)).filter (· != ws) = _
  congr 1
  ext w
  rw [lookup_removeOtherMappings]
  exact ⟨And.left, fun h => ⟨h, fun _ => rfl⟩⟩

theorem replaced_iff {oldWs : ℕ} :
    (m.registerJoinedSocket ws roomId peerId sessionId).2 = some oldWs ↔
      m.peers.lookup (wsMapKey roomId peerId) = some oldWs ∧ oldWs ≠ ws := by
  rw [registerJoinedSocket_snd, filter_eq_some_iff]
  simp

def beforeEntering : SocketMaps :=
  let mapKey := wsMapKey roomId peerId
  let cleared := m.removeOtherMappings ws mapKey
  { cleared with
    sockets := Function.update cleared.sockets ws
      { cleared.sockets ws with
        roomId := roomId, peerId := peerId, sessionId := sessionId }.clearPendingSocketJoin
    peers := cleared.peers.insert mapKey ws }

theorem registerJoinedSocket_fst : (m.registerJoinedSocket ws roomId peerId sessionId).1 =
      let entered := (m.beforeEntering ws roomId peerId sessionId).retire
        (m.registerJoinedSocket ws roomId peerId sessionId).2 roomId
      { entered with
        roomPeers := entered.roomPeers.insert roomId (insert ws (entered.room roomId)) } :=
  rfl

theorem lookup_registerJoinedSocket (key : String) (w : ℕ) :
    (m.registerJoinedSocket ws roomId peerId sessionId).1.peers.lookup key = some w ↔
      if key = wsMapKey roomId peerId then w = ws else m.peers.lookup key = some w ∧ w ≠ ws := by
  rw [registerJoinedSocket_fst]
  rw [(retire_spec ..).1]
  change ((m.removeOtherMappings ws (wsMapKey roomId peerId)).peers.insert _ ws).lookup key = _ ↔ _
  rw [lookup_insert_eq]
  split
  · rw [some_inj, eq_comm]
  rename_i hkey
  rw [lookup_removeOtherMappings]
  exact and_congr_right fun _ => imp_congr_right fun _ => iff_false_intro hkey

theorem mem_room_registerJoinedSocket (r : String) (w : ℕ) :
    w ∈ (m.registerJoinedSocket ws roomId peerId sessionId).1.room r ↔ (r = roomId ∧ w = ws) ∨
        w ∈ (m.removeOtherMappings ws (wsMapKey roomId peerId)).room r ∧
          ¬(r = roomId ∧ (m.registerJoinedSocket ws roomId peerId sessionId).2 = some w) := by
  rw [registerJoinedSocket_fst]
  dsimp only
  rw [room, lookup_insert_eq]
  have hroom := (retire_spec (m.beforeEntering ws roomId peerId sessionId)
    (m.registerJoinedSocket ws roomId peerId sessionId).2 roomId).2.2.1 r w
  by_cases hr : r = roomId
  · subst hr
    rw [if_pos rfl, getD_some, Finset.mem_insert, hroom]
    simp only [true_and]
    rfl
  · simp only [hr, false_and, false_or]
    simp only [hr, false_and] at hroom
    exact hroom

theorem sockets_registerJoinedSocket (w : ℕ) :
    let joined := m.registerJoinedSocket ws roomId peerId sessionId
    (joined.1.sockets w).roomId = (if w = ws then roomId else (m.sockets w).roomId) ∧
      (joined.1.sockets w).peerId = (if w = ws then peerId else (m.sockets w).peerId) ∧
      ((joined.1.sockets w).alive = false ↔ (m.sockets w).alive = false ∨ joined.2 = some w) := by
  have hclr : (m.removeOtherMappings ws (wsMapKey roomId peerId)).sockets = m.sockets :=
    (foldl_removeMapping ..).1
  have hbef : (m.beforeEntering ws roomId peerId sessionId).sockets w =
      if w = ws then { m.sockets ws with
        roomId := roomId, peerId := peerId, sessionId := sessionId }.clearPendingSocketJoin
      else m.sockets w := by
    unfold beforeEntering
    dsimp only
    rw [hclr, update_apply]
  dsimp only
  rw [registerJoinedSocket_fst]
  dsimp only
  rw [(retire_spec ..).2.1, hbef]
  by_cases hw : w = ws
  · subst hw
    simp only [if_true]
    split_ifs with hold
    · simp [hold, PerSocketData.clearPendingSocketJoin]
    · simp [hold, PerSocketData.clearPendingSocketJoin]
  · split_ifs with hold
    · simp [hold]
    · simp [hold]

theorem NoEmptyRoom.register (h : m.NoEmptyRoom) :
    (m.registerJoinedSocket ws roomId peerId sessionId).1.NoEmptyRoom := by
  intro r sockets hlook
  rw [registerJoinedSocket_fst] at hlook
  rw [lookup_insert_eq] at hlook
  split at hlook
  · cases hlook
    exact Finset.insert_nonempty _ _
  have hclr : (m.beforeEntering ws roomId peerId sessionId).NoEmptyRoom :=
    (foldl_removeMapping ws (wsMapKey roomId peerId) _ m).2.2.2 h
  exact (retire_spec ..).2.2.2 hclr _ _ hlook

end Register

/-! ### The maps agree -/

structure Consistent (m : SocketMaps) : Prop where
  keyed : ∀ {key : String} {ws : ℕ}, m.peers.lookup key = some ws →
    ∃ roomId peerId : JoinId, key = wsMapKey roomId peerId ∧
      (m.sockets ws).roomId = roomId ∧ (m.sockets ws).peerId = peerId
  rooms : ∀ (roomId : String) (ws : ℕ), ws ∈ m.room roomId ↔
    ∃ peerId, m.peers.lookup (wsMapKey roomId peerId) = some ws
  noEmptyRoom : m.NoEmptyRoom

namespace Consistent

section

variable (h : m.Consistent)
include h

theorem key_eq {key : String} (hlook : m.peers.lookup key = some ws) :
    key = wsMapKey (m.sockets ws).roomId (m.sockets ws).peerId := by
  obtain ⟨roomId, peerId, rfl, hroom, hpeer⟩ := h.keyed hlook
  rw [hroom, hpeer]

theorem key_unique {key key' : String} (hkey : m.peers.lookup key = some ws)
    (hkey' : m.peers.lookup key' = some ws) : key = key' :=
  (h.key_eq hkey).trans (h.key_eq hkey').symm

theorem roomOfKey?_eq (hlook : m.peers.lookup (wsMapKey roomId peerId) = some ws) :
    roomOfKey? (wsMapKey roomId peerId) = some roomId := by
  obtain ⟨_, _, hkey, -, -⟩ := h.keyed hlook
  rw [hkey, roomOfKey?_wsMapKey, eq_of_wsMapKey_eq hkey]

theorem mem_room_removeOtherMappings_iff (roomId peerId : JoinId) (r : String) (w : ℕ) :
    w ∈ (m.removeOtherMappings ws (wsMapKey roomId peerId)).room r ↔
      ∃ p, m.peers.lookup (wsMapKey r p) = some w ∧
        (w = ws → wsMapKey r p = wsMapKey roomId peerId) := by
  rw [mem_room_removeOtherMappings, h.rooms]
  constructor
  · rintro ⟨⟨p, hp⟩, hnone⟩
    refine ⟨p, hp, fun hw => ?_⟩
    by_contra hne
    subst hw
    exact hnone ⟨rfl, _, hp, hne, h.roomOfKey?_eq hp⟩
  · rintro ⟨p, hp, hkey⟩
    refine ⟨⟨p, hp⟩, ?_⟩
    rintro ⟨rfl, _, hlook, hne, -⟩
    exact hne ((h.key_unique hlook hp).trans (hkey rfl))

theorem register (ws : ℕ) (roomId peerId : JoinId) (sessionId : ℕ) :
    (m.registerJoinedSocket ws roomId peerId sessionId).1.Consistent where
  keyed {key w} hlook := by
    rw [lookup_registerJoinedSocket] at hlook
    obtain ⟨hroom, hpeer, -⟩ := m.sockets_registerJoinedSocket ws roomId peerId sessionId w
    rw [hroom, hpeer]
    split at hlook
    next hkey =>
      exact ⟨roomId, peerId, hkey, if_pos hlook, if_pos hlook⟩
    · rw [if_neg hlook.2, if_neg hlook.2]
      exact h.keyed hlook.1
  rooms r w := by
    rw [mem_room_registerJoinedSocket, h.mem_room_removeOtherMappings_iff, replaced_iff]
    simp only [lookup_registerJoinedSocket]
    constructor
    · rintro (⟨rfl, rfl⟩ | ⟨⟨p, hp, hkey⟩, hkept⟩)
      · exact ⟨peerId, by rw [if_pos rfl]⟩
      refine ⟨p, ?_⟩
      split
      · -- the socket under the key is the joining one: another one would be replaced
        rename_i heq
        by_contra hw
        rw [heq] at hp
        exact hkept ⟨eq_of_wsMapKey_eq heq, hp, hw⟩
      next hne =>
        exact ⟨hp, fun hw => hne (hkey hw)⟩
    · rintro ⟨p, hp⟩
      split_ifs at hp with heq
      · exact .inl ⟨eq_of_wsMapKey_eq heq, hp⟩
      refine .inr ⟨⟨p, hp.1, fun hw => absurd hw hp.2⟩, ?_⟩
      rintro ⟨-, hold, -⟩
      exact heq (h.key_unique hp.1 hold)
  noEmptyRoom := h.noEmptyRoom.register _ _ _ _ _

theorem unregister (ws : ℕ) (roomId peerId : JoinId) :
    (m.unregisterSocketSession ws roomId peerId).1.Consistent := by
  unfold unregisterSocketSession
  dsimp only
  split
  next hmap =>
    obtain ⟨hprs, hsocks⟩ := removeSocketFromRoomPeers_frame
      { m with peers := m.peers.erase (wsMapKey roomId peerId) } ws roomId.val
    refine ⟨fun {key w} hlook => ?_, fun r w => ?_, ?_⟩
    · dsimp only at hlook ⊢
      rw [hprs, lookup_erase_eq] at hlook
      rw [hsocks]
      split at hlook
      · cases hlook
      · exact h.keyed hlook
    · rw [room_removeSocketFromRoomPeers, hprs]
      simp only [lookup_erase_eq]
      change w ∈ (if r = roomId.val then (m.room r).erase ws else m.room r) ↔ _
      have hmem : w ∈ (if r = roomId.val then (m.room r).erase ws else m.room r) ↔
          w ∈ m.room r ∧ ¬(r = roomId.val ∧ w = ws) := by
        by_cases hr : r = roomId.val
        · rw [if_pos hr, Finset.mem_erase, and_comm]
          simp [hr]
        · simp [hr]
      rw [hmem, h.rooms]
      constructor
      · rintro ⟨⟨p, hp⟩, hkept⟩
        refine ⟨p, ?_⟩
        rw [if_neg, hp]
        intro heq
        rw [heq, hmap, some_inj] at hp
        exact hkept ⟨eq_of_wsMapKey_eq heq, hp.symm⟩
      · rintro ⟨p, hp⟩
        split at hp
        · cases hp
        rename_i hne
        refine ⟨⟨p, hp⟩, ?_⟩
        rintro ⟨-, rfl⟩
        exact hne (h.key_unique hp hmap)
    · have hemp : NoEmptyRoom { m with peers := m.peers.erase (wsMapKey roomId peerId) } :=
        h.noEmptyRoom
      exact hemp.removeSocketFromRoomPeers ws roomId
  · exact h

end

end Consistent

/-! ### Runs -/

variable (sockets : ℕ → PerSocketData)

def start : SocketMaps where
  sockets := sockets

theorem consistent_start : (start sockets).Consistent where
  keyed h := by cases h
  rooms roomId ws := ⟨fun h => absurd h (Finset.notMem_empty ws), fun ⟨_, h⟩ => by cases h⟩
  noEmptyRoom _ _ h := by cases h

theorem Consistent.step (h : m.Consistent) (call : SocketCall) :
    (socketStep m call).Consistent := by
  cases call with
  | register ws roomId peerId sessionId => exact h.register ws roomId peerId sessionId
  | unregister ws roomId peerId => exact h.unregister ws roomId peerId

theorem consistent_run (calls : List SocketCall) :
    (runFrom socketStep (start sockets) calls).Consistent :=
  runFrom_inv _ (fun _ call h => h.step call) calls _ (consistent_start sockets)

/-- **A broadcast reaches the sockets to which the peers of the room are notified**, without that of
the peer that is left out. -/
theorem broadcast_reaches_peers (calls : List SocketCall) (roomId excludePeerId : String) (ws : ℕ) :
    let m := runFrom socketStep (start sockets) calls
    ws ∈ m.broadcastTargets roomId excludePeerId ↔
      ∃ peerId, m.notifyTarget roomId peerId = some ws ∧
        (excludePeerId = "" ∨ m.notifyTarget roomId excludePeerId ≠ some ws) := by
  unfold broadcastTargets notifyTarget
  dsimp only
  rw [Finset.mem_filter, (consistent_run sockets calls).rooms, exists_and_right]
  by_cases hexclude : excludePeerId = "" <;> simp [hexclude]

end SocketMaps

/-! ### Sockets that are replaced -/

def SocketCall.replaces? (m : SocketMaps) : SocketCall → Option ℕ
  | .register ws roomId peerId sessionId => (m.registerJoinedSocket ws roomId peerId sessionId).2
  | .unregister .. => none

def SocketCall.joins? : SocketCall → Option ℕ
  | .register ws .. => some ws
  | .unregister .. => none

namespace SocketMaps

variable {m : SocketMaps} {w : ℕ}

theorem alive_step (call : SocketCall) (h : (m.sockets w).alive = false) :
    ((socketStep m call).sockets w).alive = false := by
  cases call with
  | register ws roomId peerId sessionId =>
    exact (m.sockets_registerJoinedSocket ws roomId peerId sessionId w).2.2.mpr (.inl h)
  | unregister ws roomId peerId =>
    unfold socketStep unregisterSocketSession
    dsimp only
    split
    · rw [(removeSocketFromRoomPeers_frame _ _ _).2]
      exact h
    · exact h

theorem lookup_of_lookup_step {call : SocketCall} {key : String} (hcall : call.joins? ≠ some w)
    (h : (socketStep m call).peers.lookup key = some w) : m.peers.lookup key = some w := by
  cases call with
  | register ws roomId peerId sessionId =>
    rw [socketStep, lookup_registerJoinedSocket] at h
    split at h
    · exact absurd (congrArg some h.symm) hcall
    · exact h.1
  | unregister ws roomId peerId =>
    unfold socketStep unregisterSocketSession at h
    dsimp only at h
    split at h
    · rw [(removeSocketFromRoomPeers_frame _ _ _).1, lookup_erase_eq] at h
      split at h
      · cases h
      · exact h
    · exact h

theorem Consistent.replaced (h : m.Consistent) {call : SocketCall}
    (hcall : call.replaces? m = some w) : ((socketStep m call).sockets w).alive = false ∧
      ∀ key, (socketStep m call).peers.lookup key ≠ some w := by
  cases call with
  | unregister => cases hcall
  | register ws roomId peerId sessionId =>
    refine ⟨(m.sockets_registerJoinedSocket ws roomId peerId sessionId w).2.2.mpr (.inr hcall),
      fun key hlook => ?_⟩
    obtain ⟨hmap, hne⟩ := (m.replaced_iff ws roomId peerId sessionId).mp hcall
    rw [socketStep, lookup_registerJoinedSocket] at hlook
    split at hlook
    · exact hne hlook
    next hkey =>
      exact hkey (h.key_unique hlook.1 hmap)

theorem alive_run (calls : List SocketCall) (h : (m.sockets w).alive = false) :
    ((runFrom socketStep m calls).sockets w).alive = false :=
  runFrom_inv (fun m => (m.sockets w).alive = false) (fun _ call h => alive_step call h) calls m h

theorem lookup_ne_run {calls : List SocketCall} (hcalls : ∀ call ∈ calls, call.joins? ≠ some w)
    (h : ∀ key, m.peers.lookup key ≠ some w) (key : String) :
    (runFrom socketStep m calls).peers.lookup key ≠ some w := by
  have hmeet : StepsMeet socketStep (fun _ call => call.joins? ≠ some w) m calls :=
    stepsMeet_of_forall hcalls m
  refine StepsMeet.inv (fun m => ∀ key : String, m.peers.lookup key ≠ some w) ?_ calls m hmeet h key
  intro m call h hcall key hlook
  exact h key (lookup_of_lookup_step hcall hlook)

/-- **The maps of the sockets after any calls.**  A socket is under one key at most, and the key
is that of the room and the peer kept with it; the sockets of a room are those under the keys
of the room; no empty set is kept; and a socket that a join has replaced is not served any
more, and is in no map until it joins again. -/
theorem socketMaps_spec (sockets : ℕ → PerSocketData) (calls : List SocketCall) :
    (∀ ws key key', (runFrom socketStep (start sockets) calls).peers.lookup key = some ws →
      (runFrom socketStep (start sockets) calls).peers.lookup key' = some ws → key = key') ∧
    (∀ key ws, (runFrom socketStep (start sockets) calls).peers.lookup key = some ws →
      key = wsMapKey ((runFrom socketStep (start sockets) calls).sockets ws).roomId
        ((runFrom socketStep (start sockets) calls).sockets ws).peerId) ∧
    (∀ roomId ws, ws ∈ (runFrom socketStep (start sockets) calls).room roomId ↔
      ∃ peerId, (runFrom socketStep (start sockets) calls).peers.lookup
        (wsMapKey roomId peerId) = some ws) ∧
    (∀ roomId roomSockets,
      (runFrom socketStep (start sockets) calls).roomPeers.lookup roomId = some roomSockets →
        roomSockets ≠ ∅) ∧
    ∀ before call after oldWs, calls = before ++ call :: after →
      call.replaces? (runFrom socketStep (start sockets) before) = some oldWs →
      ((runFrom socketStep (start sockets) calls).sockets oldWs).alive = false ∧
        ((∀ later ∈ after, later.joins? ≠ some oldWs) →
          (∀ key, (runFrom socketStep (start sockets) calls).peers.lookup key ≠ some oldWs) ∧
          ∀ roomId, oldWs ∉ (runFrom socketStep (start sockets) calls).room roomId) := by
  have h := consistent_run sockets calls
  refine ⟨fun ws key key' => h.key_unique, fun key ws => h.key_eq, h.rooms, fun r s hs =>
    (h.noEmptyRoom r s hs).ne_empty, ?_⟩
  rintro before call after oldWs rfl hcall
  obtain ⟨halive, hlook⟩ := (consistent_run sockets before).replaced hcall
  have hrms := h.rooms
  rw [runFrom_append, runFrom_cons] at hrms ⊢
  refine ⟨alive_run after halive, fun haft => ⟨lookup_ne_run haft hlook, ?_⟩⟩
  intro roomId hmem
  obtain ⟨peerId, hpeer⟩ := (hrms roomId oldWs).mp hmem
  exact lookup_ne_run haft hlook _ hpeer

end SocketMaps

end MediasoupCpp
