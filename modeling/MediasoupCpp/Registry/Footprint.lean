import MediasoupCpp.Registry.Program

/-!
# What the operations on a room touch

An operation on one room leaves the key and the cached address of every other room alone.  The
operations are programs, so this is a property of their actions: each room-specific action is
about the room of the operation.

Main result: `call_frame`.

Source: `src/RoomRegistry.cpp`.
-/

namespace MediasoupCpp

open Prog

def About (r : String) : RegistryAct → Prop
  | .roomAddress r' | .upsertRoom r' _ | .eraseRoom r' | .evalClaim r' | .getRoom r' | .delRoom r'
  | .expireRoom r' | .publish (.room r' _) => r' = r
  | .eraseNodeAndOwnedRooms _ | .replaceAll _ _ | .setNode _ _ | .publish (.node _ _) => False
  | _ => True

def Resolves (r : String) : RegistryAct → Prop
  | .lock | .unlock | .ensureConnected | .handleDisconnect | .nodeAddressForId _ | .cachedNodes
  | .upsertNode _ _ | .mergeNodes _ | .getNode _ | .scanNodes | .mgetNodes _ => True
  | .roomAddress r' | .upsertRoom r' _ | .getRoom r' => r' = r
  | _ => False

theorem about_of_resolves {r : String} {a : RegistryAct} (h : Resolves r a) : About r a := by
  cases a <;> trivial

section Operations

variable {cfg : RegistryConfig} {r : String} {α : Type} {p : RegistryProg α}

theorem only_withLock {P : RegistryAct → Prop} (hlock : P .lock) (hunl : P .unlock)
    (hp : p.Only P) : (withLock p).Only P := by
  refine ⟨hlock, fun _ => hp.bind fun x => ?_⟩
  exact ⟨hunl, fun _ => trivial⟩

theorem about_withLock (hp : p.Only (About r)) : (withLock p).Only (About r) :=
  only_withLock trivial trivial hp

theorem resolves_withLock (hp : p.Only (Resolves r)) : (withLock p).Only (Resolves r) :=
  only_withLock trivial trivial hp

theorem about_publishRoomUpdate (address : String) :
    (publishRoomUpdate r address).Only (About r) := by
  refine ⟨trivial, fun up => ?_⟩
  cases up
  · trivial
  refine ⟨rfl, fun reply => ?_⟩
  cases reply
  · exact ⟨trivial, fun _ => trivial⟩
  · trivial

theorem resolves_refreshCachedRemoteRoomAddressUnlocked (cached : String) :
    (refreshCachedRemoteRoomAddressUnlocked cfg r cached).Only (Resolves r) := by
  unfold refreshCachedRemoteRoomAddressUnlocked
  split
  · trivial
  refine ⟨trivial, fun up => ?_⟩
  cases up
  · trivial
  refine ⟨rfl, fun owner => ?_⟩
  rcases owner with _ | _ | owner
  · trivial
  · trivial
  refine ⟨trivial, fun info => ?_⟩
  rcases info with _ | _ | info
  · trivial
  · trivial
  · simp only [ret_bind]
    split <;> trivial

theorem about_refreshCachedRemoteRoomAddressUnlocked (cached : String) :
    (refreshCachedRemoteRoomAddressUnlocked cfg r cached).Only (About r) :=
  (resolves_refreshCachedRemoteRoomAddressUnlocked cached).mono fun _ => about_of_resolves

theorem about_keepRoom : (keepRoom cfg r).Only (About r) := by
  refine ⟨rfl, fun _ => ?_⟩
  refine (about_publishRoomUpdate _).bind fun _ => ?_
  trivial

variable (clientIp : String)

theorem about_claimRoomEval : (claimRoomEval cfg r clientIp).Only (About r) := by
  refine ⟨rfl, fun reply => ?_⟩
  rcases reply with _ | _ | _ | _ | _
  · exact ⟨trivial, fun _ => trivial⟩
  · refine ⟨trivial, fun nodes => ?_⟩
    simp only [ret_bind]
    split
    · exact ⟨rfl, fun _ => trivial⟩
    · exact about_keepRoom
  · exact about_keepRoom
  · exact about_keepRoom
  · simp only [ret_bind]
    split
    · exact ⟨rfl, fun _ => trivial⟩
    · trivial

theorem about_claimRoom : (claimRoom cfg r clientIp).Only (About r) := by
  refine about_withLock ⟨trivial, fun up => ?_⟩
  cases up
  · trivial
  refine ⟨rfl, fun cached => ?_⟩
  cases cached with
  | none => exact about_claimRoomEval clientIp
  | some cached =>
    simp only [ret_bind]
    split
    · trivial
    refine (about_refreshCachedRemoteRoomAddressUnlocked cached).bind fun out => ?_
    split
    · trivial
    split
    · exact ⟨rfl, fun _ => trivial⟩
    · exact ⟨rfl, fun _ => about_claimRoomEval clientIp⟩

theorem about_unregisterRoom : (unregisterRoom r).Only (About r) := by
  refine ⟨rfl, fun _ => about_withLock ⟨trivial, fun up => ?_⟩⟩
  cases up
  · trivial
  refine ⟨rfl, fun reply => ?_⟩
  cases reply
  · exact ⟨trivial, fun _ => about_publishRoomUpdate _⟩
  · exact about_publishRoomUpdate _

theorem resolves_lockedCommand {p : RegistryProg (Option α)} (hp : p.Only (Resolves r)) :
    (lockedCommand p).Only (Resolves r) := by
  refine resolves_withLock ⟨trivial, fun up => ?_⟩
  cases up
  · trivial
  refine hp.bind fun reply => ?_
  cases reply
  · exact ⟨trivial, fun _ => trivial⟩
  · trivial

theorem resolves_syncNodesSnapshot : syncNodesSnapshot.Only (Resolves r) := by
  refine Prog.Only.bind (fun up => ?_) (resolves_withLock ⟨trivial, fun _ => trivial⟩)
  cases up
  · trivial
  refine Prog.Only.bind (fun nodes => ?_) ?_
  · cases nodes
    · trivial
    · exact ⟨trivial, fun _ => trivial⟩
  refine Prog.Only.bind (fun ids => ?_) (resolves_lockedCommand ⟨trivial, fun _ => trivial⟩)
  rcases ids with _ | _ | ⟨_, ids⟩
  · trivial
  · trivial
  refine Prog.Only.bind (fun values => ?_)
    (resolves_lockedCommand ⟨trivial, fun _ => trivial⟩)
  cases values <;> trivial

theorem resolves_resolveOwner : (resolveOwner r).Only (Resolves r) := by
  refine resolves_withLock ⟨trivial, fun up => ?_⟩
  cases up
  · trivial
  refine ⟨rfl, fun owner => ?_⟩
  rcases owner with _ | _ | owner
  · trivial
  · trivial
  refine ⟨trivial, fun addr => ?_⟩
  cases addr
  · refine ⟨trivial, fun info => ?_⟩
    rcases info with _ | _ | info
    · trivial
    · trivial
    simp only [ret_bind]
    split
    · exact ⟨trivial, fun _ => ⟨rfl, fun _ => trivial⟩⟩
    · trivial
  · exact ⟨rfl, fun _ => trivial⟩

theorem resolves_resolveBest : (resolveBest cfg clientIp).Only (Resolves r) := by
  refine ⟨trivial, fun nodes => ?_⟩
  simp only [ret_bind, bind_eq]
  refine Prog.Only.bind (fun refresh => ?_) ?_
  · cases refresh
    · trivial
    · refine resolves_syncNodesSnapshot.bind fun _ => ?_
      exact ⟨trivial, fun _ => trivial⟩
  unfold shouldRefreshNodes
  split
  · trivial
  split
  · exact ⟨trivial, fun _ => trivial⟩
  · trivial

theorem resolves_resolveRoom : (resolveRoom cfg r clientIp).Only (Resolves r) := by
  refine Prog.Only.bind (fun up => ?_) (resolves_withLock ⟨trivial, fun _ => trivial⟩)
  cases up
  · trivial
  refine ⟨rfl, fun cached => ?_⟩
  cases cached
  · refine resolves_resolveOwner.bind fun addr => ?_
    cases addr
    · refine (resolves_resolveBest clientIp).bind fun _ => ?_
      trivial
    · trivial
  · trivial

theorem about_resolveBest : (resolveBest cfg clientIp).Only (About r) :=
  (resolves_resolveBest clientIp).mono fun _ => about_of_resolves

theorem about_resolveRoom : (resolveRoom cfg r clientIp).Only (About r) :=
  (resolves_resolveRoom clientIp).mono fun _ => about_of_resolves

end Operations

/-! ### The frame -/

/-- What belongs to the room `r` is as before: its key, its cached address, no new
message about it, and whether Redis answers. -/
structure SameRoom (r : String) (s s' : RegistryShared × RegistryLocal) : Prop where
  key : s'.1.redis.rooms.lookup r = s.1.redis.rooms.lookup r
  cached : s'.2.cache.roomAddress r = s.2.cache.roomAddress r
  messages : ∀ i address, .room r address ∈ s'.1.inbox i → .room r address ∈ s.1.inbox i
  reachable : s'.1.reachable = s.1.reachable

theorem SameRoom.refl (r : String) (s : RegistryShared × RegistryLocal) : SameRoom r s s :=
  ⟨rfl, rfl, fun _ _ h => h, rfl⟩

theorem SameRoom.trans {r : String} {s s' s'' : RegistryShared × RegistryLocal}
    (h : SameRoom r s s') (h' : SameRoom r s' s'') : SameRoom r s s'' :=
  ⟨h'.key.trans h.key, h'.cached.trans h.cached,
    fun i address hm => h.messages i address (h'.messages i address hm),
    h'.reachable.trans h.reachable⟩

theorem exec_frame {i r r' : String} (hr : r' ≠ r) {a : RegistryAct} (ha : About r a)
    (s : RegistryShared × RegistryLocal) : SameRoom r' s (exec i a s).2 := by
  obtain ⟨w, n⟩ := s
  have hcmd : ∀ {α : Type} (f : Redis → α × Redis),
      (f w.redis).2.rooms.lookup r' = w.redis.rooms.lookup r' →
        SameRoom r' (w, n) (command w n f).2 :=
    fun f hf => command_inv f ⟨hf, rfl, fun _ _ h => h, rfl⟩ ⟨rfl, rfl, fun _ _ h => h, rfl⟩
  cases a with
  | upsertRoom r₁ address =>
    obtain rfl : r₁ = r := ha
    exact ⟨rfl, CacheView.roomAddress_upsertRoom_of_ne _ _ hr, fun _ _ h => h, rfl⟩
  | eraseRoom r₁ =>
    obtain rfl : r₁ = r := ha
    exact ⟨rfl, CacheView.roomAddress_eraseRoom_of_ne _ hr, fun _ _ h => h, rfl⟩
  | evalClaim r₁ =>
    obtain rfl : r₁ = r := ha
    exact hcmd _ (Redis.evalClaim_room_of_ne hr)
  | delRoom r₁ =>
    obtain rfl : r₁ = r := ha
    exact hcmd _ ((Redis.delRoom_lookup _ _).trans (if_neg hr))
  | publish m =>
    cases m with
    | node => exact ha.elim
    | room r₁ address =>
      obtain rfl : r₁ = r := ha
      simp only [exec]
      split
      · refine ⟨rfl, rfl, fun j a hm => ?_, rfl⟩
        simpa [RegistryShared.publish, hr] using hm
      · exact ⟨rfl, rfl, fun _ _ h => h, rfl⟩
  | eraseNodeAndOwnedRooms | replaceAll | setNode => exact ha.elim
  | getRoom | getNode | expireRoom | expireNode | existsNode | scanNodes | scanRooms
  | mgetNodes | mgetRooms => exact hcmd _ rfl
  | _ => exact ⟨rfl, rfl, fun _ _ h => h, rfl⟩

theorem call_frame {α : Type} {i r r' : String} (hr : r' ≠ r) {p : RegistryProg α}
    (hp : p.Only (About r)) (s : RegistryShared × RegistryLocal) : SameRoom r' s (call i p s).2 :=
  hp.runWith_inv (J := SameRoom r' s) (fun _ s' ha hs' => hs'.trans (exec_frame hr ha s'))
    (SameRoom.refl r' s)

end MediasoupCpp
