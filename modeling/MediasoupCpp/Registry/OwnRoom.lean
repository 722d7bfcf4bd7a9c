import Mathlib.Tactic.Tauto
import MediasoupCpp.Registry.Footprint

/-!
# A room no other node touches

While only one node claims and gives up a room, the key names that node or is absent, and the
node's cache can be right about it.  The operations keep it right; a pub/sub message does if it is
right at the moment it is handled.

Main results: `OwnRoom.claimRoom`, `OwnRoom.unregisterRoom`.

Source: `src/RoomRegistry.cpp`, `src/RoomRegistryPubSub.cpp`.
-/

namespace MediasoupCpp

section OwnRoom

variable {cfg : RegistryConfig} {r clientIp : String} {st : RegistryShared × RegistryLocal}

/-- Nobody but this node touches the key of `r`, and the cache believes the room
to be local only if the key names the node. -/
structure OwnRoom (cfg : RegistryConfig) (r : String) (st : RegistryShared × RegistryLocal) :
    Prop where
  reachable : st.1.reachable = true
  key : st.1.redis.rooms.lookup r = none ∨ st.1.redis.rooms.lookup r = some cfg.nodeId
  cached : ∀ address, st.2.cache.roomAddress r = some address →
    address = cfg.nodeAddress ∧ st.1.redis.rooms.lookup r = some cfg.nodeId
  messages : ∀ address, .room r address ∈ st.1.inbox cfg.nodeId →
    address = "" ∨ address = cfg.nodeAddress

theorem OwnRoom.frame {st' : RegistryShared × RegistryLocal} (h : OwnRoom cfg r st)
    (hsame : SameRoom r st st') : OwnRoom cfg r st' where
  reachable := hsame.reachable.trans h.reachable
  key := by rw [hsame.key]; exact h.key
  cached := by rw [hsame.key, hsame.cached]; exact h.cached
  messages := fun address hm => h.messages address (hsame.messages _ address hm)

variable {n : RegistryLocal} {w : RegistryShared}

theorem OwnRoom.kept (h : OwnRoom cfg r (w, n))
    (hkey : (w.redis.evalClaim cfg.nodeId r).2.rooms.lookup r = some cfg.nodeId) (up : Bool) :
    OwnRoom cfg r (RegistryShared.publish { w with redis := (w.redis.evalClaim cfg.nodeId r).2 }
        (.room r cfg.nodeAddress),
      { cache := n.cache.upsertRoom r cfg.nodeAddress, connected := up }) where
  reachable := h.reachable
  key := .inr hkey
  cached := by
    intro address haddr
    refine ⟨?_, hkey⟩
    simp only [CacheView.roomAddress, CacheView.upsertRoom, AList.lookup_insert] at haddr
    exact (Option.some.inj (Option.filter_eq_some_iff.mp haddr).1).symm
  messages := by
    intro address hm
    rcases mem_inbox_publish hm with hm | rfl
    · exact h.messages address hm
    · exact .inr rfl

theorem OwnRoom.claimRoom (h : OwnRoom cfg r st) (clientIp : String) :
    OwnRoom cfg r (call cfg.nodeId (claimRoom cfg r clientIp) st).2 ∧
      ((call cfg.nodeId (MediasoupCpp.claimRoom cfg r clientIp) st).1 = .ok "" ∨
          st.1.redis.rooms.lookup r = some cfg.nodeId →
        (call cfg.nodeId (MediasoupCpp.claimRoom cfg r clientIp) st).2.1.redis.rooms.lookup r =
          some cfg.nodeId) := by
  obtain ⟨w, n⟩ := st
  cases hcach : n.cache.roomAddress r with
  | some address =>
    obtain ⟨rfl, hkey⟩ := h.cached address hcach
    rw [call_claimRoom_cached h.reachable hcach]
    exact ⟨⟨h.reachable, h.key, h.cached, h.messages⟩, fun _ => hkey⟩
  | none =>
    have hkept := h.kept (Redis.evalClaim_of_free h.key) true
    rcases h.key with hkey | hkey
    · have hgrant : (w.redis.evalClaim cfg.nodeId r).1 = .granted := by
        simp only [Redis.evalClaim, show w.redis.rooms.lookup r = none from hkey]
      by_cases hbest : findBestNodeCached cfg n.cache.nodes.toPairs clientIp ≠ "" ∧
          findBestNodeCached cfg n.cache.nodes.toPairs clientIp ≠ cfg.nodeAddress
      · rw [call_claimRoom_redirected h.reachable hcach hgrant hbest]
        have hgone : ((w.redis.evalClaim cfg.nodeId r).2.delRoom r).rooms.lookup r = none := by
          simp [Redis.delRoom_lookup]
        refine ⟨⟨h.reachable, .inl hgone, fun address haddr => ?_, h.messages⟩, ?_⟩
        · cases hcach.symm.trans haddr
        rintro (hres | hown)
        · exact absurd (Except.ok.inj hres) hbest.1
        · cases hkey.symm.trans hown
      · rw [call_claimRoom_kept h.reachable hcach (.inr ⟨hgrant, by tauto⟩)]
        exact ⟨hkept, fun _ => Redis.evalClaim_of_free h.key⟩
    · have hself : (w.redis.evalClaim cfg.nodeId r).1 = .self := by
        have hlook : w.redis.rooms.lookup r = some cfg.nodeId := hkey
        simp only [Redis.evalClaim, hlook, if_true]
      rw [call_claimRoom_kept h.reachable hcach (.inl hself)]
      exact ⟨hkept, fun _ => Redis.evalClaim_of_free h.key⟩

theorem OwnRoom.unregisterRoom (h : OwnRoom cfg r st) :
    OwnRoom cfg r (call cfg.nodeId (unregisterRoom r) st).2 ∧
      (call cfg.nodeId (MediasoupCpp.unregisterRoom r) st).2.1.redis.rooms.lookup r = none ∧
        (call cfg.nodeId (MediasoupCpp.unregisterRoom r) st).2.2.cache.roomAddress r = none := by
  obtain ⟨w, n⟩ := st
  have hreach : w.reachable := h.reachable
  have hcall : call cfg.nodeId (MediasoupCpp.unregisterRoom r) (w, n) =
      ((), RegistryShared.publish { w with redis := w.redis.delRoom r } (.room r ""),
        { cache := n.cache.eraseRoom r, connected := true }) := by
    simp [call, MediasoupCpp.unregisterRoom, withLock, publishRoomUpdate, publishUpdate, perform,
      exec, command, hreach]
  have hgone : (w.redis.delRoom r).rooms.lookup r = none := by simp [Redis.delRoom_lookup]
  rw [hcall]
  refine ⟨⟨h.reachable, .inl hgone, fun address haddr => ?_, fun address hm => ?_⟩, hgone,
    CacheView.roomAddress_eraseRoom_self _ _⟩
  · exact absurd haddr (by simp)
  rcases mem_inbox_publish hm with hm | rfl
  · exact h.messages address hm
  · exact .inl rfl

theorem resolveRoom_frame (hreach : w.reachable)
    (hkey : w.redis.rooms.lookup r = none) (hcach : n.cache.roomAddress r = none) :
    SameRoom r (w, n) (call cfg.nodeId (resolveRoom cfg r clientIp) (w, n)).2 := by
  -- with no owner to be found only the choice of a node is left
  have hcall : (call cfg.nodeId (resolveRoom cfg r clientIp) (w, n)).2 =
      (call cfg.nodeId (resolveBest cfg clientIp) (w, { n with connected := true })).2 := by
    obtain ⟨redis, reachable, _⟩ := w
    obtain rfl : reachable := hreach
    simp [call, resolveRoom, resolveOwner, withLock, perform, exec, command, hkey, hcach,
      Prog.runWith_bind]
  have hoth : r ≠ r ++ "'" := by
    intro heq
    have := congrArg String.length heq
    simp at this
  have hconnect : SameRoom r (w, n) (w, { n with connected := true }) :=
    ⟨rfl, rfl, fun _ _ hm => hm, rfl⟩
  rw [hcall]
  exact hconnect.trans (call_frame hoth (about_resolveBest clientIp) _)

theorem OwnRoom.handle (h : OwnRoom cfg r (w, n))
    (m : PubSubMessage) (hm : ∀ address, m = .room r address → address ≠ "" →
      address = cfg.nodeAddress ∧ w.redis.rooms.lookup r = some cfg.nodeId) :
    OwnRoom cfg r (w, { n with cache := handlePubSubMessage n.cache m }) where
  reachable := h.reachable
  key := h.key
  messages := h.messages
  cached := by
    intro address haddr
    obtain hsame | hnone | ⟨address', hroom, hne, hsome⟩ :=
      roomAddress_handlePubSubMessage n.cache m r
    · exact h.cached address (hsame.symm.trans haddr)
    · exact absurd (hnone.symm.trans haddr) (by simp)
    · obtain rfl := Option.some.inj (hsome.symm.trans haddr)
      exact hm address' hroom hne

end OwnRoom

end MediasoupCpp
