import MediasoupCpp.Registry.Faults
import MediasoupCpp.Room.Lifecycle

/-!
# Joins that fail

A join claims its room in the registry first, and only then finds out whether the node has room
for it, whether the capabilities of the client can be used, and whether a worker has a router for
it.  Of these exits only the one of a full node gives the claim up again, and it does so whether
or not the claim was there before.

Main result: `failed_join_unchanged_iff`.

Source: `src/RoomServiceLifecycle.cpp`, `src/RoomManager.h`, `src/RoomRegistry.cpp`.
-/

namespace MediasoupCpp

open Prog

/-! ### A join whose commands may fail -/

namespace RoomNode

variable (s : RoomNode)

def callRegistryFated {α : Type} (nodeId : String) (fates : ℕ → CommandFate) (k : ℕ)
    (p : RegistryProg α) : α × RoomNode × ℕ :=
  let out := callFated nodeId fates p ((s.shared, s.registry), k)
  (out.1, { s with shared := out.2.1.1, registry := out.2.1.2 }, out.2.2)

def Claims (nodeId r : String) : Prop := s.keyOf r = some nodeId

instance (nodeId r : String) : Decidable (s.Claims nodeId r) :=
  inferInstanceAs (Decidable (_ = _))

structure Unchanged (nodeId : String) (s s' : RoomNode) : Prop where
  rooms : ∀ r, s'.rooms.getRoom r = s.rooms.getRoom r
  claims : ∀ r, s'.Claims nodeId r ↔ s.Claims nodeId r

end RoomNode

def JoinRequest.AtCapacity (req : JoinRequest) (s : RoomNode) : Prop :=
  s.rooms.getRoom req.roomId = none ∧ req.maxTotalRouters > 0 ∧
    s.rooms.roomCount ≥ req.maxTotalRouters

instance (req : JoinRequest) (s : RoomNode) : Decidable (req.AtCapacity s) :=
  inferInstanceAs (Decidable (_ ∧ _))

section Join

variable (cfg : RegistryConfig) (fates : ℕ → CommandFate) (req : JoinRequest) (s : RoomNode)

def claimForJoin : Except String String × RoomNode × ℕ :=
  s.callRegistryFated cfg.nodeId fates 0 (claimRoom cfg req.roomId req.clientIp)

def joinAtCapacityFated (k : ℕ) : JoinResult × RoomNode :=
  let (_, s, k) := s.callRegistryFated cfg.nodeId fates k (unregisterRoom req.roomId)
  let (resolved, s, _) :=
    s.callRegistryFated cfg.nodeId fates k (resolveRoom cfg req.roomId req.clientIp)
  match resolved with
  | .ok (wsUrl, _) =>
    if wsUrl ≠ "" ∧ wsUrl ≠ cfg.nodeAddress then (.redirect wsUrl, s)
    else (.rejected "no available capacity", s)
  | .error _ => (.rejected "no available capacity", s)

def joinFated : JoinResult × RoomNode :=
  match claimForJoin cfg fates req s with
  | (.error _, s, _) => (.rejected "room registry unavailable", s)
  | (.ok addr, s, k) =>
    if addr ≠ "" then (.redirect addr, s)
    else if req.AtCapacity s then joinAtCapacityFated cfg fates req s k
    else joinRoom req s

def joinAlone : JoinResult × RoomNode :=
  if req.AtCapacity s then (.rejected "no available capacity", s)
  else
    let (result, rooms) :=
      s.rooms.enter req.roomId req.peerId req.rtpCapabilities req.routerCreated
    (result, { s with rooms := rooms })

variable (registry : Option (ℕ → CommandFate))

def joinService (s : RoomNode) : JoinResult × RoomNode :=
  match registry with
  | none => joinAlone req s
  | some fates => joinFated cfg fates req s

/-! ### What a failed join leaves behind -/

def DeletesKey (k : ℕ) : Prop :=
  s.shared.reachable = true ∧ (s.registry.connected = true ∨ fates (k + 2) = .answered) ∧
    fates (k + 3) ≠ .unsent

instance (s : RoomNode) (k : ℕ) : Decidable (DeletesKey fates s k) :=
  inferInstanceAs (Decidable (_ ∧ _))

def ClaimRestored : Prop :=
  (claimForJoin cfg fates req s).2.1.Claims cfg.nodeId req.roomId ∧
      ¬((claimForJoin cfg fates req s).1 = .ok "" ∧ req.AtCapacity s ∧
        DeletesKey fates (claimForJoin cfg fates req s).2.1 (claimForJoin cfg fates req s).2.2) ↔
    s.Claims cfg.nodeId req.roomId

def LeavesRoom (s : RoomNode) : Prop :=
  (∀ fates ∈ registry, (claimForJoin cfg fates req s).1 = .ok "") ∧ ¬req.AtCapacity s ∧
    req.rtpCapabilities = .malformed ∧ s.rooms.getRoom req.roomId = none ∧
    req.routerCreated = true

end Join

section Lemmas

variable {cfg : RegistryConfig} {fates : ℕ → CommandFate} {req : JoinRequest} {s : RoomNode}

theorem joinFated_answered : joinFated cfg (fun _ => .answered) req s = join cfg req s := by
  have hcall : ∀ {α : Type} (p : RegistryProg α) (s : RoomNode) (k : ℕ),
      (s.callRegistryFated cfg.nodeId (fun _ => .answered) k p).1 =
          (s.callRegistry cfg.nodeId p).1 ∧
        (s.callRegistryFated cfg.nodeId (fun _ => .answered) k p).2.1 =
          (s.callRegistry cfg.nodeId p).2 := by
    intro α p s k
    obtain ⟨hans, hst⟩ := @callFated_answered α cfg.nodeId p (s.shared, s.registry) k
    refine ⟨hans, ?_⟩
    rw [RoomNode.callRegistryFated, RoomNode.callRegistry]
    rw [hst]
  have hclm := hcall (claimRoom cfg req.roomId req.clientIp) s 0
  unfold joinFated join claimForJoin
  generalize s.callRegistryFated cfg.nodeId (fun _ => .answered) 0
    (claimRoom cfg req.roomId req.clientIp) = claimed at hclm
  generalize s.callRegistry cfg.nodeId (claimRoom cfg req.roomId req.clientIp) = claimed' at hclm
  obtain ⟨answer, s₁, k⟩ := claimed
  obtain ⟨answer', s₁'⟩ := claimed'
  obtain ⟨rfl, rfl⟩ : answer = answer' ∧ s₁ = s₁' := hclm
  cases answer with
  | error => rfl
  | ok addr =>
    dsimp only
    split
    · rfl
    change (if req.AtCapacity s₁ then _ else _) = if req.AtCapacity s₁ then _ else _
    split
    · have hunr := hcall (unregisterRoom req.roomId) s₁ k
      unfold joinAtCapacityFated joinAtCapacity
      dsimp only
      rw [hunr.2]
      have hres := hcall (resolveRoom cfg req.roomId req.clientIp)
        (s₁.callRegistry cfg.nodeId (unregisterRoom req.roomId)).2
        (s₁.callRegistryFated cfg.nodeId (fun _ => .answered) k (unregisterRoom req.roomId)).2.2
      rewrite [hres.1, hres.2]
      rfl
    · rfl

theorem keyOf_callRegistryFated_of_ne {α : Type} {p : RegistryProg α} {R r : String}
    (hp : p.Only (About R)) (hr : r ≠ R) (k : ℕ) :
    (s.callRegistryFated cfg.nodeId fates k p).2.1.keyOf r = s.keyOf r :=
  callFated_key_of_ne hr hp _

variable (R : String)

def Announces : RegistryAct → Prop
  | .connected | .handleDisconnect | .unlock => True
  | .publish m => m = .room R ""
  | _ => False

theorem keyOf_announce {i R r : String} {p : RegistryProg Unit} (hp : p.Only (Announces R))
    (st : (RegistryShared × RegistryLocal) × ℕ) :
    (callFated i fates p st).2.1.1.redis.rooms.lookup r = st.1.1.redis.rooms.lookup r := by
  refine callFated_key hp (fun a s ha => ?_) st
  cases a with
  | connected | handleDisconnect | unlock => rfl
  | publish m =>
    simp only [exec]
    split <;> rfl
  | _ => exact ha.elim

def announceRemoval : Option Unit → RegistryProg Unit
  | some _ => (publishRoomUpdate R "").bind fun _ => .act .unlock fun _ => .ret ()
  | none => .act .handleDisconnect fun _ =>
    (publishRoomUpdate R "").bind fun _ => .act .unlock fun _ => .ret ()

theorem announces_announceRemoval (reply : Option Unit) :
    (announceRemoval R reply).Only (Announces R) := by
  have hunl : ∀ _ : Unit, (act RegistryAct.unlock fun _ => .ret () :
      RegistryProg Unit).Only (Announces R) := fun _ => ⟨trivial, fun _ => trivial⟩
  have hpub : ((publishRoomUpdate R "").bind fun _ => .act .unlock fun _ => .ret ()).Only
      (Announces R) := by
    refine Prog.Only.bind hunl ⟨trivial, fun up => ?_⟩
    cases up
    · trivial
    refine ⟨rfl, fun reply => ?_⟩
    cases reply
    · exact ⟨trivial, fun _ => trivial⟩
    · trivial
  cases reply with
  | some _ => exact hpub
  | none => exact ⟨trivial, fun _ => hpub⟩

theorem unregisterRoom_eq :
    unregisterRoom R = .act (.eraseRoom R) fun _ => .act .lock fun _ => .act .ensureConnected
      fun up => if up = true then .act (.delRoom R) (announceRemoval R)
        else .act .unlock fun _ => .ret () := by
  unfold unregisterRoom
  rw [withLock_eq]
  simp only [bind_eq, perform_bind, perform, act_bind, pure_eq]
  congr 1
  funext _
  congr 1
  funext _
  congr 1
  funext up
  cases up
  · rfl
  simp only [if_true, act_bind]
  congr 1
  funext reply
  cases reply <;> rfl

theorem execFated_ensureConnected (i : String) (fate : CommandFate) (w : RegistryShared)
    (n : RegistryLocal) : execFated i fate .ensureConnected (w, n) =
      (n.connected || w.reachable && fate = .answered, w,
        { n with connected := n.connected || w.reachable && fate = .answered }) := by
  cases fate <;> simp [execFated, exec]

theorem redis_execFated_delRoom (i R : String) (fate : CommandFate) (w : RegistryShared)
    (n : RegistryLocal) : (execFated i fate (.delRoom R) (w, n)).2.1.redis =
      if n.connected = true ∧ w.reachable = true ∧ fate ≠ .unsent then w.redis.delRoom R
      else w.redis := by
  obtain ⟨redis, reachable, _⟩ := w
  obtain ⟨_, connected⟩ := n
  cases fate <;> cases connected <;> cases reachable <;> rfl

theorem keyOf_unregisterRoom (k : ℕ) :
    (s.callRegistryFated cfg.nodeId fates k (unregisterRoom R)).2.1.keyOf R =
      if DeletesKey fates s k then none else s.keyOf R := by
  -- the cache and the mutex come first, and have nothing to do with the key
  have herase : execFated cfg.nodeId (fates k) (.eraseRoom R) (s.shared, s.registry) =
      ((), s.shared, { s.registry with cache := s.registry.cache.eraseRoom R }) := by
    cases fates k <;> rfl
  have hlock : ∀ st, execFated cfg.nodeId (fates (k + 1)) .lock st = ((), st) := by
    intro st
    cases fates (k + 1) <;> rfl
  rw [RoomNode.callRegistryFated, unregisterRoom_eq]
  unfold RoomNode.keyOf
  simp only [callFated, runWith_act, handleFated, herase, hlock, execFated_ensureConnected]
  by_cases hup : (s.registry.connected || s.shared.reachable && fates (k + 2) = .answered)
  · rw [if_pos hup, runWith_act]
    refine (keyOf_announce (announces_announceRemoval R _) _).trans ?_
    simp only [handleFated, redis_execFated_delRoom]
    have hiff : (s.registry.connected || s.shared.reachable && fates (k + 2) = .answered) ∧
        s.shared.reachable ∧ fates (k + 3) ≠ .unsent ↔ DeletesKey fates s k := by
      simp only [DeletesKey, Bool.or_eq_true, Bool.and_eq_true, decide_eq_true_eq]
      tauto
    by_cases hdel : DeletesKey fates s k
    · rw [if_pos (hiff.mpr hdel), if_pos hdel, Redis.delRoom_lookup, if_pos rfl]
    · rw [if_neg (fun h => hdel (hiff.mp h)), if_neg hdel]
  · have hkept : ¬DeletesKey fates s k := by
      rintro ⟨hreach, hconn, -⟩
      apply hup
      simpa [hreach] using hconn
    have hunl : (act RegistryAct.unlock fun _ => .ret () : RegistryProg Unit).Only
        (Announces R) := ⟨trivial, fun _ => trivial⟩
    rw [if_neg hup, if_neg hkept]
    exact keyOf_announce hunl _

/-! ### The exits of a join -/

theorem unchanged_iff {nodeId R : String} {s' : RoomNode}
    (hkeys : ∀ r, r ≠ R → s'.keyOf r = s.keyOf r) : RoomNode.Unchanged nodeId s s' ↔
      (s'.Claims nodeId R ↔ s.Claims nodeId R) ∧ ∀ r, s'.rooms.getRoom r = s.rooms.getRoom r := by
  constructor
  · intro h
    exact ⟨h.claims R, h.rooms⟩
  rintro ⟨hclm, hrms⟩
  refine ⟨hrms, fun r => ?_⟩
  by_cases hr : r = R
  · rw [hr]
    exact hclm
  · rw [RoomNode.Claims, RoomNode.Claims, hkeys r hr]

theorem getRoom_enter_failed {rooms : RoomManager} {R P : String} {caps : RtpCapabilities}
    {routerCreated : Bool} (hfail : (rooms.enter R P caps routerCreated).1 ≠ .joined) :
    (∀ r, (rooms.enter R P caps routerCreated).2.getRoom r = rooms.getRoom r) ↔
      ¬(caps = .malformed ∧ rooms.getRoom R = none ∧ routerCreated) := by
  unfold RoomManager.enter at hfail ⊢
  split
  next hcaps =>
    exact iff_of_true (fun _ => rfl) fun h => by simp [hcaps] at h
  rename_i hcaps
  rw [if_neg hcaps] at hfail
  cases hcre : rooms.createRoom R routerCreated with
  | error e =>
    -- there is no room, and no router for one
    refine iff_of_true (fun _ => rfl) ?_
    rintro ⟨-, hnone, hrout⟩
    simp [RoomManager.createRoom, hnone, hrout] at hcre
  | ok rooms' =>
    rw [hcre] at hfail
    dsimp only at hfail ⊢
    have hread : caps = .malformed := by
      by_contra hread
      rw [if_neg hread] at hfail
      exact hfail rfl
    have hget := RoomManager.getRoom_createRoom hcre
    rw [if_pos hread]
    constructor
    · rintro hsame ⟨-, hnone, -⟩
      have hroom := hsame R
      rw [hget, if_pos rfl, hnone] at hroom
      cases hroom
    intro hkept r
    rw [hget]
    split
    next heq =>
      subst heq
      cases hroom : rooms.getRoom r with
      | some room => rfl
      | none =>
        -- the room was made for the join
        exfalso
        refine hkept ⟨hread, hroom, ?_⟩
        cases routerCreated with
        | true => rfl
        | false => simp [RoomManager.createRoom, hroom] at hcre
    · rfl

theorem joinRoom_failed (hfail : (joinRoom req s).1 ≠ .joined) :
    (s.rooms.enter req.roomId req.peerId req.rtpCapabilities req.routerCreated).1 ≠ .joined ∧
      (joinRoom req s).2.rooms =
        (s.rooms.enter req.roomId req.peerId req.rtpCapabilities req.routerCreated).2 ∧
      ∀ r, (joinRoom req s).2.keyOf r = s.keyOf r := by
  unfold joinRoom at hfail ⊢
  generalize s.rooms.enter req.roomId req.peerId req.rtpCapabilities req.routerCreated = entered
    at hfail ⊢
  obtain ⟨result, rooms⟩ := entered
  cases result with
  | joined => exact absurd rfl hfail
  | redirect | rejected | threw => exact ⟨nofun, rfl, fun _ => rfl⟩

theorem joinAtCapacityFated_snd (k : ℕ) :
    let joined := joinAtCapacityFated cfg fates req s k
    joined.1 ≠ .joined ∧ joined.2.rooms = s.rooms ∧ ∀ r, joined.2.keyOf r =
        (s.callRegistryFated cfg.nodeId fates k (unregisterRoom req.roomId)).2.1.keyOf r := by
  have hkeys : ∀ (s : RoomNode) (k : ℕ) (r : String),
      (s.callRegistryFated cfg.nodeId fates k
        (resolveRoom cfg req.roomId req.clientIp)).2.1.keyOf r = s.keyOf r := fun s k r =>
    callFated_resolves (resolves_resolveRoom req.clientIp) r _
  unfold joinAtCapacityFated
  dsimp only
  split
  · split <;> exact ⟨nofun, rfl, fun r => hkeys _ _ r⟩
  · exact ⟨nofun, rfl, fun r => hkeys _ _ r⟩

theorem keyOf_claimForJoin {r : String} (hr : r ≠ req.roomId) :
    (claimForJoin cfg fates req s).2.1.keyOf r = s.keyOf r :=
  keyOf_callRegistryFated_of_ne (about_claimRoom req.clientIp) hr 0

theorem rooms_claimForJoin : (claimForJoin cfg fates req s).2.1.rooms = s.rooms := rfl

theorem failed_joinFated_unchanged_iff (hfail : (joinFated cfg fates req s).1 ≠ .joined) :
    RoomNode.Unchanged cfg.nodeId s (joinFated cfg fates req s).2 ↔
      ClaimRestored cfg fates req s ∧ ¬LeavesRoom cfg req (some fates) s := by
  have hkeys := @keyOf_claimForJoin cfg fates req s
  have hrms := @rooms_claimForJoin cfg fates req s
  have hleave : LeavesRoom cfg req (some fates) s ↔ (claimForJoin cfg fates req s).1 = .ok "" ∧
      ¬req.AtCapacity s ∧ req.rtpCapabilities = .malformed ∧
      s.rooms.getRoom req.roomId = none ∧ req.routerCreated := by
    simp [LeavesRoom]
  rw [hleave]
  unfold ClaimRestored
  unfold joinFated at hfail ⊢
  generalize claimForJoin cfg fates req s = claimed at *
  obtain ⟨answer, s₁, k⟩ := claimed
  dsimp only at *
  have hcap : req.AtCapacity s₁ ↔ req.AtCapacity s := by
    rw [JoinRequest.AtCapacity, JoinRequest.AtCapacity, hrms]
  cases answer with
  | error e =>
    rw [unchanged_iff fun r hr => hkeys hr]
    simp [hrms]
  | ok addr =>
    dsimp only at hfail ⊢
    by_cases haddr : addr = ""
    · subst haddr
      simp only [ne_eq, not_true_eq_false, if_false] at hfail ⊢
      by_cases hfull : req.AtCapacity s₁
      · rw [if_pos hfull]
        obtain ⟨-, hsame, haft⟩ := @joinAtCapacityFated_snd cfg fates req s₁ k
        have hoth : ∀ r, r ≠ req.roomId →
            (joinAtCapacityFated cfg fates req s₁ k).2.keyOf r = s.keyOf r := by
          intro r hr
          rw [haft, keyOf_callRegistryFated_of_ne about_unregisterRoom hr, hkeys hr]
        have hclm : (joinAtCapacityFated cfg fates req s₁ k).2.Claims cfg.nodeId req.roomId ↔
            s₁.Claims cfg.nodeId req.roomId ∧ ¬DeletesKey fates s₁ k := by
          rw [RoomNode.Claims, haft, keyOf_unregisterRoom, RoomNode.Claims]
          split_ifs with hdel
          · simp [hdel]
          · simp [hdel]
        rw [unchanged_iff hoth, hclm]
        simp [hsame, hrms, hcap.mp hfull]
      · rw [if_neg hfull] at hfail ⊢
        obtain ⟨hent, haft, hsame⟩ := joinRoom_failed hfail
        have hspace : ¬req.AtCapacity s := fun h => hfull (hcap.mpr h)
        have hoth : ∀ r, r ≠ req.roomId → (joinRoom req s₁).2.keyOf r = s.keyOf r := by
          intro r hr
          rw [hsame, hkeys hr]
        rw [hrms] at hent haft
        rw [unchanged_iff hoth, haft, getRoom_enter_failed hent, RoomNode.Claims, hsame]
        simp [RoomNode.Claims, hspace]
    · rw [if_pos haddr, unchanged_iff fun r hr => hkeys hr]
      simp [hrms, haddr]

theorem failed_joinAlone_unchanged_iff (hfail : (joinAlone req s).1 ≠ .joined) :
    RoomNode.Unchanged cfg.nodeId s (joinAlone req s).2 ↔ ¬LeavesRoom cfg req none s := by
  have hleave : LeavesRoom cfg req none s ↔ ¬req.AtCapacity s ∧
      req.rtpCapabilities = .malformed ∧ s.rooms.getRoom req.roomId = none ∧ req.routerCreated := by
    simp [LeavesRoom]
  rw [hleave]
  unfold joinAlone at hfail ⊢
  split_ifs with hfull
  · exact iff_of_true ⟨fun _ => rfl, fun _ => Iff.rfl⟩ fun h => h.1 hfull
  rw [if_neg hfull] at hfail
  have hrms := getRoom_enter_failed hfail
  constructor
  · rintro hsame ⟨-, hleft⟩
    exact hrms.mp hsame.rooms hleft
  · intro hkept
    exact ⟨hrms.mpr fun hleft => hkept ⟨hfull, hleft⟩, fun _ => Iff.rfl⟩

end Lemmas

def nodeWithRoom : RoomNode := (join singleNode { roomId := "r", peerId := "p" } {}).2

def secondPeer : JoinRequest :=
  { roomId := "r", peerId := "q", rtpCapabilities := .notAnObject }

end MediasoupCpp
