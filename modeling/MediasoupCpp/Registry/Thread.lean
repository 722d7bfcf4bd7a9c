import MediasoupCpp.Registry.Program

/-!
# Threads inside the registry

The reasoning about concurrent calls is thread-modular.  A call carries an observer of itself:
what the cache and the room key said, and whether it holds the mutex.

Main result: `program_sound`.

Source: `src/RoomRegistry.cpp`, `src/RoomRegistrySync.cpp`, `src/RoomRegistryConnection.cpp`.
-/

namespace MediasoupCpp

/-! ### Nodes, calls and observers -/

structure ClusterConfig where
  cfg : String → RegistryConfig
  nodeId_eq : ∀ i, (cfg i).nodeId = i
  address_inj : ∀ i j, (cfg i).nodeAddress = (cfg j).nodeAddress → i = j

inductive RegistryCall
  | claimRoom (roomId clientIp : String)
  | unregisterRoom (roomId : String)
  | refreshRoom (roomId : String)
  | resolveRoom (roomId clientIp : String)
  | heartbeat
  | updateLoad (rooms maxRooms : ℕ)
  | syncAll
  deriving DecidableEq

open RegistryCall Prog

def RegistryCall.room : RegistryCall → Option String
  | claimRoom roomId _ | unregisterRoom roomId | refreshRoom roomId | resolveRoom roomId _ =>
    some roomId
  | heartbeat | updateLoad _ _ | syncAll => none

inductive RegistryResult
  | claimed (result : Except String String)
  | resolved (result : Except String (String × Bool))
  | done

def RegistryCall.program (cfg : RegistryConfig) : RegistryCall → RegistryProg RegistryResult
  | claimRoom roomId clientIp => do return .claimed (← MediasoupCpp.claimRoom cfg roomId clientIp)
  | unregisterRoom roomId => do MediasoupCpp.unregisterRoom roomId; return .done
  | refreshRoom roomId => do MediasoupCpp.refreshRoom roomId; return .done
  | resolveRoom roomId clientIp => do
    return .resolved (← MediasoupCpp.resolveRoom cfg roomId clientIp)
  | heartbeat => do MediasoupCpp.heartbeat cfg; return .done
  | updateLoad rooms maxRooms => do MediasoupCpp.updateLoad cfg rooms maxRooms; return .done
  | syncAll => do syncAllSnapshot; return .done

structure ThreadObs where
  /-- It holds the mutex of the command connection. -/
  holding : Bool := false
  /-- It found the node's own address cached for its room. -/
  cacheHit : Bool := false
  /-- The key of its room right after its last command on it. -/
  lastKey : Option String := none
  /-- The script granted it its room since it took the mutex, and it has not deleted
  the key since. -/
  granted : Bool := false
  deleted : Bool := false

open ThreadObs

def ThreadObs.after (nodeAddress : String) (room : Option String) :
    (a : RegistryAct) → a.Ans → Redis → ThreadObs → ThreadObs
  | .lock, _, _, g => { g with holding := true, granted := false }
  | .unlock, _, _, g => { g with holding := false }
  | .roomAddress roomId, cached, _, g =>
    if room = some roomId ∧ cached = some nodeAddress then { g with cacheHit := true } else g
  | .evalClaim roomId, reply, db, g =>
    if room = some roomId then
      { g with lastKey := db.rooms.lookup roomId, granted := decide (reply = some .granted) }
    else g
  | .getRoom roomId, _, db, g =>
    if room = some roomId then { g with lastKey := db.rooms.lookup roomId } else g
  | .delRoom roomId, _, db, g =>
    if room = some roomId then
      { g with lastKey := db.rooms.lookup roomId, granted := false, deleted := true }
    else g
  | _, _, _, g => g

theorem ThreadObs.holding_after (nodeAddress : String) (room : Option String) (a : RegistryAct)
    (x : a.Ans) (db : Redis) (g : ThreadObs) : (g.after nodeAddress room a x db).holding =
      if a = .lock then true else if a = .unlock then false else g.holding := by
  cases a <;> simp only [after, reduceCtorEq, if_false, if_true] <;> split <;> rfl

/-! ### The thread triple -/

section Triple

variable (cc : ClusterConfig) (i : String) (c : RegistryCall)

def RecordsOk (db : Redis) : Prop :=
  ∀ j info, db.nodes.lookup j = some info → info.address = (cc.cfg j).nodeAddress

def ActAllowed (g : ThreadObs) : RegistryAct → Prop
  | .lock => g.holding = false
  | .unlock => g.holding = true
  | .evalClaim r => g.holding = true ∧ ∃ ip, c = .claimRoom r ip
  | .delRoom r => g.holding = true ∧
      (c = .unregisterRoom r ∧ g.deleted = false ∨ (∃ ip, c = .claimRoom r ip) ∧ g.granted = true)
  | .setNode j info => j = i ∧ info.address = (cc.cfg i).nodeAddress
  | _ => True

def AnsweredBy (a : RegistryAct) (r : a.Ans) (g g' : ThreadObs) : Prop :=
  ∃ w n, RecordsOk cc w.redis ∧ r = (exec i a (w, n)).1 ∧
    g' = g.after (cc.cfg i).nodeAddress c.room a r (exec i a (w, n)).2.1.redis

def Returned (x : RegistryResult) (g : ThreadObs) : Prop :=
  g.holding = false ∧ ∀ r ip, c = .claimRoom r ip → x = .claimed (.ok "") →
    g.cacheHit = true ∨ g.lastKey = some i

abbrev Triple {α : Type} (post : α → ThreadObs → Prop) (p : RegistryProg α) (g : ThreadObs) :
    Prop :=
  p.Sound (ActAllowed cc i c) (AnsweredBy cc i c) post g

end Triple

theorem recordsOk_exec {cc : ClusterConfig} {i : String} {c : RegistryCall} {g : ThreadObs}
    {a : RegistryAct} (ha : ActAllowed cc i c g a) {w : RegistryShared} {n : RegistryLocal}
    (hw : RecordsOk cc w.redis) : RecordsOk cc (exec i a (w, n)).2.1.redis := by
  have hcmd : ∀ {α : Type} (f : Redis → α × Redis), RecordsOk cc (f w.redis).2 →
      RecordsOk cc (command w n f).2.1.redis :=
    fun f hf => command_inv (Q := fun st => RecordsOk cc st.1.redis) f hf hw
  cases a with
  | setNode j info =>
    obtain ⟨rfl, haddr⟩ := ha
    refine hcmd _ fun j' info' hlook => ?_
    rw [Redis.setNode, Dict.lookup_insert_eq] at hlook
    split at hlook
    next hj =>
      rw [hj, ← Option.some.inj hlook, haddr]
    · exact hw j' info' hlook
  | evalClaim r =>
    refine hcmd _ fun j info hlook => hw j info ?_
    rwa [Redis.evalClaim_nodes] at hlook
  | publish m =>
    simp only [exec]
    split <;> exact hw
  | getRoom | getNode | delRoom | expireRoom | expireNode | existsNode | scanNodes | scanRooms
  | mgetNodes | mgetRooms => exact hcmd _ hw
  | _ => exact hw

/-! ### Programs that claim and delete nothing

The actions are graded: a quiet one is always allowed and leaves the observer
alone, a calm one may change what the observer saw but not the mutex. -/

section Balanced

variable {cc : ClusterConfig} {i : String} {c : RegistryCall} {α β : Type}

def Quiet : RegistryAct → Prop
  | .lock | .unlock | .evalClaim _ | .delRoom _ | .setNode _ _ | .roomAddress _ | .getRoom _ =>
    False
  | _ => True

def Calm (cc : ClusterConfig) (i : String) : RegistryAct → Prop
  | .lock | .unlock | .evalClaim _ | .delRoom _ => False
  | .setNode j info => j = i ∧ info.address = (cc.cfg i).nodeAddress
  | _ => True

variable {g : ThreadObs} {a : RegistryAct}

theorem Quiet.calm (h : Quiet a) : Calm cc i a := by
  cases a <;> first | exact h.elim | trivial

theorem Calm.allowed (h : Calm cc i a) : ActAllowed cc i c g a := by
  cases a <;> first | exact h.elim | exact h

theorem Quiet.after_eq (h : Quiet a) {r : a.Ans} {g' : ThreadObs}
    (hr : AnsweredBy cc i c a r g g') : g' = g := by
  obtain ⟨_, _, -, rfl, rfl⟩ := hr
  cases a <;> first | exact h.elim | rfl

theorem Calm.holding (h : Calm cc i a) {r : a.Ans} {g' : ThreadObs}
    (hr : AnsweredBy cc i c a r g g') : g'.holding = g.holding := by
  obtain ⟨_, _, -, -, rfl⟩ := hr
  rw [holding_after, if_neg, if_neg]
  · rintro rfl; exact h
  · rintro rfl; exact h

def Balanced (cc : ClusterConfig) (i : String) (c : RegistryCall) (p : RegistryProg α) : Prop :=
  ∀ g : ThreadObs, g.holding = false → Triple cc i c (fun _ g' => g'.holding = false) p g

variable {p : RegistryProg α}

theorem calm_sound {b : Bool} (hp : p.Only (Calm cc i)) (hg : g.holding = b) :
    Triple cc i c (fun _ g' => g'.holding = b) p g :=
  hp.sound (fun _ _ _ ha => ha.allowed) (fun _ _ _ _ hg ha hr => (ha.holding hr).trans hg)
    (fun _ _ hg => hg) hg

theorem quiet_sound (hp : p.Only Quiet) {post : α → ThreadObs → Prop} (hpost : ∀ x, post x g) :
    Triple cc i c post p g :=
  hp.sound (fun _ _ _ ha => ha.calm.allowed)
    (fun _ _ _ _ hg ha hr => hg.trans (ha.after_eq hr).symm) (fun x _ hg => hg ▸ hpost x)
    (rfl : g = g)

theorem balanced_calm (hp : p.Only (Calm cc i)) : Balanced cc i c p :=
  fun _ hg => calm_sound hp hg

theorem Balanced.bind {f : α → RegistryProg β} (hp : Balanced cc i c p)
    (hf : ∀ x, Balanced cc i c (f x)) : Balanced cc i c (p.bind f) :=
  fun g hg => (hp g hg).bind fun x g' hg' => hf x g' hg'

theorem sound_withLock {p : RegistryProg α} {post : α → ThreadObs → Prop} (hg : g.holding = false)
    (hp : Triple cc i c (fun x g' => g'.holding ∧ post x { g' with holding := false }) p
      { g with holding := true, granted := false }) :
    Triple cc i c post (withLock p) g := by
  rw [withLock_eq]
  refine ⟨hg, fun r g' hr => ?_⟩
  obtain ⟨w, n, -, rfl, rfl⟩ := hr
  refine Prog.Sound.bind hp fun x g' hx => ⟨hx.1, fun r g'' hr => ?_⟩
  obtain ⟨w, n, -, rfl, rfl⟩ := hr
  exact hx.2

theorem balanced_withLock (hp : p.Only (Calm cc i)) : Balanced cc i c (withLock p) :=
  fun _ hg => sound_withLock hg ((calm_sound hp rfl).mono fun _ _ h => ⟨h, rfl⟩)

theorem quiet_publishUpdate (m : PubSubMessage) : (publishUpdate m).Only Quiet := by
  refine ⟨trivial, fun up => ?_⟩
  cases up
  · trivial
  refine ⟨trivial, fun reply => ?_⟩
  cases reply
  · exact ⟨trivial, fun _ => trivial⟩
  · trivial

theorem balanced_lockedCommand {p : RegistryProg (Option α)} (hp : p.Only (Calm cc i)) :
    Balanced cc i c (lockedCommand p) := by
  refine balanced_withLock ⟨trivial, fun up => ?_⟩
  cases up
  · trivial
  refine hp.bind fun reply => ?_
  cases reply
  · exact ⟨trivial, fun _ => trivial⟩
  · trivial

theorem balanced_ensureConnected : Balanced cc i c (withLock (perform .ensureConnected)) :=
  balanced_withLock ⟨trivial, fun _ => trivial⟩

theorem balanced_fetchEntries {υ : Type} {scan : RegistryProg (Option (List String))}
    {mget : List String → RegistryProg (Option (List (Option υ)))}
    (hscan : scan.Only (Calm cc i)) (hmget : ∀ ids, (mget ids).Only (Calm cc i)) :
    Balanced cc i c (fetchEntries scan mget) := by
  refine Balanced.bind (balanced_lockedCommand hscan) fun ids => ?_
  rcases ids with _ | _ | ⟨_, ids⟩
  · exact balanced_calm trivial
  · exact balanced_calm trivial
  · refine Balanced.bind (balanced_lockedCommand (hmget _)) fun values => ?_
    cases values <;> exact balanced_calm trivial

theorem balanced_fetchNodes : Balanced cc i c fetchNodes :=
  balanced_fetchEntries ⟨trivial, fun _ => trivial⟩ fun _ => ⟨trivial, fun _ => trivial⟩

theorem balanced_fetchRooms : Balanced cc i c fetchRooms :=
  balanced_fetchEntries ⟨trivial, fun _ => trivial⟩ fun _ => ⟨trivial, fun _ => trivial⟩

theorem balanced_syncNodesSnapshot : Balanced cc i c syncNodesSnapshot := by
  refine balanced_ensureConnected.bind fun up => ?_
  cases up
  · exact balanced_calm trivial
  refine balanced_fetchNodes.bind fun nodes => ?_
  cases nodes
  · exact balanced_calm trivial
  · exact balanced_calm ⟨trivial, fun _ => trivial⟩

theorem balanced_syncAllSnapshot : Balanced cc i c syncAllSnapshot := by
  refine balanced_ensureConnected.bind fun up => ?_
  cases up
  · exact balanced_calm trivial
  refine balanced_fetchNodes.bind fun nodes => ?_
  cases nodes
  · exact balanced_calm trivial
  refine balanced_fetchRooms.bind fun rooms => ?_
  cases rooms
  · exact balanced_calm trivial
  · exact balanced_calm ⟨trivial, fun _ => trivial⟩

theorem balanced_refreshRoom (r : String) : Balanced cc i c (refreshRoom r) := by
  refine balanced_withLock ⟨trivial, fun up => ?_⟩
  cases up
  · trivial
  refine ⟨trivial, fun reply => ?_⟩
  cases reply
  · exact ⟨trivial, fun _ => trivial⟩
  · trivial

theorem balanced_registerNode : Balanced cc i c (registerNode (cc.cfg i)) := by
  have hown : Calm cc i (.setNode (cc.cfg i).nodeId (buildNodeValue (cc.cfg i) 0 0)) :=
    ⟨cc.nodeId_eq i, rfl⟩
  refine balanced_withLock ⟨trivial, fun up => ?_⟩
  cases up
  · trivial
  refine ⟨trivial, fun reply => ?_⟩
  rcases reply with _ | _ | _
  · exact ⟨trivial, fun _ => trivial⟩
  · refine ⟨hown, fun reply => ?_⟩
    cases reply
    · exact ⟨trivial, fun _ => trivial⟩
    · exact ⟨trivial, fun _ => (quiet_publishUpdate _).mono fun _ => Quiet.calm⟩
  · trivial

theorem balanced_updateLoad (rooms maxRooms : ℕ) :
    Balanced cc i c (updateLoad (cc.cfg i) rooms maxRooms) := by
  have hown : Calm cc i (.setNode (cc.cfg i).nodeId (buildNodeValue (cc.cfg i) rooms maxRooms)) :=
    ⟨cc.nodeId_eq i, rfl⟩
  refine balanced_withLock ⟨trivial, fun up => ?_⟩
  cases up
  · trivial
  refine ⟨hown, fun reply => ?_⟩
  cases reply
  · exact ⟨trivial, fun _ => ⟨trivial, fun _ => (quiet_publishUpdate _).mono fun _ => Quiet.calm⟩⟩
  · exact ⟨trivial, fun _ => (quiet_publishUpdate _).mono fun _ => Quiet.calm⟩

theorem only_findDeadNodes : ∀ nodeIds, (findDeadNodes nodeIds).Only (Calm cc i)
  | [] => trivial
  | nodeId :: nodeIds => by
    refine ⟨trivial, fun found => ?_⟩
    cases found
    · exact ⟨trivial, fun _ => trivial⟩
    · refine (only_findDeadNodes nodeIds).bind fun dead => ?_
      cases dead <;> trivial

theorem only_eraseNodes : ∀ nodeIds, (eraseNodes nodeIds).Only (Calm cc i)
  | [] => trivial
  | _ :: nodeIds => ⟨trivial, fun _ => only_eraseNodes nodeIds⟩

theorem balanced_evictDeadNodes : Balanced cc i c evictDeadNodes := by
  refine Balanced.bind (balanced_calm ⟨trivial, fun _ => trivial⟩) fun nodeIds => ?_
  cases nodeIds with
  | nil => exact balanced_calm trivial
  | cons nodeId nodeIds =>
    refine Balanced.bind (balanced_withLock ?_) fun dead => balanced_calm (only_eraseNodes _)
    refine ⟨trivial, fun up => ?_⟩
    cases up
    · trivial
    · exact only_findDeadNodes _

theorem balanced_resolveOwner (r : String) : Balanced cc i c (resolveOwner r) := by
  refine balanced_withLock ⟨trivial, fun up => ?_⟩
  cases up
  · trivial
  refine ⟨trivial, fun owner => ?_⟩
  rcases owner with _ | _ | owner
  · trivial
  · trivial
  refine ⟨trivial, fun addr => ?_⟩
  cases addr
  · refine ⟨trivial, fun info => ?_⟩
    rcases info with _ | _ | info
    · trivial
    · trivial
    by_cases hne : info.address = ""
    · simp [hne]
    · simp [hne, Calm]
  · exact ⟨trivial, fun _ => trivial⟩

theorem balanced_shouldRefreshNodes (best : String) :
    Balanced cc i c (shouldRefreshNodes (cc.cfg i) best) := by
  unfold shouldRefreshNodes
  split
  · exact balanced_calm trivial
  split
  · exact balanced_calm ⟨trivial, fun _ => trivial⟩
  · exact balanced_calm trivial

theorem balanced_resolveBest (clientIp : String) :
    Balanced cc i c (resolveBest (cc.cfg i) clientIp) := by
  refine Balanced.bind (balanced_calm ⟨trivial, fun _ => trivial⟩) fun nodes => ?_
  refine Balanced.bind (balanced_shouldRefreshNodes _) fun refresh => ?_
  cases refresh
  · exact balanced_calm trivial
  · exact balanced_syncNodesSnapshot.bind fun _ => balanced_calm ⟨trivial, fun _ => trivial⟩

theorem balanced_resolveRoom (r clientIp : String) :
    Balanced cc i c (resolveRoom (cc.cfg i) r clientIp) := by
  refine balanced_ensureConnected.bind fun up => ?_
  cases up
  · exact balanced_calm trivial
  refine Balanced.bind (balanced_calm ⟨trivial, fun _ => trivial⟩) fun cached => ?_
  cases cached
  · refine (balanced_resolveOwner r).bind fun addr => ?_
    cases addr
    · exact (balanced_resolveBest clientIp).bind fun _ => balanced_calm trivial
    · exact balanced_calm trivial
  · exact balanced_calm trivial

end Balanced

/-! ### `unregisterRoom` and `claimRoom` -/

section ClaimAndUnregister

variable {cc : ClusterConfig} {i r ip : String} {g : ThreadObs}

theorem unregisterRoom_sound (hg : g.holding = false) (hdel : g.deleted = false) :
    Triple cc i (.unregisterRoom r) (fun _ g' => g'.holding = false) (unregisterRoom r) g := by
  refine ⟨trivial, fun _ g' hr => ?_⟩
  obtain rfl := Quiet.after_eq (a := .eraseRoom r) trivial hr
  refine sound_withLock hg ⟨trivial, fun up g' hr => ?_⟩
  obtain rfl := Quiet.after_eq (a := .ensureConnected) trivial hr
  cases up
  · exact ⟨rfl, rfl⟩
  refine ⟨⟨rfl, .inl ⟨rfl, hdel⟩⟩, fun reply g' hr => ?_⟩
  have hhold : g'.holding := by
    obtain ⟨_, _, -, -, rfl⟩ := hr
    simp [after, room]
  cases reply
  · refine ⟨trivial, fun _ g'' hr => ?_⟩
    obtain rfl := Quiet.after_eq (a := .handleDisconnect) trivial hr
    exact quiet_sound (quiet_publishUpdate _) fun _ => ⟨hhold, rfl⟩
  · exact quiet_sound (quiet_publishUpdate _) fun _ => ⟨hhold, rfl⟩

def Claimed (i : String) (x : Except String String) (g : ThreadObs) : Prop :=
  g.holding = true ∧ (x = .ok "" → g.cacheHit = true ∨ g.lastKey = some i)

theorem keepRoom_sound {c : RegistryCall} (hg : g.holding) (hkey : g.lastKey = some i) :
    Triple cc i c (Claimed i) (keepRoom (cc.cfg i) r) g := by
  have hqt : (keepRoom (cc.cfg i) r).Only Quiet := by
    refine ⟨trivial, fun _ => ?_⟩
    refine (quiet_publishUpdate _).bind fun _ => ?_
    trivial
  exact quiet_sound hqt fun _ => ⟨hg, fun _ => .inr hkey⟩

theorem answeredBy_evalClaim {reply : Option ScriptReply} {g' : ThreadObs}
    (h : AnsweredBy cc i (.claimRoom r ip) (.evalClaim r) reply g g') :
    g'.holding = g.holding ∧ ∀ x, reply = some x →
      (g'.granted = decide (x = .granted)) ∧ ((∀ info, x ≠ .addr info) → g'.lastKey = some i) := by
  obtain ⟨_, _, -, rfl, rfl⟩ := h
  refine ⟨by simp [after, room], fun x hx => ?_⟩
  simp only [exec, command] at hx
  split at hx
  next hup =>
    cases hx
    simp only [after, room, exec, command, hup, if_true]
    exact ⟨by simp, fun hne => Redis.evalClaim_owned hne⟩
  · cases hx

theorem claimRoomEval_sound (hg : g.holding) :
    Triple cc i (.claimRoom r ip) (Claimed i) (claimRoomEval (cc.cfg i) r ip) g := by
  refine ⟨⟨hg, ip, rfl⟩, fun reply g' hr => ?_⟩
  obtain ⟨hhold, hrep⟩ := answeredBy_evalClaim hr
  have hg' : g'.holding := hhold.trans hg
  match reply, hrep with
  | none, _ =>
    refine ⟨trivial, fun _ g'' hr => ?_⟩
    obtain rfl := Quiet.after_eq (a := .handleDisconnect) trivial hr
    exact ⟨hg', by simp⟩
  | some .granted, hrep =>
    obtain ⟨hgrant, hkey⟩ := hrep _ rfl
    refine ⟨trivial, fun nodes g'' hr => ?_⟩
    obtain rfl := Quiet.after_eq (a := .cachedNodes) trivial hr
    simp only [ret_bind]
    split
    next hbest =>
      refine ⟨⟨hg', .inr ⟨⟨ip, rfl⟩, by simpa using hgrant⟩⟩, fun _ g₃ hr => ?_⟩
      obtain ⟨_, _, -, -, rfl⟩ := hr
      exact ⟨by simpa [after, room] using hg', by simp [hbest.1]⟩
    · exact keepRoom_sound hg' (hkey (by simp))
  | some .self, hrep | some (.taken _), hrep =>
    exact keepRoom_sound hg' ((hrep _ rfl).2 (by simp))
  | some (.addr info), _ =>
    simp only [ret_bind]
    split
    next hne =>
      refine ⟨trivial, fun _ g'' hr => ?_⟩
      obtain rfl := Quiet.after_eq (a := .upsertRoom r info.address) trivial hr
      exact ⟨hg', by simp [hne]⟩
    · exact ⟨hg', by simp⟩

theorem refreshCachedRemoteRoomAddressUnlocked_sound {cached : String} (hg : g.holding)
    (hcach : cached ≠ (cc.cfg i).nodeAddress) : Triple cc i (.claimRoom r ip)
      (fun out g' => g'.holding ∧ (out.1 → out.2 ≠ "") ∧
        (out.2 ≠ "" → out.2 = (cc.cfg i).nodeAddress → g'.lastKey = some i))
      (refreshCachedRemoteRoomAddressUnlocked (cc.cfg i) r cached) g := by
  unfold refreshCachedRemoteRoomAddressUnlocked
  split
  next hfst =>
    obtain rfl : cached = "" := hfst.resolve_right hcach
    exact ⟨hg, by simp, by simp⟩
  refine ⟨trivial, fun up g' hr => ?_⟩
  obtain rfl := Quiet.after_eq (a := .ensureConnected) trivial hr
  cases up
  · exact ⟨hg, by simp, by simp⟩
  refine ⟨trivial, fun key g' hr => ?_⟩
  have hg' : g'.holding := by
    rw [Calm.holding (a := .getRoom r) trivial hr]; exact hg
  rcases key with _ | _ | owner
  · exact ⟨hg', by simp, by simp⟩
  · exact ⟨hg', by simp, by simp⟩
  have hkey : g'.lastKey = some owner := by
    obtain ⟨w, n, -, hkey, rfl⟩ := hr
    simp only [exec, command] at hkey
    split at hkey
    next hup =>
      simp [after, room, exec, command, hup, ← Option.some.inj hkey]
    · cases hkey
  refine ⟨trivial, fun node g'' hr => ?_⟩
  rcases node with _ | _ | info
  · obtain rfl := Quiet.after_eq (a := .getNode owner) trivial hr
    exact ⟨hg', by simp, by simp⟩
  · obtain rfl := Quiet.after_eq (a := .getNode owner) trivial hr
    exact ⟨hg', by simp, by simp⟩
  have hrec : info.address = (cc.cfg owner).nodeAddress := by
    obtain ⟨w, n, hw, hnode, -⟩ := hr
    simp only [exec, command] at hnode
    split at hnode
    · exact hw owner info (Option.some.inj hnode).symm
    · cases hnode
  obtain rfl := Quiet.after_eq (a := .getNode owner) trivial hr
  simp only [ret_bind]
  split
  · exact ⟨hg', by simp, by simp⟩
  rename_i hne
  refine ⟨hg', fun _ => hne, fun _ hself => ?_⟩
  rw [hkey, cc.address_inj owner i (hrec.symm.trans hself)]

theorem claimed_redirectTo {address : String} (hg : g.holding) (hne : address ≠ "")
    (hkey : address = (cc.cfg i).nodeAddress → g.lastKey = some i) :
    Claimed i (redirectTo (cc.cfg i) address) g := by
  refine ⟨hg, fun hloc => .inr (hkey ?_)⟩
  by_contra hoth
  simp [redirectTo, hoth, hne] at hloc

theorem claimRoomLocked_sound (hg : g.holding) :
    Triple cc i (.claimRoom r ip) (Claimed i) (claimRoomLocked (cc.cfg i) r ip) g := by
  refine ⟨trivial, fun up g' hr => ?_⟩
  obtain rfl := Quiet.after_eq (a := .ensureConnected) trivial hr
  cases up
  · exact ⟨hg, by simp⟩
  refine ⟨trivial, fun cached g' hr => ?_⟩
  have hg' : g'.holding := by
    rw [Calm.holding (a := .roomAddress r) trivial hr]; exact hg
  cases cached with
  | none => exact claimRoomEval_sound hg'
  | some cached =>
    by_cases hown : cached = (cc.cfg i).nodeAddress
    · have hhit : g'.cacheHit := by
        obtain ⟨_, _, -, -, rfl⟩ := hr
        simp [after, room, hown]
      simp only [ret_bind, hown, if_true]
      exact ⟨hg', fun _ => .inl hhit⟩
    simp only [ret_bind, hown, if_false]
    refine Prog.Sound.bind (refreshCachedRemoteRoomAddressUnlocked_sound hg' hown) ?_
    rintro ⟨_, refreshed⟩ _ ⟨hg'', hne, hkey⟩
    split
    next hunch =>
      exact claimed_redirectTo hg'' (hne hunch) (hkey (hne hunch))
    split
    next hrefr =>
      refine ⟨trivial, fun _ g₃ hr => ?_⟩
      obtain rfl := Quiet.after_eq (a := .upsertRoom r refreshed) trivial hr
      exact claimed_redirectTo hg'' hrefr (hkey hrefr)
    · refine ⟨trivial, fun _ g₃ hr => ?_⟩
      obtain rfl := Quiet.after_eq (a := .eraseRoom r) trivial hr
      exact claimRoomEval_sound hg''

end ClaimAndUnregister

theorem program_sound (cc : ClusterConfig) (i : String) (c : RegistryCall) :
    Triple cc i c (Returned i c) (c.program (cc.cfg i)) {} := by
  -- all but `claimRoom` promise nothing about their answer
  have hoth : ∀ {p : RegistryProg RegistryResult}, (∀ r ip, c ≠ .claimRoom r ip) →
      Balanced cc i c p → Triple cc i c (Returned i c) p {} := fun hc hp =>
    (hp {} rfl).mono fun _ _ hfree => ⟨hfree, fun r ip hclm => absurd hclm (hc r ip)⟩
  cases c with
  | claimRoom r ip =>
    have hclm : Triple cc i (.claimRoom r ip) (fun x g => g.holding = false ∧
        (x = .ok "" → g.cacheHit ∨ g.lastKey = some i)) (claimRoom (cc.cfg i) r ip) {} :=
      sound_withLock rfl ((claimRoomLocked_sound rfl).mono fun x g hx => ⟨hx.1, rfl, hx.2⟩)
    refine hclm.bind ?_
    rintro x g ⟨hfree, hloc⟩
    exact ⟨hfree, fun _ _ _ hx => hloc (RegistryResult.claimed.inj hx)⟩
  | unregisterRoom r =>
    exact (unregisterRoom_sound rfl rfl).bind fun _ g hfree => ⟨hfree, fun _ _ hc => nomatch hc⟩
  | refreshRoom r =>
    exact hoth (by simp) ((balanced_refreshRoom r).bind fun _ => balanced_calm trivial)
  | resolveRoom r ip =>
    exact hoth (by simp) ((balanced_resolveRoom r ip).bind fun _ => balanced_calm trivial)
  | heartbeat =>
    exact hoth (by simp) ((balanced_registerNode.bind fun _ => balanced_evictDeadNodes).bind
      fun _ => balanced_calm trivial)
  | updateLoad rooms maxRooms =>
    exact hoth (by simp) ((balanced_updateLoad rooms maxRooms).bind fun _ =>
      balanced_calm trivial)
  | syncAll =>
    exact hoth (by simp) (balanced_syncAllSnapshot.bind fun _ => balanced_calm trivial)

end MediasoupCpp
