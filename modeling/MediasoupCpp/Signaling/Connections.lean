import MediasoupCpp.Signaling.Sessions

/-!
# Connections join once

A connection that has joined as a peer stays the connection of this peer until it is closed or
another one takes its place; in both cases it is not served any more.  The reason is that a
connection has at most one join under way, and none once it has joined.

Main result: `SessionServer.Connections.step`.

Source: `src/SignalingServerWs.cpp`, `src/SignalingSocketState.h`.
-/

namespace MediasoupCpp

open List

/-! ### Joins under way -/

namespace SessionRef

def Named (session : SessionRef) : Prop :=
  session.roomId ≠ "" ∧ session.peerId ≠ "" ∧ session.sessionId ≠ 0

def mapKey (session : SessionRef) : String := wsMapKey session.roomId session.peerId

end SessionRef

def SessionTask.joins (ws : ℕ) : SessionTask → Bool
  | .join ws' _ _ => ws' = ws
  | _ => false

def SessionCallback.endsJoin (ws : ℕ) : SessionCallback → Bool
  | .joinCompletion ws' _ _ => ws' = ws
  | .workerNotReady ws' (some _) => ws' = ws
  | _ => false

namespace SessionServer

def joining (s : SessionServer) (ws : ℕ) : ℕ :=
  s.worker.tasks.countP (·.joins ws) + s.deferred.countP (·.endsJoin ws)

structure Connections (s : SessionServer) : Prop where
  next_ne_zero : s.nextSessionId ≠ 0
  tasks_named : ∀ {ws req newSessionId}, .join ws req newSessionId ∈ s.worker.tasks →
    SessionRef.Named ⟨req.roomId, req.peerId, newSessionId⟩
  deferred_named : ∀ {ws session result}, .joinCompletion ws session result ∈ s.deferred →
    session.Named
  /-- The socket of a peer has joined as this peer. -/
  mapped : ∀ {key ws}, s.peers.lookup key = some ws →
    (s.sockets ws).sender.Named ∧ (s.sockets ws).sender.mapKey = key
  joining_le : ∀ {ws}, (s.sockets ws).alive = true → s.joining ws ≤ 1
  /-- A socket with a join under way is not yet the one of a peer. -/
  joining_pos : ∀ {ws}, (s.sockets ws).alive = true → 0 < s.joining ws →
    (s.sockets ws).pendingSessionId ≠ 0 ∧ ∀ key, s.peers.lookup key ≠ some ws

/-- A socket that is still served was served before, and is the one of its peer as before. -/
structure Keeps (s s' : SessionServer) : Prop where
  alive : ∀ {ws}, (s'.sockets ws).alive = true → (s.sockets ws).alive = true
  held : ∀ {ws key}, (s'.sockets ws).alive = true → s.peers.lookup key = some ws →
    (s'.sockets ws).sender = (s.sockets ws).sender ∧ s'.peers.lookup key = some ws

variable {s s' : SessionServer} {ws : ℕ}

theorem hasMappedSession_iff : s.hasMappedSession ws ↔ (s.sockets ws).sender.Named ∧
      s.peers.lookup (s.sockets ws).sender.mapKey = some ws := by
  simp only [hasMappedSession, SessionRef.Named, SessionRef.mapKey, PerSocketData.sender,
    Bool.and_eq_true, bne_iff_ne, beq_iff_eq, and_assoc]

theorem Keeps.of_eq (hsocks : s'.sockets = s.sockets) (hprs : s'.peers = s.peers) : s.Keeps s' := by
  refine ⟨fun halive => ?_, fun _ hlook => ?_⟩
  · rwa [hsocks] at halive
  · rw [hsocks, hprs]
    exact ⟨rfl, hlook⟩

theorem Keeps.trans {s'' : SessionServer} (h : s.Keeps s') (h' : s'.Keeps s'') : s.Keeps s'' := by
  refine ⟨fun halive => h.alive (h'.alive halive), fun halive hlook => ?_⟩
  obtain ⟨hsend, hlook⟩ := h.held (h'.alive halive) hlook
  obtain ⟨hsend', hlook⟩ := h'.held halive hlook
  exact ⟨hsend'.trans hsend, hlook⟩

@[simp] theorem sockets_setSocket_self (sd : PerSocketData) : (s.setSocket ws sd).sockets ws = sd :=
  Function.update_self ..

theorem sockets_setSocket_of_ne {ws' : ℕ} (hws : ws' ≠ ws) (sd : PerSocketData) :
    (s.setSocket ws sd).sockets ws' = s.sockets ws' :=
  Function.update_of_ne hws ..

theorem Keeps.setSocket {sd : PerSocketData}
    (halive : sd.alive → (s.sockets ws).alive)
    (hsend : sd.alive → sd.sender = (s.sockets ws).sender) : s.Keeps (s.setSocket ws sd) := by
  have hsock : ∀ ws', ((s.setSocket ws sd).sockets ws').alive → (s.sockets ws').alive ∧
        ((s.setSocket ws sd).sockets ws').sender = (s.sockets ws').sender := by
    intro ws' h
    by_cases hws : ws' = ws
    · subst hws
      rw [sockets_setSocket_self] at h ⊢
      exact ⟨halive h, hsend h⟩
    · rw [sockets_setSocket_of_ne hws] at h ⊢
      exact ⟨h, rfl⟩
  exact ⟨fun h => (hsock _ h).1, fun h hlook => ⟨(hsock _ h).2, hlook⟩⟩

theorem alive_closed (s : SessionServer) (ws : ℕ) : ((s.setSocket ws
      { s.sockets ws with alive := false, closed := true }.clearPendingSocketJoin).sockets
        ws).alive = false := by
  rw [sockets_setSocket_self]
  rfl

namespace Connections

section

variable (h : s.Connections)
include h

theorem congr (hsocks : s'.sockets = s.sockets) (hprs : s'.peers = s.peers)
    (hnext : s'.nextSessionId ≠ 0)
    (htsk : ∀ {ws req newSessionId}, .join ws req newSessionId ∈ s'.worker.tasks →
      SessionRef.Named ⟨req.roomId, req.peerId, newSessionId⟩)
    (hdef : ∀ {ws session result}, .joinCompletion ws session result ∈ s'.deferred →
      session.Named) (hjoin : ∀ ws, s'.joining ws ≤ s.joining ws) : s'.Connections where
  next_ne_zero := hnext
  tasks_named := htsk
  deferred_named := hdef
  mapped hlook := by
    rw [hprs] at hlook
    rw [hsocks]
    exact h.mapped hlook
  joining_le {ws} halive := by
    rw [hsocks] at halive
    exact (hjoin ws).trans (h.joining_le halive)
  joining_pos {ws} halive hpos := by
    rw [hsocks] at halive ⊢
    rw [hprs]
    exact h.joining_pos halive (Nat.lt_of_lt_of_le hpos (hjoin ws))

theorem tables (roomDispatch destroyedRooms : Finset String)
    (downlinkStatsRateLimit : Dict String DownlinkStatsRateLimitState)
    (sent : List (ℕ × Answer)) :
    { s with
      roomDispatch := roomDispatch
      destroyedRooms := destroyedRooms
      downlinkStatsRateLimit := downlinkStatsRateLimit
      sent := sent }.Connections :=
  h.congr rfl rfl h.next_ne_zero h.tasks_named h.deferred_named fun _ => le_rfl

theorem post {task : SessionTask} (htask : ∀ ws, task.joins ws = false) :
    (s.post task).Connections := by
  refine h.congr rfl rfl h.next_ne_zero (fun {ws req newSessionId} hmem => ?_) h.deferred_named
    fun ws => ?_
  · rcases mem_append.mp hmem with hmem | hmem
    · exact h.tasks_named hmem
    have hjoin := htask ws
    rw [← mem_singleton.mp hmem] at hjoin
    exact absurd hjoin (by simp [SessionTask.joins])
  · have hcnt : (s.worker.tasks ++ [task]).countP (·.joins ws) =
        s.worker.tasks.countP (·.joins ws) := by
      simp [countP_append, htask]
    exact (congrArg (· + _) hcnt).le

theorem setSocket {sd : PerSocketData}
    (halive : sd.alive → (s.sockets ws).alive)
    (hsend : ∀ key, s.peers.lookup key = some ws → sd.sender = (s.sockets ws).sender)
    (hjoin : sd.alive → s.joining ws = 0) : (s.setSocket ws sd).Connections where
  next_ne_zero := h.next_ne_zero
  tasks_named := h.tasks_named
  deferred_named := h.deferred_named
  mapped {key ws'} hlook := by
    have hmap := h.mapped hlook
    by_cases hws : ws' = ws
    · subst hws
      rw [sockets_setSocket_self, hsend key hlook]
      exact hmap
    · rw [sockets_setSocket_of_ne hws]
      exact hmap
  joining_le {ws'} halive' := by
    by_cases hws : ws' = ws
    · subst hws
      rw [sockets_setSocket_self] at halive'
      exact h.joining_le (halive halive')
    · rw [sockets_setSocket_of_ne hws] at halive'
      exact h.joining_le halive'
  joining_pos {ws'} halive' hpos := by
    by_cases hws : ws' = ws
    · subst hws
      rw [sockets_setSocket_self] at halive'
      exact absurd (hjoin halive') (Nat.ne_of_gt hpos)
    · rw [sockets_setSocket_of_ne hws] at halive' ⊢
      exact h.joining_pos halive' hpos

end

end Connections

/-! ### The loop -/

/-- A step keeps what holds of the connections, and the connections that are still served. -/
structure Moves (s s' : SessionServer) : Prop where
  inv : s'.Connections
  keeps : s.Keeps s'

theorem Moves.trans {s'' : SessionServer} (h : s.Moves s') (h' : s'.Moves s'') : s.Moves s'' :=
  ⟨h'.inv, h.keeps.trans h'.keeps⟩

namespace Connections

section

variable (h : s.Connections)
include h

theorem same : s.Moves s := ⟨h, .of_eq rfl rfl⟩

variable (roomDispatch destroyedRooms : Finset String)

theorem moves_tables (downlinkStatsRateLimit : Dict String DownlinkStatsRateLimitState)
    (sent : List (ℕ × Answer)) : s.Moves { s with
      roomDispatch := roomDispatch
      destroyedRooms := destroyedRooms
      downlinkStatsRateLimit := downlinkStatsRateLimit
      sent := sent } :=
  ⟨h.tables .., .of_eq rfl rfl⟩

theorem send (ws : ℕ) (answer : Answer) : s.Moves (s.send ws answer) :=
  h.moves_tables ..

theorem assignRoom (roomId : String) : s.Moves (s.assignRoom roomId) :=
  h.moves_tables ..

theorem unassignRoom (roomId : String) : s.Moves (s.unassignRoom roomId) :=
  h.moves_tables ..

theorem sendIfAlive (ws : ℕ) (answer : Answer) : s.Moves (s.sendIfAlive ws answer) := by
  unfold SessionServer.sendIfAlive
  split
  · exact h.send ws answer
  · exact h.same

theorem moves_post {task : SessionTask} (htask : ∀ ws, task.joins ws = false) :
    s.Moves (s.post task) :=
  ⟨h.post htask, .of_eq rfl rfl⟩

theorem skip : s.Moves { s with
      nextSessionId := s.nextSessionId + 1
      roomDispatch := roomDispatch
      destroyedRooms := destroyedRooms } :=
  ⟨h.congr rfl rfl (Nat.succ_ne_zero _) h.tasks_named h.deferred_named fun _ => le_rfl,
    .of_eq rfl rfl⟩

theorem free (halive : (s.sockets ws).alive) (hmap : ¬s.hasMappedSession ws)
    (hpend : (s.sockets ws).pendingSessionId = 0) :
    s.joining ws = 0 ∧ ∀ key, s.peers.lookup key ≠ some ws := by
  refine ⟨Nat.eq_zero_of_not_pos fun hpos => (h.joining_pos halive hpos).1 hpend,
    fun key hlook => hmap ?_⟩
  obtain ⟨hnm, rfl⟩ := h.mapped hlook
  exact hasMappedSession_iff.mpr ⟨hnm, hlook⟩

end

theorem joining_post_join (s : SessionServer) (ws ws' : ℕ) (req : JoinRequestContext)
    (newSessionId : ℕ) : (s.post (.join ws req newSessionId)).joining ws' =
      s.joining ws' + if ws = ws' then 1 else 0 := by
  dsimp only [joining, SessionServer.post]
  rw [countP_append, countP_singleton, Nat.add_right_comm]
  simp only [SessionTask.joins, decide_eq_true_eq]

theorem post_join (h : s.Connections) (hzero : s.joining ws = 0)
    (hunm : ∀ key, s.peers.lookup key ≠ some ws)
    (hpend : (s.sockets ws).pendingSessionId ≠ 0) {req : JoinRequestContext} {newSessionId : ℕ}
    (hnm : SessionRef.Named ⟨req.roomId, req.peerId, newSessionId⟩) :
    (s.post (.join ws req newSessionId)).Connections where
  next_ne_zero := h.next_ne_zero
  tasks_named {ws' req' newSessionId'} hmem := by
    rcases mem_append.mp hmem with hmem | hmem
    · exact h.tasks_named hmem
    injection mem_singleton.mp hmem with _ hreq hsess
    rw [hreq, hsess]
    exact hnm
  deferred_named := h.deferred_named
  mapped := h.mapped
  joining_le {ws'} halive := by
    rw [joining_post_join]
    split
    next hws =>
      rw [← hws, hzero]
    · exact h.joining_le halive
  joining_pos {ws'} halive hpos := by
    by_cases hws : ws = ws'
    · subst hws
      exact ⟨hpend, hunm⟩
    · rw [joining_post_join, if_neg hws] at hpos
      exact h.joining_pos halive hpos

theorem queueJoin (h : s.Connections) (halive : (s.sockets ws).alive)
    (hmap : ¬s.hasMappedSession ws) (hpend : (s.sockets ws).pendingSessionId = 0)
    {req : JoinRequestContext} (hroom : req.roomId ≠ "") (hpeer : req.peerId ≠ "")
    (roomDispatch destroyedRooms : Finset String) :
    s.Moves (({ s with
        nextSessionId := s.nextSessionId + 1
        roomDispatch := roomDispatch
        destroyedRooms := destroyedRooms }.setSocket ws
          ((s.sockets ws).setPendingSocketJoin req.roomId req.peerId s.nextSessionId)).post
            (.join ws req s.nextSessionId)) := by
  obtain ⟨hzero, hunm⟩ := h.free halive hmap hpend
  have hskip := h.skip roomDispatch destroyedRooms
  have hsock := @setSocket _ ws hskip.inv ((s.sockets ws).setPendingSocketJoin req.roomId
    req.peerId s.nextSessionId) (fun halive => halive) (fun _ _ => rfl) fun _ => hzero
  refine hskip.trans (Moves.trans ⟨hsock, .setSocket (fun halive => halive) fun _ => rfl⟩
    ⟨hsock.post_join hzero hunm ?_ ⟨hroom, hpeer, h.next_ne_zero⟩, .of_eq rfl rfl⟩)
  rw [sockets_setSocket_self]
  exact h.next_ne_zero

theorem joinRequest (h : s.Connections) (ws : ℕ) (req : JoinRequestContext) :
    s.Moves (s.joinRequest ws req) := by
  obtain heq | ⟨answer, heq⟩ | ⟨answer, heq⟩ | ⟨halive, hmap, hpend, hroom, hpeer,
    roomDispatch, destroyedRooms, heq⟩ := s.joinRequest_cases ws req <;> rw [heq]
  · exact h.same
  · exact h.send ..
  · have hskip := h.skip s.roomDispatch s.destroyedRooms
    exact hskip.trans (hskip.inv.send ..)
  · exact h.queueJoin halive hmap hpend hroom hpeer _ _

end Connections

structure Registered (s : SessionServer) (ws : ℕ) (session : SessionRef) (s' : SessionServer) :
    Prop where
  sender : (s'.sockets ws).sender = session
  alive : (s'.sockets ws).alive = (s.sockets ws).alive
  /-- Another socket is not served any more if it was the one of the peer. -/
  others : ∀ {ws'}, ws' ≠ ws → (s'.sockets ws').sender = (s.sockets ws').sender ∧
    (s'.sockets ws').pendingSessionId = (s.sockets ws').pendingSessionId ∧
    ((s'.sockets ws').alive = true →
      (s.sockets ws').alive = true ∧ s.peers.lookup session.mapKey ≠ some ws')
  lookup : ∀ key, s'.peers.lookup key =
    if key = session.mapKey then some ws else s.peers.lookup key
  next : s'.nextSessionId = s.nextSessionId
  tasks : s'.worker.tasks = s.worker.tasks
  deferred : s'.deferred = s.deferred

theorem registered_registerJoinedSocket (hunm : ∀ key, s.peers.lookup key ≠ some ws)
    (session : SessionRef) : s.Registered ws session (s.registerJoinedSocket ws session) := by
  have hprs : ∀ key, (s.peers.filter fun key owner =>
      owner != ws || key == session.mapKey).lookup key = s.peers.lookup key := by
    intro key
    rw [Dict.lookup_filter]
    cases hlook : s.peers.lookup key with
    | none => rfl
    | some owner =>
      have hne : owner ≠ ws := by
        rintro rfl
        exact hunm key hlook
      simp [hne]
  have hins : ∀ key, ((s.peers.filter fun key owner =>
      owner != ws || key == session.mapKey).insert session.mapKey ws).lookup key =
        if key = session.mapKey then some ws else s.peers.lookup key := by
    intro key
    rw [Dict.lookup_insert_eq, hprs]
  have hkey : wsMapKey session.roomId session.peerId = session.mapKey := rfl
  unfold registerJoinedSocket
  dsimp only
  rw [hkey, hprs]
  cases hold : s.peers.lookup session.mapKey with
  | none =>
    refine ⟨?_, ?_, fun {ws'} hws => ?_, hins, rfl, rfl, rfl⟩
    · rw [sockets_setSocket_self]
      rfl
    · rw [sockets_setSocket_self]
      rfl
    · rw [sockets_setSocket_of_ne hws, hold]
      exact ⟨rfl, rfl, fun halive => ⟨halive, Option.some_ne_none _ |>.symm⟩⟩
  | some oldWs =>
    have hne : oldWs ≠ ws := by
      rintro rfl
      exact hunm _ hold
    dsimp only
    rw [if_pos hne]
    refine ⟨?_, ?_, fun {ws'} hws => ?_, hins, rfl, rfl, rfl⟩
    · rw [sockets_setSocket_of_ne hne.symm, sockets_setSocket_self]
      rfl
    · rw [sockets_setSocket_of_ne hne.symm, sockets_setSocket_self]
      rfl
    by_cases hws' : ws' = oldWs
    · subst hws'
      rw [sockets_setSocket_self, sockets_setSocket_of_ne hws]
      exact ⟨rfl, rfl, nofun⟩
    · rw [sockets_setSocket_of_ne hws', sockets_setSocket_of_ne hws, hold]
      exact ⟨rfl, rfl, fun halive => ⟨halive, fun heq => hws' (Option.some.inj heq).symm⟩⟩

namespace Connections

section

variable (h : s.Connections)
include h

theorem register {session : SessionRef} (hreg : s.Registered ws session s')
    (hnm : session.Named) (hunm : ∀ key, s.peers.lookup key ≠ some ws)
    (hjoin : s.joining ws = 0) : s.Moves s' := by
  have hsame : ∀ ws', s'.joining ws' = s.joining ws' := by
    intro ws'
    rw [joining, joining, hreg.tasks, hreg.deferred]
  have halive : ∀ {ws'}, (s'.sockets ws').alive → (s.sockets ws').alive := by
    intro ws' halive
    by_cases hws : ws' = ws
    · subst hws
      rwa [hreg.alive] at halive
    · exact ((hreg.others hws).2.2 halive).1
  have hlook := hreg.lookup
  refine ⟨⟨?_, ?_, ?_, fun {key ws'} hmap => ?_, fun {ws'} h' => ?_, fun {ws'} h' hpos => ?_⟩,
    ⟨halive, fun {ws' key} h' hheld => ?_⟩⟩
  · rw [hreg.next]
    exact h.next_ne_zero
  · rw [hreg.tasks]
    exact h.tasks_named
  · rw [hreg.deferred]
    exact h.deferred_named
  · rw [hlook] at hmap
    split at hmap
    next hkey =>
      cases hmap
      rw [hreg.sender]
      exact ⟨hnm, hkey.symm⟩
    have hws : ws' ≠ ws := by
      rintro rfl
      exact hunm key hmap
    rw [(hreg.others hws).1]
    exact h.mapped hmap
  · rw [hsame]
    exact h.joining_le (halive h')
  · rw [hsame] at hpos
    have hws : ws' ≠ ws := by
      rintro rfl
      exact Nat.ne_of_gt hpos hjoin
    obtain ⟨hpend, hfree⟩ := h.joining_pos (halive h') hpos
    refine ⟨(hreg.others hws).2.1 ▸ hpend, fun key hkey => ?_⟩
    rw [hlook] at hkey
    split at hkey
    · exact hws (Option.some.inj hkey).symm
    · exact hfree key hkey
  · have hws : ws' ≠ ws := by
      rintro rfl
      exact hunm key hheld
    obtain ⟨hsend, -, hoth⟩ := hreg.others hws
    have hkey : key ≠ session.mapKey := by
      rintro rfl
      exact (hoth h').2 hheld
    exact ⟨hsend, by rw [hlook, if_neg hkey, hheld]⟩

theorem clearPendingJoin (sessionId : ℕ) (hjoin : s.joining ws = 0) :
    s.Moves (s.clearPendingJoin ws sessionId) := by
  have hsame : ((s.sockets ws).clearPendingSocketJoinIfMatches sessionId).sender =
      (s.sockets ws).sender ∧ ((s.sockets ws).clearPendingSocketJoinIfMatches sessionId).alive =
        (s.sockets ws).alive := by
    unfold PerSocketData.clearPendingSocketJoinIfMatches
    split <;> exact ⟨rfl, rfl⟩
  exact ⟨h.setSocket (fun halive => hsame.2 ▸ halive) (fun _ _ => hsame.1) fun _ => hjoin,
    .setSocket (fun halive => hsame.2 ▸ halive) fun _ => hsame.1⟩

theorem completeJoin {session : SessionRef} (hnm : session.Named)
    (hdone : (s.sockets ws).alive → s.joining ws = 0 ∧ ∀ key, s.peers.lookup key ≠ some ws)
    (result : JoinResult) : s.Moves (s.completeJoin ws session result) := by
  obtain heq | ⟨-, halive, heq⟩ | ⟨roomDispatch, heq | ⟨halive, _, heq⟩⟩ :=
    s.completeJoin_cases ws session result <;> rw [heq]
  · exact h.moves_post fun _ => rfl
  · obtain ⟨hjoin, hunm⟩ := hdone halive
    have hreg := h.register (registered_registerJoinedSocket hunm session) hnm
      hunm hjoin
    have hasg := hreg.trans (hreg.inv.assignRoom session.roomId)
    exact hasg.trans (hasg.inv.send ..)
  · exact h.moves_tables ..
  · have hroom : s.Moves { s with roomDispatch := roomDispatch } := h.moves_tables ..
    have hclear := hroom.trans (hroom.inv.clearPendingJoin session.sessionId (hdone halive).1)
    exact hclear.trans (hclear.inv.send ..)

theorem runCallback {callback : SessionCallback}
    (hnm : ∀ {ws session result}, callback = .joinCompletion ws session result → session.Named)
    (hdone : ∀ {ws}, callback.endsJoin ws → (s.sockets ws).alive →
      s.joining ws = 0 ∧ ∀ key, s.peers.lookup key ≠ some ws) :
    s.Moves (s.runCallback callback) := by
  have hlim : ∀ mapKey f, s.Moves (s.updateRateLimit mapKey f) := by
    intro mapKey f
    unfold SessionServer.updateRateLimit
    split
    · exact h.same
    · exact h.moves_tables ..
  cases callback with
  | roomLifecycle roomId created =>
    unfold SessionServer.runCallback
    dsimp only
    split <;> exact h.moves_tables ..
  | workerNotReady ws join =>
    cases join with
    | none => exact h.sendIfAlive ..
    | some join =>
      have hun := h.unassignRoom join.1
      unfold SessionServer.runCallback
      dsimp only
      split
      next halive =>
        have hjoin := (@hdone ws (decide_eq_true rfl) halive).1
        have hclear := hun.trans (hun.inv.clearPendingJoin join.2 hjoin)
        exact hclear.trans (hclear.inv.send ..)
      · exact hun
  | joinCompletion ws session result =>
    exact h.completeJoin (hnm rfl) (hdone (decide_eq_true rfl)) result
  | answer ws answer => exact h.sendIfAlive ..
  | downlinkStats ws mapKey seq stored answer =>
    exact (hlim ..).trans ((hlim ..).inv.sendIfAlive ..)
  | downlinkSnapshotApplied mapKey seq => exact hlim ..

theorem runDeferred : s.Moves s.runDeferred := by
  unfold SessionServer.runDeferred
  split
  · exact h.same
  rename_i callback callbacks hdef
  have hcnt : ∀ ws, s.joining ws = { s with deferred := callbacks }.joining ws +
      if callback.endsJoin ws then 1 else 0 := by
    intro ws
    rw [joining, hdef, countP_cons, ← Nat.add_assoc]
    rfl
  have hrest : s.Moves { s with deferred := callbacks } :=
    ⟨h.congr rfl rfl h.next_ne_zero h.tasks_named
      (fun hmem => h.deferred_named (hdef ▸ mem_cons_of_mem _ hmem))
      fun ws => (Nat.le_add_right _ _).trans (hcnt ws).ge, .of_eq rfl rfl⟩
  refine hrest.trans (hrest.inv.runCallback (fun hcb => ?_) fun {ws} hends halive => ?_)
  · apply h.deferred_named
    rw [hdef, hcb]
    exact mem_cons_self
  -- this was the only join of the socket
  have hone := hcnt ws
  have hle := h.joining_le halive
  rw [if_pos hends] at hone
  exact ⟨by omega, (h.joining_pos halive (by omega)).2⟩

theorem unregister {key : String} (hdead : (s.sockets ws).alive = false)
    (hlook : s.peers.lookup key = some ws)
    (downlinkStatsRateLimit : Dict String DownlinkStatsRateLimitState) : s.Moves { s with
      peers := s.peers.erase key
      downlinkStatsRateLimit := downlinkStatsRateLimit } := by
  have hsub : ∀ {key' ws'}, (s.peers.erase key).lookup key' = some ws' →
      s.peers.lookup key' = some ws' := by
    intro key' ws' hkey
    rw [Dict.lookup_erase_eq] at hkey
    split at hkey
    · cases hkey
    · exact hkey
  refine ⟨⟨h.next_ne_zero, h.tasks_named, h.deferred_named, fun hkey => h.mapped (hsub hkey),
    h.joining_le, fun halive hpos => ?_⟩, ⟨fun halive => halive, fun {ws' key'} halive hheld => ?_⟩⟩
  · obtain ⟨hpend, hfree⟩ := h.joining_pos halive hpos
    exact ⟨hpend, fun key' hkey => hfree key' (hsub hkey)⟩
  refine ⟨rfl, ?_⟩
  rw [Dict.lookup_erase_eq, if_neg, hheld]
  rintro rfl
  cases hlook.symm.trans hheld
  cases hdead.symm.trans halive

theorem closeSocket (ws : ℕ) : s.Moves (s.closeSocket ws) := by
  have hsock : s.Moves (s.setSocket ws
      { s.sockets ws with alive := false, closed := true }.clearPendingSocketJoin) :=
    ⟨h.setSocket nofun (fun _ _ => rfl) nofun, .setSocket nofun fun _ => rfl⟩
  have hdead := s.alive_closed ws
  obtain heq | ⟨peers, downlinkStatsRateLimit, htables, hleave⟩ := s.closeSocket_cases ws
  · rw [heq]
    exact h.same
  have hmove : s.Moves { s.setSocket ws
      { s.sockets ws with alive := false, closed := true }.clearPendingSocketJoin with
        peers := peers, downlinkStatsRateLimit := downlinkStatsRateLimit } := by
    obtain ⟨rfl, rfl⟩ | ⟨hlook, rfl, rfl⟩ := htables
    · exact hsock
    · exact hsock.trans (hsock.inv.unregister hdead hlook _)
  obtain heq | ⟨_, heq⟩ := hleave <;> rw [heq]
  · exact hmove
  · exact hmove.trans (hmove.inv.moves_post fun _ => rfl)

theorem request (ws : ℕ) (req : Request) : s.Moves (s.request ws req) := by
  obtain heq | ⟨_, heq⟩ | heq := s.request_cases ws req <;> rw [heq]
  · exact h.same
  · exact h.send ..
  · exact h.moves_post fun _ => rfl

theorem clientStats (ws : ℕ) (data : Except String ClientQosSnapshot) :
    s.Moves (s.clientStats ws data) := by
  obtain heq | ⟨_, heq⟩ | ⟨_, heq⟩ := s.clientStats_cases ws data <;> rw [heq]
  · exact h.same
  · exact h.send ..
  · exact h.moves_post fun _ => rfl

theorem downlinkClientStats (ws : ℕ) (data : Except String DownlinkSnapshot) (nowMs : ℤ) :
    s.Moves (s.downlinkClientStats ws data nowMs) := by
  obtain heq | ⟨_, heq⟩ | ⟨_, -, -, -, -, heq⟩ :=
    s.downlinkClientStats_cases ws data nowMs <;> rw [heq]
  · exact h.same
  · exact h.send ..
  · have hlim := h.moves_tables s.roomDispatch s.destroyedRooms
    exact (hlim _ _).trans ((hlim _ _).inv.moves_post fun _ => rfl)

end

end Connections

/-! ### The worker -/

variable (w : RoomWorker)

/-- Executing a join ends it with a callback; other tasks have nothing to do with joins. -/
structure EndsJoin (task : SessionTask) (out : RoomWorker × List SessionCallback) : Prop where
  tasks : out.1.tasks = w.tasks
  count : ∀ ws, out.2.countP (·.endsJoin ws) = if task.joins ws then 1 else 0
  named : ∀ {ws session result}, .joinCompletion ws session result ∈ out.2 →
    ∃ req, task = .join ws req session.sessionId ∧ session.roomId = req.roomId ∧
      session.peerId = req.peerId

theorem EndsJoin.of_none {w : RoomWorker} {task : SessionTask}
    {out : RoomWorker × List SessionCallback} (htsk : out.1.tasks = w.tasks)
    (htask : ∀ ws, task.joins ws = false)
    (hout : ∀ callback ∈ out.2, ∀ ws, callback.endsJoin ws = false) : EndsJoin w task out where
  tasks := htsk
  count ws := by
    rw [htask, if_neg Bool.false_ne_true, countP_eq_zero]
    intro callback hmem
    rw [hout callback hmem]
    exact Bool.false_ne_true
  named {ws session result} hmem := by
    have hends := hout _ hmem ws
    exact absurd hends (by simp [SessionCallback.endsJoin])

theorem endsJoin_join (ws : ℕ) (req : JoinRequestContext) (newSessionId : ℕ) (env : TaskEnv) :
    EndsJoin w (.join ws req newSessionId) (w.join ws req newSessionId env) := by
  have hcbs : ∀ (w' : RoomWorker) (created : Bool) (result : JoinResult),
      w'.tasks = w.tasks → EndsJoin w (.join ws req newSessionId)
        (w', (if created then [.roomLifecycle req.roomId true] else []) ++
          [.joinCompletion ws ⟨req.roomId, req.peerId, newSessionId⟩ result]) := by
    intro w' created result htsk
    have hnone : ∀ ws', (if created then [SessionCallback.roomLifecycle req.roomId true]
        else []).countP (·.endsJoin ws') = 0 := by
      intro ws'
      split <;> rfl
    refine ⟨htsk, fun ws' => ?_, fun {ws' session result'} hmem => ?_⟩
    · rw [countP_append, hnone, Nat.zero_add, countP_singleton]
      rfl
    rcases mem_append.mp hmem with hmem | hmem
    · split at hmem
      · cases mem_singleton.mp hmem
      · cases hmem
    · cases mem_singleton.mp hmem
      exact ⟨req, rfl, rfl, rfl⟩
  unfold RoomWorker.join
  dsimp only
  split
  · refine hcbs _ _ _ ?_
    split <;> rfl
  · exact hcbs _ _ _ rfl

theorem endsJoin_execute (env : TaskEnv) (task : SessionTask) :
    EndsJoin w task (w.execute env task) := by
  cases task with
  | join ws req newSessionId =>
    unfold RoomWorker.execute
    dsimp only
    split
    · exact endsJoin_join w ws req newSessionId env
    refine ⟨rfl, fun ws' => ?_, fun hmem => ?_⟩
    · rw [countP_singleton]
      rfl
    · cases mem_singleton.mp hmem
  | request | clientStats | downlinkClientStats =>
    simp only [RoomWorker.execute, RoomWorker.request, RoomWorker.clientStats,
      RoomWorker.downlinkClientStats]
    repeat' split
    all_goals exact .of_none rfl (fun _ => rfl) (forall_mem_singleton.mpr fun _ => rfl)
  | leave session =>
    unfold RoomWorker.execute RoomWorker.leaveIfSessionMatches
    dsimp only
    repeat' split
    all_goals refine .of_none rfl (fun _ => rfl) ?_
    · exact forall_mem_singleton.mpr fun _ => rfl
    all_goals exact fun _ hmem => (by cases hmem)

namespace Connections

section

variable (h : s.Connections)
include h

theorem runTask (env : TaskEnv) : s.Moves (s.runTask env) := by
  unfold SessionServer.runTask
  split
  · exact h.same
  rename_i task tasks htsk
  have hends := endsJoin_execute { s.worker with tasks := tasks } env task
  refine ⟨h.congr rfl rfl h.next_ne_zero (fun hmem => ?_) (fun {ws session result} hmem => ?_)
    fun ws => ?_, .of_eq rfl rfl⟩
  · dsimp only at hmem
    rw [hends.tasks] at hmem
    exact h.tasks_named (htsk ▸ mem_cons_of_mem _ hmem)
  · rcases mem_append.mp hmem with hmem | hmem
    · exact h.deferred_named hmem
    obtain ⟨_, rfl, hroom, hpeer⟩ := hends.named hmem
    have hnm := h.tasks_named (htsk ▸ mem_cons_self)
    rwa [← hroom, ← hpeer] at hnm
  · dsimp only [joining]
    rw [hends.tasks, htsk, countP_append, hends.count, countP_cons, Nat.add_left_comm, Nat.add_comm]

theorem defer {callback : SessionCallback}
    (hcb : ∀ ws, callback.endsJoin ws = false) :
    s.Moves { s with deferred := s.deferred ++ [callback] } := by
  refine ⟨h.congr rfl rfl h.next_ne_zero h.tasks_named (fun {ws session result} hmem => ?_)
    fun ws => ?_, .of_eq rfl rfl⟩
  · rcases mem_append.mp hmem with hmem | hmem
    · exact h.deferred_named hmem
    have hends := hcb ws
    rw [← mem_singleton.mp hmem] at hends
    exact absurd hends (by simp [SessionCallback.endsJoin])
  · dsimp only [joining]
    rw [countP_append, countP_singleton, hcb, if_neg Bool.false_ne_true]
    exact le_rfl

theorem destroyRoom (roomId : String) : s.Moves (s.destroyRoom roomId) := by
  unfold SessionServer.destroyRoom
  split
  · have hwork : s.Moves { s with worker := { s.worker with
        rooms := s.worker.rooms.removeRoom roomId
        qosRegistry := s.worker.qosRegistry.erase roomId
        downlinkQosRegistry := s.worker.downlinkQosRegistry.erase roomId } } :=
      ⟨h.congr rfl rfl h.next_ne_zero h.tasks_named h.deferred_named fun _ => le_rfl,
        .of_eq rfl rfl⟩
    exact hwork.trans (hwork.inv.defer fun _ => rfl)
  · exact h.same

theorem step (e : SessionEvent) : s.Moves (sessionStep s e) := by
  cases e with
  | joinRequest ws req => exact h.joinRequest ws req
  | request ws req => exact h.request ws req
  | clientStats ws data => exact h.clientStats ws data
  | downlinkClientStats ws data nowMs => exact h.downlinkClientStats ws data nowMs
  | closeSocket ws => exact h.closeSocket ws
  | runDeferred => exact h.runDeferred
  | runTask env => exact h.runTask env
  | destroyRoom roomId => exact h.destroyRoom roomId
  | snapshotApplied roomId peerId seq => exact h.defer (fun _ => rfl)
  | setWorkerCount count =>
    exact ⟨h.congr rfl rfl h.next_ne_zero h.tasks_named h.deferred_named fun _ => le_rfl,
      .of_eq rfl rfl⟩

end

end Connections

theorem connections_init (random : ℕ) (roomService : Bool) (workerCount : ℕ) :
    (init random roomService workerCount).Connections where
  next_ne_zero := Nat.ne_of_gt (Nat.add_pos_right _ (by decide))
  tasks_named hmem := nomatch hmem
  deferred_named hmem := nomatch hmem
  mapped hlook := nomatch hlook
  joining_le _ := Nat.zero_le _
  joining_pos _ hpos := absurd hpos (Nat.lt_irrefl 0)

end SessionServer

end MediasoupCpp
