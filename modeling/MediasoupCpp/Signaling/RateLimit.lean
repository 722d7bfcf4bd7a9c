import MediasoupCpp.Signaling.ReportLog

/-!
# The limit on reports

A client reports what it receives, with a number that advances.  A report is forwarded to the
worker, and until it is rejected there, or used by a planning pass, the flag of its peer is set: a
report with an advancing number is turned away as long as the flag has been set for no more than
100 ms.

Main result: `limited_iff_clearsResolved`.

Source: `src/SignalingServerWs.cpp`, `src/SignalingSocketState.h`, `src/RoomServiceDownlink.cpp`,
`src/qos/DownlinkQosRegistry.cpp`.
-/

namespace MediasoupCpp

open List Runs Option DownlinkStatsRateLimitState

/-! ### The limit -/

def ReportsSpaced (log : List ReportRecord) : Prop :=
  ∀ past second, past ++ [.forwarded second] <+: log → second.advancing = true →
    ∀ first, .forwarded first ∈ past → first.advancing = true → first.ws = second.ws →
      100 < second.nowMs - first.nowMs ∨ Resolved past first

variable (s : SessionServer)

def SessionServer.pendingReport (key : String) : Option (ℕ × ℤ) :=
  (s.downlinkStatsRateLimit.lookup key).bind fun state =>
    if state.pending then some (state.pendingSeq, state.pendingSinceMs) else none

/-- The reports are limited: they are spaced, and as long as the last one of a peer is not
resolved and its connection is served, the flag is set for it. -/
structure WatchedServer.Limited (o : WatchedServer) : Prop where
  spaced : ReportsSpaced o.log
  on : ∀ {key report}, o.lastAdvancing key = some report →
    (o.server.sockets report.ws).alive = true →
      Resolved o.log report ∨ o.server.pendingReport key = some (report.seq, report.nowMs)

def SessionServer.clearedBy (callback : SessionCallback) : Option String :=
  callback.clears?.bind fun (key, seq) =>
    if (s.pendingReport key).map Prod.fst = some seq then some key else none

def SessionServer.clearing : SessionEvent → Option String
  | .runDeferred => s.deferred.head?.bind s.clearedBy
  | _ => none

def ClearsResolved (o : WatchedServer) (e : ℕ × SessionEvent) : Prop :=
  ∀ key ∈ o.server.clearing e.2, ∀ report ∈ o.lastAdvancing key,
    (o.server.sockets report.ws).alive = true → Resolved o.log report

instance ClearsResolved.decidable (o : WatchedServer) (e : ℕ × SessionEvent) :
    Decidable (ClearsResolved o e) :=
  inferInstanceAs (Decidable (∀ key ∈ o.server.clearing e.2, ∀ report ∈ o.lastAdvancing key,
    (o.server.sockets report.ws).alive = true → Resolved o.log report))

/-! ### The flags -/

namespace SessionServer

variable {s s' : SessionServer} {ws : ℕ} {key : String}

theorem pendingReport_congr (h : s'.downlinkStatsRateLimit = s.downlinkStatsRateLimit) :
    s'.pendingReport key = s.pendingReport key := by
  rw [pendingReport, h, pendingReport]

theorem pendingReport_eq_some {seq : ℕ} {since : ℤ} : s.pendingReport key = some (seq, since) ↔
      ∃ state, s.downlinkStatsRateLimit.lookup key = some state ∧ state.pending ∧
        state.pendingSeq = seq ∧ state.pendingSinceMs = since := by
  unfold pendingReport
  rw [bind_eq_some_iff]
  refine exists_congr fun state => and_congr_right fun _ => ?_
  cases state.pending <;> simp

variable (mapKey : String)

theorem pendingReport_updateRateLimit
    (f : DownlinkStatsRateLimitState → DownlinkStatsRateLimitState) :
    (s.updateRateLimit mapKey f).pendingReport key = if key = mapKey then
        (s.downlinkStatsRateLimit.lookup key).bind fun state =>
          if (f state).pending then some ((f state).pendingSeq, (f state).pendingSinceMs) else none
      else s.pendingReport key := by
  unfold updateRateLimit
  split
  next hnone =>
    split
    next hkey =>
      rw [pendingReport, hkey, hnone]
      rfl
    · rfl
  next state hsome =>
    rw [pendingReport, Dict.lookup_insert_eq]
    split
    next hkey =>
      rw [hkey, hsome]
      rfl
    · rfl

theorem pendingReport_markAccepted (seq : ℕ) :
    (s.updateRateLimit mapKey (·.markAcceptedDownlinkSeq seq)).pendingReport key =
      s.pendingReport key := by
  rw [pendingReport_updateRateLimit]
  split <;> rfl

theorem pendingReport_clearPending (seq : ℕ) :
    (s.updateRateLimit mapKey (·.clearPendingDownlinkSeqIfMatches seq)).pendingReport key =
      if key = mapKey ∧ (s.pendingReport key).map Prod.fst = some seq then none
      else s.pendingReport key := by
  rw [pendingReport_updateRateLimit]
  by_cases hkey : key = mapKey
  · rw [if_pos hkey, pendingReport]
    cases s.downlinkStatsRateLimit.lookup key with
    | none => simp
    | some state =>
      unfold clearPendingDownlinkSeqIfMatches
      cases hpend : state.pending <;> by_cases hseq : state.pendingSeq = seq <;>
        simp [hpend, hseq, hkey]
  · rw [if_neg hkey, if_neg fun h => hkey h.1]

theorem downlinkStatsRateLimit_joinRequest (ws : ℕ) (req : JoinRequestContext) :
    (s.joinRequest ws req).downlinkStatsRateLimit = s.downlinkStatsRateLimit := by
  obtain heq | ⟨answer, heq⟩ | ⟨answer, heq⟩ | ⟨-, -, -, -, -, _, _, heq⟩ :=
    s.joinRequest_cases ws req <;> rw [heq] <;> rfl

theorem downlinkStatsRateLimit_registerJoinedSocket (ws : ℕ) (session : SessionRef) :
    (s.registerJoinedSocket ws session).downlinkStatsRateLimit = s.downlinkStatsRateLimit := by
  unfold registerJoinedSocket
  dsimp only
  split
  · split <;> rfl
  · rfl

theorem downlinkStatsRateLimit_completeJoin (ws : ℕ) (session : SessionRef) (result : JoinResult) :
    (s.completeJoin ws session result).downlinkStatsRateLimit = s.downlinkStatsRateLimit := by
  obtain heq | ⟨-, -, heq⟩ | ⟨_, heq | ⟨-, _, heq⟩⟩ :=
    s.completeJoin_cases ws session result <;> rw [heq]
  · rfl
  · exact downlinkStatsRateLimit_registerJoinedSocket ws session
  · rfl

theorem sockets_sendIfAlive (ws : ℕ) (answer : Answer) :
    (s.sendIfAlive ws answer).sockets = s.sockets := by
  unfold sendIfAlive
  split <;> rfl

theorem downlinkStatsRateLimit_sendIfAlive (ws : ℕ) (answer : Answer) :
    (s.sendIfAlive ws answer).downlinkStatsRateLimit = s.downlinkStatsRateLimit := by
  unfold sendIfAlive
  split <;> rfl

variable {callback : SessionCallback}

theorem runCallback_of_clears {mapKey : String} {seq : ℕ}
    (h : callback.clears? = some (mapKey, seq)) : (s.runCallback callback).downlinkStatsRateLimit =
        (s.updateRateLimit mapKey (·.clearPendingDownlinkSeqIfMatches seq)).downlinkStatsRateLimit ∧
      (s.runCallback callback).sockets = s.sockets := by
  have hupd : (s.updateRateLimit mapKey (·.clearPendingDownlinkSeqIfMatches seq)).sockets =
      s.sockets := by
    unfold updateRateLimit
    split <;> rfl
  cases callback with
  | downlinkStats ws mapKey' seq' stored answer =>
    cases stored with
    | true => cases h
    | false =>
      cases h
      exact ⟨downlinkStatsRateLimit_sendIfAlive .., (sockets_sendIfAlive ..).trans hupd⟩
  | downlinkSnapshotApplied mapKey' seq' =>
    cases h
    exact ⟨rfl, hupd⟩
  | roomLifecycle | workerNotReady | joinCompletion | answer => cases h

theorem pendingReport_runCallback_of_none (h : callback.clears? = none) :
    (s.runCallback callback).pendingReport key = s.pendingReport key := by
  cases callback with
  | downlinkSnapshotApplied mapKey seq => cases h
  | downlinkStats ws mapKey seq stored answer =>
    cases stored with
    | true =>
      refine Eq.trans ?_ (pendingReport_markAccepted mapKey seq)
      exact pendingReport_congr (downlinkStatsRateLimit_sendIfAlive ..)
    | false => cases h
  | roomLifecycle roomId created =>
    unfold runCallback
    dsimp only
    split <;> rfl
  | workerNotReady ws join =>
    refine pendingReport_congr ?_
    cases join with
    | none => exact downlinkStatsRateLimit_sendIfAlive ..
    | some join =>
      unfold runCallback
      dsimp only
      split <;> rfl
  | joinCompletion ws session result =>
    exact pendingReport_congr (downlinkStatsRateLimit_completeJoin ws session result)
  | answer ws answer => exact pendingReport_congr (downlinkStatsRateLimit_sendIfAlive ..)

theorem clearedBy_eq_some :
    s.clearedBy callback = some key ↔ ∃ seq, callback.clears? = some (key, seq) ∧
      (s.pendingReport key).map Prod.fst = some seq := by
  unfold clearedBy
  rw [bind_eq_some_iff]
  constructor
  · rintro ⟨⟨_, seq⟩, hclr, hkey⟩
    obtain ⟨hseq, heq⟩ | ⟨-, heq⟩ := ite_eq_iff.mp hkey
    · cases heq
      exact ⟨seq, hclr, hseq⟩
    · cases heq
  · rintro ⟨seq, hclr, hseq⟩
    exact ⟨(key, seq), hclr, if_pos hseq⟩

theorem pendingReport_runCallback (callback : SessionCallback) :
    (s.runCallback callback).pendingReport key =
      if s.clearedBy callback = some key then none else s.pendingReport key := by
  cases hclr : callback.clears? with
  | none =>
    rw [pendingReport_runCallback_of_none hclr, if_neg]
    rw [clearedBy, hclr]
    exact fun hsome => (by cases hsome)
  | some clears =>
    obtain ⟨_, seq⟩ := clears
    rw [pendingReport_congr (runCallback_of_clears hclr).1, pendingReport_clearPending]
    refine if_congr ?_ rfl rfl
    rw [clearedBy_eq_some, hclr]
    constructor
    · rintro ⟨rfl, hseq⟩
      exact ⟨seq, rfl, hseq⟩
    rintro ⟨_, heq, hseq⟩
    cases heq
    exact ⟨rfl, hseq⟩

theorem clearing_eq_some {e : SessionEvent} (h : s.clearing e = some key) :
    e = .runDeferred ∧ ∃ callback callbacks, s.deferred = callback :: callbacks ∧
      s.clearedBy callback = some key := by
  cases e with
  | runDeferred =>
    obtain ⟨callback, hhead, hkey⟩ := bind_eq_some_iff.mp h
    obtain ⟨callbacks, hdef⟩ := List.head?_eq_some_iff.mp hhead
    exact ⟨rfl, callback, callbacks, hdef, hkey⟩
  | joinRequest | request | clientStats | downlinkClientStats | closeSocket | runTask | destroyRoom
  | snapshotApplied | setWorkerCount => cases h

def TakesBack (s : SessionServer) (e : SessionEvent) (key : String) : Prop :=
  key ∈ s.clearing e ∨
    ∃ ws, s.peers.lookup key = some ws ∧ ((sessionStep s e).sockets ws).alive = false

theorem pendingReport_closeSocket (ws : ℕ) :
    (s.closeSocket ws).pendingReport key = s.pendingReport key ∨
      (s.closeSocket ws).pendingReport key = none ∧ s.TakesBack (.closeSocket ws) key := by
  obtain heq | ⟨_, downlinkStatsRateLimit, htables, hleave⟩ := s.closeSocket_cases ws
  · rw [heq]
    exact .inl rfl
  have hlim : (s.closeSocket ws).downlinkStatsRateLimit = downlinkStatsRateLimit := by
    obtain heq | ⟨session, heq⟩ := hleave <;> exact congrArg _ heq
  have hdead : ((s.closeSocket ws).sockets ws).alive = false := by
    obtain heq | ⟨session, heq⟩ := hleave <;> rw [heq] <;> exact s.alive_closed ws
  obtain ⟨-, hsame⟩ | ⟨hlook, -, herase⟩ := htables
  · exact .inl (pendingReport_congr (hlim.trans hsame))
  rw [pendingReport, hlim, herase, Dict.lookup_erase_eq]
  by_cases hkey : key = wsMapKey (s.sockets ws).roomId (s.sockets ws).peerId
  · rw [if_pos hkey]
    exact .inr ⟨rfl, .inr ⟨ws, hkey ▸ hlook, hdead⟩⟩
  · rw [if_neg hkey]
    exact .inl rfl

theorem pendingReport_runDeferred : s.runDeferred.pendingReport key = s.pendingReport key ∨
      s.runDeferred.pendingReport key = none ∧ s.TakesBack .runDeferred key := by
  cases hdef : s.deferred with
  | nil =>
    rw [runDeferred, hdef]
    exact .inl rfl
  | cons callback callbacks =>
    have hclearing : s.clearing .runDeferred = s.clearedBy callback := by
      rw [clearing, hdef]
      rfl
    rw [runDeferred, hdef]
    rw [pendingReport_runCallback]
    split
    next hkey =>
      exact .inr ⟨rfl, .inl (hclearing.trans hkey)⟩
    · exact .inl rfl

theorem pendingReport_step {e : SessionEvent} (he : e.reports = false) :
    (sessionStep s e).pendingReport key = s.pendingReport key ∨
      (sessionStep s e).pendingReport key = none ∧ s.TakesBack e key := by
  cases e with
  | downlinkClientStats ws data nowMs => cases he
  | joinRequest ws req =>
    exact .inl (pendingReport_congr (downlinkStatsRateLimit_joinRequest ws req))
  | request ws req =>
    refine .inl (pendingReport_congr ?_)
    obtain heq | ⟨answer, heq⟩ | heq := s.request_cases ws req <;> rw [sessionStep, heq] <;> rfl
  | clientStats ws data =>
    refine .inl (pendingReport_congr ?_)
    obtain heq | ⟨answer, heq⟩ | ⟨_, heq⟩ := s.clientStats_cases ws data <;>
      rw [sessionStep, heq] <;> rfl
  | closeSocket ws => exact pendingReport_closeSocket ws
  | runDeferred => exact pendingReport_runDeferred
  | runTask env =>
    refine .inl (pendingReport_congr ?_)
    change (s.runTask env).downlinkStatsRateLimit = _
    unfold runTask
    split <;> rfl
  | destroyRoom roomId =>
    refine .inl (pendingReport_congr ?_)
    change (s.destroyRoom roomId).downlinkStatsRateLimit = _
    unfold destroyRoom
    split <;> rfl
  | snapshotApplied | setWorkerCount => exact .inl rfl

end SessionServer

open SessionServer

/-! ### What holds in every run -/

theorem reportsSpaced_concat {log : List ReportRecord} {entry : ReportRecord}
    (h : ReportsSpaced log)
    (hent : ∀ second, entry = .forwarded second → second.advancing →
      ∀ first, .forwarded first ∈ log → first.advancing → first.ws = second.ws →
        100 < second.nowMs - first.nowMs ∨ Resolved log first) :
    ReportsSpaced (log ++ [entry]) := by
  intro past second hpast
  rcases prefix_concat_iff.mp hpast with heq | hpast
  · obtain ⟨rfl, hent'⟩ := append_inj' heq rfl
    exact hent second (singleton_injective hent').symm
  · exact h past second hpast

theorem reportsSpaced_append {log entries : List ReportRecord} (h : ReportsSpaced log)
    (hents : ∀ report, .forwarded report ∉ entries) : ReportsSpaced (log ++ entries) := by
  induction entries using List.reverseRecOn with
  | nil => rwa [append_nil]
  | append_singleton entries entry ih =>
    rw [← append_assoc]
    refine reportsSpaced_concat (ih fun report hmem => ?_) fun second heq => ?_
    · exact hents report (mem_append_left _ hmem)
    · exact absurd (heq ▸ mem_append_right _ (mem_singleton_self entry))
        (hents second)

namespace WatchedServer

variable {o o' : WatchedServer} {key : String} {report : Report}

theorem mem_of_lastAdvancing (h : o.lastAdvancing key = some report) :
    .forwarded report ∈ o.log ∧ report.advancing ∧ report.mapKey = key := by
  obtain ⟨entry, hent, hadv⟩ := mem_filterMap.mp (mem_of_getLast? h)
  cases entry with
  | forwarded report' =>
    rw [ReportRecord.advancing?, ite_eq_iff] at hadv
    obtain ⟨hown, heq⟩ | ⟨-, heq⟩ := hadv
    · cases heq
      exact ⟨hent, hown⟩
    · cases heq
  | stored | rejected | failed | applied => cases hadv

theorem lastAdvancing_append {entries : List ReportRecord} (hlog : o'.log = o.log ++ entries)
    (hents : ∀ report, .forwarded report ∉ entries) :
    o'.lastAdvancing key = o.lastAdvancing key := by
  have hnone : entries.filterMap (ReportRecord.advancing? key) = [] := by
    rw [filterMap_eq_nil_iff]
    intro entry hent
    cases entry with
    | forwarded report => exact absurd hent (hents report)
    | stored | rejected | failed | applied => rfl
  rw [lastAdvancing, lastAdvancing, hlog, filterMap_append, hnone, append_nil]

theorem lastAdvancing_forwarded (hlog : o'.log = o.log ++ [.forwarded report]) :
    o'.lastAdvancing key =
      if report.advancing ∧ report.mapKey = key then some report else o.lastAdvancing key := by
  rw [lastAdvancing, lastAdvancing, hlog, filterMap_append]
  by_cases hown : report.advancing ∧ report.mapKey = key <;> simp [ReportRecord.advancing?, hown]

/-- The server takes a step apart from a report, and the log says what has become of reports. -/
structure Acts (o o' : WatchedServer) (ms : ℕ) (e : SessionEvent) : Prop where
  now : o'.nowMs = o.nowMs + ms
  log : ∃ entries, o'.log = o.log ++ entries ∧ ∀ report, .forwarded report ∉ entries
  server : o'.server = o.server ∨ ∃ e', e'.reports = false ∧
    o.server.clearing e' = o.server.clearing e ∧ o'.server = sessionStep o.server e'

theorem Acts.runTask (o : WatchedServer) (ms : ℕ) (env : TaskEnv) :
    o.Acts (watchedStep o (ms, .runTask env)) ms (.runTask env) := by
  have hrun : watchedStep o (ms, .runTask env) =
      { o with nowMs := o.nowMs + ms }.runTask env := rfl
  rw [hrun, WatchedServer.runTask]
  split
  · refine ⟨rfl, ⟨_, rfl, fun report hmem => ?_⟩, .inr ⟨.runTask env, rfl, rfl, rfl⟩⟩
    obtain ⟨_, -, hout⟩ := mem_map.mp hmem
    exact o.server.worker.outcome_ne_forwarded hout
  · exact ⟨rfl, ⟨[], (append_nil _).symm, fun _ hmem => (by cases hmem)⟩,
      .inr ⟨.runTask env, rfl, rfl, rfl⟩⟩

theorem Acts.planned (o : WatchedServer) (ms : ℕ) (roomId peerId : String) (seq : ℕ) :
    o.Acts (watchedStep o (ms, .snapshotApplied roomId peerId seq)) ms
      (.snapshotApplied roomId peerId seq) := by
  have hplan : watchedStep o (ms, .snapshotApplied roomId peerId seq) =
      { o with nowMs := o.nowMs + ms }.planned roomId peerId := rfl
  rw [hplan, WatchedServer.planned]
  split
  · exact ⟨rfl, ⟨[], (append_nil _).symm, fun _ hmem => (by cases hmem)⟩, .inl rfl⟩
  rename_i entry hent
  refine ⟨rfl, ⟨_, rfl, fun report hmem => ?_⟩,
    .inr ⟨.snapshotApplied roomId peerId entry.snapshot.seq, rfl, rfl, rfl⟩⟩
  obtain ⟨_, -, heq⟩ := mem_map.mp hmem
  cases heq

theorem watchedStep_cases (o : WatchedServer) (ms : ℕ) (e : SessionEvent) :
    (∃ ws data, watchedStep o (ms, e) =
        { o with nowMs := o.nowMs + ms }.downlinkClientStats ws data) ∨
      o.Acts (watchedStep o (ms, e)) ms e := by
  have hacts : ∀ e' : SessionEvent, e'.reports = false →
      o.Acts { o with server := sessionStep o.server e', nowMs := o.nowMs + ms } ms e' :=
    fun e' he' => ⟨rfl, ⟨[], (append_nil _).symm, fun _ hmem => (by cases hmem)⟩,
      .inr ⟨e', he', rfl, rfl⟩⟩
  cases e with
  | downlinkClientStats ws data nowMs => exact .inl ⟨ws, data, rfl⟩
  | runTask env => exact .inr (Acts.runTask o ms env)
  | snapshotApplied roomId peerId seq => exact .inr (Acts.planned o ms roomId peerId seq)
  | joinRequest | request | clientStats | closeSocket | runDeferred | destroyRoom
  | setWorkerCount => exact .inr (hacts _ rfl)

/-- What holds in every run in which the flag is taken back only for a report that is resolved. -/
structure Inv (o : WatchedServer) : Prop where
  connections : o.server.Connections
  /-- A connection that has reported and is still served is the one of its peer. -/
  held : ∀ {report}, .forwarded report ∈ o.log → (o.server.sockets report.ws).alive = true →
    (o.server.sockets report.ws).sender = report.sender ∧
      o.server.peers.lookup report.mapKey = some report.ws
  limited : o.Limited
  /-- Only the last one of the advancing reports can be recent and not resolved. -/
  recent : ∀ {report}, .forwarded report ∈ o.log → report.advancing = true →
    (o.server.sockets report.ws).alive = true →
      Resolved o.log report ∨ report.nowMs + 100 < o.nowMs ∨
        o.lastAdvancing report.mapKey = some report

theorem Inv.quiet (h : o.Inv) (hmove : o.server.Moves o'.server) (hnow : o.nowMs ≤ o'.nowMs)
    {entries : List ReportRecord} (hlog : o'.log = o.log ++ entries)
    (hents : ∀ report, .forwarded report ∉ entries)
    (hflags : ∀ {key report}, (o'.server.sockets report.ws).alive →
      o.server.peers.lookup key = some report.ws → o.lastAdvancing key = some report →
        o'.server.pendingReport key = o.server.pendingReport key ∨ Resolved o.log report) :
    o'.Inv := by
  have hsub : o.log ⊆ o'.log := hlog ▸ subset_append_left _ _
  have hmem : ∀ {report}, .forwarded report ∈ o'.log → .forwarded report ∈ o.log := by
    intro report hmem
    rw [hlog] at hmem
    exact (mem_append.mp hmem).resolve_right (hents report)
  have hlast : ∀ {key}, o'.lastAdvancing key = o.lastAdvancing key :=
    lastAdvancing_append hlog hents
  refine ⟨hmove.inv, fun hrep halive => ?_, ⟨?_, fun {key report} hrep halive => ?_⟩,
    fun hrep hadv halive => ?_⟩
  · obtain ⟨hsend, hlook⟩ := h.held (hmem hrep) (hmove.keeps.alive halive)
    obtain ⟨hsend', hlook'⟩ := hmove.keeps.held halive hlook
    exact ⟨hsend'.trans hsend, hlook'⟩
  · rw [hlog]
    exact reportsSpaced_append h.limited.spaced hents
  · rw [hlast] at hrep
    have halive' := hmove.keeps.alive halive
    obtain ⟨hforw, -, hkey⟩ := mem_of_lastAdvancing hrep
    have hlook := (h.held hforw halive').2
    rw [hkey] at hlook
    rcases h.limited.on hrep halive' with hres | hpend
    · exact .inl (hres.mono hsub)
    rcases hflags halive hlook hrep with hsame | hres
    · exact .inr (hsame.trans hpend)
    · exact .inl (hres.mono hsub)
  · rcases h.recent (hmem hrep) hadv (hmove.keeps.alive halive) with
      hres | hold | hlast'
    · exact .inl (hres.mono hsub)
    · exact .inr (.inl (hold.trans_le hnow))
    · exact .inr (.inr (hlast.trans hlast'))

theorem Inv.spaced_next (h : o.Inv) {ws : ℕ} {sd : PerSocketData}
    {state : DownlinkStatsRateLimitState} (hsd : o.server.sockets ws = sd)
    (halive : sd.alive)
    (hst : (o.server.downlinkStatsRateLimit.lookup sd.sender.mapKey).getD {} = state)
    (hlim : state.pending → 100 < o.nowMs - state.pendingSinceMs) {first : Report}
    (hfst : .forwarded first ∈ o.log) (hadv : first.advancing)
    (hws : first.ws = ws) : 100 < o.nowMs - first.nowMs ∨ Resolved o.log first := by
  subst hws hsd
  rcases h.recent hfst hadv halive with hres | _ | hlast
  · exact .inr hres
  · exact .inl (by omega)
  rcases h.limited.on hlast halive with hres | hpend
  · exact .inr hres
  -- the flag is set for this report
  obtain ⟨_, hlook, hflag, -, hsince⟩ := pendingReport_eq_some.mp hpend
  have hkey : first.mapKey = (o.server.sockets first.ws).sender.mapKey :=
    congrArg SessionRef.mapKey (h.held hfst halive).1.symm
  rw [← hkey, hlook, getD_some] at hst
  subst hst
  rw [← hsince]
  exact .inl (hlim hflag)

theorem pendingReport_forward (s : SessionServer) (mapKey : String) (seq : ℕ) (nowMs : ℤ)
    (task : SessionTask) : let state := (s.downlinkStatsRateLimit.lookup mapKey).getD {}
    ({ s with
      downlinkStatsRateLimit := s.downlinkStatsRateLimit.insert mapKey
        (state.forward seq nowMs) }.post task).pendingReport key =
      if state.isAdvancingDownlinkSeq seq ∧ mapKey = key then some (seq, nowMs)
      else s.pendingReport key := by
  dsimp only [post, pendingReport]
  rw [Dict.lookup_insert_eq]
  by_cases hkey : key = mapKey
  · subst hkey
    rw [if_pos rfl, bind_some, forward]
    cases hlook : s.downlinkStatsRateLimit.lookup key with
    | none => simp [isAdvancingDownlinkSeq]
    | some state =>
      rw [getD_some, bind_some]
      by_cases hadv : state.isAdvancingDownlinkSeq seq = true <;> simp [hadv]
  · rw [if_neg hkey, if_neg fun h => hkey h.2.symm]

/-- A report is forwarded: its socket is the one of its peer, it is within the limit, and the flag
is set if it advances. -/
structure Forwards (o o' : WatchedServer) (ws : ℕ) (snapshot : DownlinkSnapshot) : Prop where
  alive : (o.server.sockets ws).alive = true
  mapped : o.server.hasMappedSession ws = true
  limit : (o.newReport ws snapshot).advancing = true →
    let state := (o.server.downlinkStatsRateLimit.lookup
      (o.server.sockets ws).sender.mapKey).getD {}
    state.pending = true → 100 < o.nowMs - state.pendingSinceMs
  sockets : o'.server.sockets = o.server.sockets
  peers : o'.server.peers = o.server.peers
  now : o'.nowMs = o.nowMs
  log : o'.log = o.log ++ [.forwarded (o.newReport ws snapshot)]
  pending : ∀ key, o'.server.pendingReport key =
    if (o.newReport ws snapshot).advancing ∧ (o.newReport ws snapshot).mapKey = key
      then some (snapshot.seq, o.nowMs) else o.server.pendingReport key

namespace Forwards

variable {ws : ℕ} {snapshot : DownlinkSnapshot}

section

variable (hf : o.Forwards o' ws snapshot)
include hf

theorem lookup_peers : o.server.peers.lookup (o.newReport ws snapshot).mapKey = some ws :=
  (hasMappedSession_iff.mp hf.mapped).2

theorem mem_log (hrep : .forwarded report ∈ o'.log) :
    .forwarded report ∈ o.log ∨ report = o.newReport ws snapshot := by
  rw [hf.log, mem_append, mem_singleton, ReportRecord.forwarded.injEq] at hrep
  exact hrep

theorem log_subset : o.log ⊆ o'.log :=
  hf.log ▸ subset_append_left _ _

theorem lastAdvancing (key : String) : o'.lastAdvancing key =
      if (o.newReport ws snapshot).advancing ∧ (o.newReport ws snapshot).mapKey = key
        then some (o.newReport ws snapshot) else o.lastAdvancing key :=
  lastAdvancing_forwarded hf.log

theorem spaced (h : o.Inv) (hadv : (o.newReport ws snapshot).advancing)
    {first : Report} (hfst : .forwarded first ∈ o.log) (hadv' : first.advancing)
    (hws : first.ws = ws) : 100 < o.nowMs - first.nowMs ∨ Resolved o.log first :=
  h.spaced_next rfl hf.alive rfl (hf.limit hadv) hfst hadv' hws

theorem limited (h : o.Inv) : o'.Limited := by
  refine ⟨?_, fun {key report} hrep halive => ?_⟩
  · rw [hf.log]
    refine reportsSpaced_concat h.limited.spaced fun second heq hadv first => ?_
    cases heq
    exact hf.spaced h hadv
  rw [hf.sockets] at halive
  rw [hf.lastAdvancing] at hrep
  rw [hf.pending]
  split_ifs at hrep with hown
  · cases hrep
    rw [if_pos hown]
    exact .inr rfl
  · rw [if_neg hown]
    exact (h.limited.on hrep halive).imp_left (·.mono hf.log_subset)

theorem recent (h : o.Inv) (hrep : .forwarded report ∈ o'.log)
    (hadv : report.advancing) (halive : (o.server.sockets report.ws).alive) :
    Resolved o'.log report ∨ report.nowMs + 100 < o.nowMs ∨
      o'.lastAdvancing report.mapKey = some report := by
  rw [hf.lastAdvancing]
  rcases hf.mem_log hrep with hold | rfl
  · split
    next hown =>
      have hheld := (h.held hold halive).2
      rw [← hown.2, hf.lookup_peers, some.injEq] at hheld
      rcases hf.spaced h hown.1 hold hadv hheld.symm with _ | hres
      · exact .inr (.inl (by omega))
      · exact .inl (hres.mono hf.log_subset)
    · exact (h.recent hold hadv halive).imp_left (·.mono hf.log_subset)
  · rw [if_pos ⟨hadv, rfl⟩]
    exact .inr (.inr rfl)

theorem inv (h : o.Inv) (hmove : o.server.Moves o'.server) : o'.Inv := by
  refine ⟨hmove.inv, fun {report} hrep halive => ?_, hf.limited h,
    fun hrep hadv halive => ?_⟩
  · rw [hf.sockets, hf.peers]
    rw [hf.sockets] at halive
    rcases hf.mem_log hrep with hold | rfl
    · exact h.held hold halive
    · exact ⟨rfl, hf.lookup_peers⟩
  · rw [hf.sockets] at halive
    rw [hf.now]
    exact hf.recent h hrep hadv halive

end

end Forwards

theorem Inv.elapse (h : o.Inv) (ms : ℕ) : { o with nowMs := o.nowMs + ms }.Inv :=
  h.quiet h.connections.same (Int.le_add_of_nonneg_right (Int.natCast_nonneg ms))
    (append_nil _).symm (fun _ hmem => (by cases hmem)) fun _ _ _ => .inl rfl

theorem Inv.downlinkClientStats (h : o.Inv) (ws : ℕ) (data : Except String DownlinkSnapshot) :
    (o.downlinkClientStats ws data).Inv := by
  obtain heq | ⟨answer, heq⟩ | ⟨_, -, halive, hmap, hlim, heq⟩ :=
    o.downlinkClientStats_cases ws data <;> rw [heq]
  · exact h
  · exact h.quiet (h.connections.send ws answer) le_rfl (append_nil _).symm
      (fun _ hmem => (by cases hmem)) fun _ _ _ => .inl rfl
  have htables := h.connections.moves_tables o.server.roomDispatch o.server.destroyedRooms
  refine Forwards.inv ⟨halive, hmap, hlim, rfl, rfl, rfl, rfl, fun key =>
    pendingReport_forward _ _ _ _ _⟩ h ((htables _ _).trans ((htables _ _).inv.moves_post ?_))
  exact fun _ => rfl

theorem Inv.step (h : o.Inv) {e : ℕ × SessionEvent} (hclr : ClearsResolved o e) :
    (watchedStep o e).Inv := by
  obtain ⟨ms, e⟩ := e
  obtain ⟨ws, data, heq⟩ | hacts := o.watchedStep_cases ms e
  · rw [heq]
    exact (h.elapse ms).downlinkClientStats ws data
  obtain ⟨_, hlog, hents⟩ := hacts.log
  have hnow : o.nowMs ≤ (watchedStep o (ms, e)).nowMs :=
    (Int.le_add_of_nonneg_right (Int.natCast_nonneg ms)).trans_eq hacts.now.symm
  obtain hserv | ⟨e', he', hclearing, hserv⟩ := hacts.server
  · refine h.quiet (hserv ▸ h.connections.same) hnow hlog hents fun _ _ _ => ?_
    rw [hserv]
    exact .inl rfl
  have hmove := h.connections.step e'
  refine h.quiet (hserv ▸ hmove) hnow hlog hents
    fun {key report} halive hlook hlast => ?_
  rw [hserv] at halive ⊢
  obtain hsame | ⟨-, hclear | ⟨_, hlook', hdead⟩⟩ :=
    @SessionServer.pendingReport_step o.server key e' he'
  · exact .inl hsame
  · exact .inr (hclr key (hclearing ▸ hclear) report hlast (hmove.keeps.alive halive))
  rw [hlook, some.injEq] at hlook'
  rw [hlook', hdead] at halive
  cases halive

theorem inv_init (random : ℕ) (roomService : Bool) (workerCount : ℕ) (nowMs : ℤ) :
    (init random roomService workerCount nowMs).Inv where
  connections := SessionServer.connections_init random roomService workerCount
  held hmem := (by cases hmem)
  limited := by
    refine ⟨fun past second hpast => ?_, fun hlast => (by cases hlast)⟩
    exact absurd (prefix_nil.mp hpast) (append_ne_nil_of_right_ne_nil _ (by simp))
  recent hmem := (by cases hmem)

theorem clearsResolved_of_limited {e : ℕ × SessionEvent} (h : (watchedStep o e).Limited) :
    ClearsResolved o e := by
  obtain ⟨ms, e⟩ := e
  intro key hkey report hlast halive
  obtain ⟨rfl, callback, callbacks, hdef, hcleared⟩ := clearing_eq_some hkey
  obtain ⟨_, hclr, -⟩ := clearedBy_eq_some.mp hcleared
  have hstep : watchedStep o (ms, .runDeferred) =
      { o with
        server := { o.server with deferred := callbacks }.runCallback callback
        nowMs := o.nowMs + ms } := by
    dsimp only [watchedStep, sessionStep]
    rw [runDeferred, hdef]
  rw [hstep] at h
  have hnone : ({ o.server with deferred := callbacks }.runCallback callback).pendingReport key =
      none := by
    rw [pendingReport_runCallback]
    exact if_pos hcleared
  refine (h.on hlast ?_).resolve_right fun hsome => ?_
  · rw [(runCallback_of_clears hclr).2]
    exact halive
  · rw [hnone] at hsome
    cases hsome

end WatchedServer

/-- **The limit on reports.**  It holds all along a run that two advancing reports that were
forwarded for one connection are more than 100 ms apart unless the first one was resolved before,
and that as long as the last one is not resolved the flag is set for it, exactly if the flag of a
peer whose connection is served is taken back only if the report that has set it is resolved. -/
theorem limited_iff_clearsResolved (random : ℕ) (roomService : Bool) (workerCount : ℕ)
    (nowMs : ℤ) (es : List (ℕ × SessionEvent)) :
    (∀ n, (runFrom watchedStep (.init random roomService workerCount nowMs)
        (es.take n)).Limited) ↔
      StepsMeet watchedStep ClearsResolved (.init random roomService workerCount nowMs) es :=
  forall_take_iff_of_stronger WatchedServer.Inv (fun _ hinv => hinv.limited)
    (fun _ _ hinv hclr => hinv.step hclr)
    (fun _ _ _ hlimited => WatchedServer.clearsResolved_of_limited hlimited) es _
    (WatchedServer.inv_init random roomService workerCount nowMs)

def reportsOnce : List (ℕ × SessionEvent) :=
  [(0, .joinRequest 0 ⟨"r", "p", .wellFormed⟩), (0, .runTask {}), (0, .runDeferred),
    (0, .runDeferred), (0, .downlinkClientStats 0 (.ok { seq := 1, subscriberPeerId := "p" }) 0),
    (1, .runTask {}), (1, .runDeferred)]

def reportsAfterPlanning : List (ℕ × SessionEvent) :=
  reportsOnce ++
    [(0, .snapshotApplied "r" "p" 1), (0, .runDeferred),
      (10, .downlinkClientStats 0 (.ok { seq := 2, subscriberPeerId := "p" }) 0)]

def reportOfPeer (number seq : ℕ) (nowMs : ℤ) (advancing : Bool) : Report :=
  ⟨number, 0, ⟨"r", "p", initSessionIdBase 0⟩, seq, nowMs, advancing⟩

/-- Report 2 is forwarded early, as report 1 was used. -/
theorem limited_iff_clearsResolved_planned :
    (∀ n, (runFrom watchedStep (.init 0 true 1 0) (reportsAfterPlanning.take n)).Limited) ∧
      (runFrom watchedStep (.init 0 true 1 0) reportsAfterPlanning).log =
        [.forwarded (reportOfPeer 0 1 0 true), .stored (reportOfPeer 0 1 0 true),
          .applied (reportOfPeer 0 1 0 true), .forwarded (reportOfPeer 3 2 12 true)] := by
  have hclr : StepsMeet watchedStep ClearsResolved (.init 0 true 1 0) reportsAfterPlanning := by
    decide +kernel
  exact ⟨(limited_iff_clearsResolved 0 true 1 0 _).mpr hclr, by decide +kernel⟩

def resentReports : List (ℕ × SessionEvent) :=
  reportsOnce ++
    [(0, .downlinkClientStats 0 (.ok { seq := 1, subscriberPeerId := "p" }) 0), (0, .runTask {}),
      (0, .runDeferred), (50, .downlinkClientStats 0 (.ok { seq := 2, subscriberPeerId := "p" }) 0)]

/-- **A report that is sent twice lifts the limit.**  Report 2 is forwarded when report 1 is stored
and not yet used. -/
theorem resent_report_lifts_limit :
    (runFrom watchedStep (.init 0 true 1 0) resentReports).log =
        [.forwarded (reportOfPeer 0 1 0 true), .stored (reportOfPeer 0 1 0 true),
          .forwarded (reportOfPeer 2 1 2 false), .rejected (reportOfPeer 2 1 2 false),
          .forwarded (reportOfPeer 4 2 52 true)] ∧
      ¬(runFrom watchedStep (.init 0 true 1 0) resentReports).Limited := by
  have hlog : (runFrom watchedStep (.init 0 true 1 0) resentReports).log =
      [.forwarded (reportOfPeer 0 1 0 true), .stored (reportOfPeer 0 1 0 true),
        .forwarded (reportOfPeer 2 1 2 false), .rejected (reportOfPeer 2 1 2 false),
        .forwarded (reportOfPeer 4 2 52 true)] := by
    decide +kernel
  refine ⟨hlog, fun hlim => ?_⟩
  have hspace := hlim.spaced
  have hnear := hspace [_, _, _, _] _ (prefix_refl _) rfl _ mem_cons_self rfl rfl
  exact absurd hnear (by decide)

end MediasoupCpp
