import MediasoupCpp.Signaling.Connections

/-!
# The log of the reports

A client reports what it receives.  The loop forwards a report to the worker, which stores it in
its registry or rejects it, and a planning pass uses the report that the registry has.

Main result: `WatchedServer.downlinkClientStats_cases`.

Source: `src/SignalingServerWs.cpp`, `src/RoomServiceDownlink.cpp`,
`src/qos/DownlinkQosRegistry.cpp`.
-/

namespace MediasoupCpp

open Runs

/-! ### Reports and what becomes of them -/

structure Report where
  number : ℕ
  ws : ℕ
  sender : SessionRef
  seq : ℕ
  nowMs : ℤ
  advancing : Bool
  deriving DecidableEq

def Report.mapKey (report : Report) : String := report.sender.mapKey

inductive ReportRecord
  | forwarded (report : Report)
  | stored (report : Report)
  | rejected (report : Report)
  /-- The worker does not get to the registry. -/
  | failed (report : Report)
  | applied (report : Report)
  deriving DecidableEq

def ReportRecord.advancing? (key : String) : ReportRecord → Option Report
  | .forwarded report => if report.advancing ∧ report.mapKey = key then some report else none
  | _ => none

def ReportRecord.stored? (roomId peerId : String) : ReportRecord → Option Report
  | .stored report =>
    if report.sender.roomId = roomId ∧ report.sender.peerId = peerId then some report else none
  | _ => none

def Resolved (log : List ReportRecord) (report : Report) : Prop :=
  .rejected report ∈ log ∨ .applied report ∈ log

instance Resolved.decidable : DecidableRel Resolved := fun log report =>
  inferInstanceAs (Decidable (ReportRecord.rejected report ∈ log ∨ .applied report ∈ log))

theorem Resolved.mono {log log' : List ReportRecord} {report : Report} (hsub : log ⊆ log')
    (h : Resolved log report) : Resolved log' report :=
  h.imp (fun h => hsub h) fun h => hsub h

def RoomWorker.outcome (w : RoomWorker) (env : TaskEnv) (sender : SessionRef)
    (snapshot : DownlinkSnapshot) : Report → ReportRecord :=
  if w.roomService then
    match w.setDownlinkClientStats sender snapshot env.nowMs with
    | .error _ => .failed
    | .rejected _ => .rejected
    | .stored _ => .stored
  else .failed

def RoomWorker.downlinkEntry (w : RoomWorker) (roomId peerId : String) : Option DownlinkEntry :=
  (w.downlinkQosRegistry.lookup roomId).bind (·.lookup peerId)

structure WatchedServer where
  server : SessionServer
  nowMs : ℤ
  waiting : List Report := []
  log : List ReportRecord := []

namespace WatchedServer

variable (o : WatchedServer)

def init (random : ℕ) (roomService : Bool) (workerCount : ℕ) (nowMs : ℤ) : WatchedServer where
  server := .init random roomService workerCount
  nowMs := nowMs

def lastAdvancing (key : String) : Option Report :=
  (o.log.filterMap (ReportRecord.advancing? key)).getLast?

def lastStored (roomId peerId : String) : Option Report :=
  (o.log.filterMap (ReportRecord.stored? roomId peerId)).getLast?

def newReport (ws : ℕ) (snapshot : DownlinkSnapshot) : Report :=
  let sender := (o.server.sockets ws).sender
  let state := (o.server.downlinkStatsRateLimit.lookup sender.mapKey).getD {}
  { number := o.log.length
    ws := ws
    sender := sender
    seq := snapshot.seq
    nowMs := o.nowMs
    advancing := state.isAdvancingDownlinkSeq snapshot.seq }

def downlinkClientStats (ws : ℕ) (data : Except String DownlinkSnapshot) : WatchedServer :=
  let server := o.server.downlinkClientStats ws data o.nowMs
  match data with
  | .error _ => { o with server := server }
  | .ok snapshot =>
    if o.server.worker.tasks.length < server.worker.tasks.length then
      let report := o.newReport ws snapshot
      { o with
        server := server
        waiting := o.waiting ++ [report]
        log := o.log ++ [.forwarded report] }
    else { o with server := server }

def runTask (env : TaskEnv) : WatchedServer :=
  let server := o.server.runTask env
  match o.server.worker.tasks.head? with
  | some (.downlinkClientStats _ sender snapshot) =>
    { o with
      server := server
      waiting := o.waiting.tail
      log := o.log ++
        o.waiting.head?.toList.map (o.server.worker.outcome env sender snapshot) }
  | _ => { o with server := server }

def planned (roomId peerId : String) : WatchedServer :=
  match o.server.worker.downlinkEntry roomId peerId with
  | none => o
  | some entry =>
    { o with
      server := sessionStep o.server (.snapshotApplied roomId peerId entry.snapshot.seq)
      log := o.log ++ (o.lastStored roomId peerId).toList.map .applied }

end WatchedServer

def SessionEvent.reports : SessionEvent → Bool
  | .downlinkClientStats .. => true
  | _ => false

/-- One step of a server with a clock, after some time.  The time of a report is that of the
clock, and the number of a report that a planning pass uses is that of the registry. -/
def watchedStep (o : WatchedServer) (e : ℕ × SessionEvent) : WatchedServer :=
  let o := { o with nowMs := o.nowMs + e.1 }
  match e.2 with
  | .downlinkClientStats ws data _ => o.downlinkClientStats ws data
  | .runTask env => o.runTask env
  | .snapshotApplied roomId peerId _ => o.planned roomId peerId
  | e => { o with server := sessionStep o.server e }

theorem RoomWorker.outcome_ne_forwarded (w : RoomWorker) {env : TaskEnv} {sender : SessionRef}
    {snapshot : DownlinkSnapshot} {report report' : Report} :
    w.outcome env sender snapshot report ≠ .forwarded report' := by
  unfold outcome
  split
  · cases w.setDownlinkClientStats sender snapshot env.nowMs <;> exact fun h => (by cases h)
  · exact fun h => (by cases h)

namespace WatchedServer

theorem downlinkClientStats_cases (o : WatchedServer) (ws : ℕ)
    (data : Except String DownlinkSnapshot) : o.downlinkClientStats ws data = o ∨
      (∃ answer, o.downlinkClientStats ws data = { o with server := o.server.send ws answer }) ∨
      ∃ snapshot, let sender := (o.server.sockets ws).sender
        let state := (o.server.downlinkStatsRateLimit.lookup sender.mapKey).getD {}
        data = .ok snapshot ∧ (o.server.sockets ws).alive ∧ o.server.hasMappedSession ws ∧
          ((o.newReport ws snapshot).advancing → state.pending →
            100 < o.nowMs - state.pendingSinceMs) ∧ o.downlinkClientStats ws data =
            { o with
              server := { o.server with
                downlinkStatsRateLimit := o.server.downlinkStatsRateLimit.insert sender.mapKey
                  (state.forward snapshot.seq o.nowMs) }.post
                    (.downlinkClientStats ws sender snapshot)
              waiting := o.waiting ++ [o.newReport ws snapshot]
              log := o.log ++ [.forwarded (o.newReport ws snapshot)] } := by
  have hans : (o.server.downlinkClientStats ws data o.nowMs).worker.tasks =
      o.server.worker.tasks → o.downlinkClientStats ws data =
        { o with server := o.server.downlinkClientStats ws data o.nowMs } := by
    intro htsk
    unfold downlinkClientStats
    cases data with
    | error message => rfl
    | ok snapshot =>
      dsimp only
      rw [htsk, if_neg (Nat.lt_irrefl _)]
  obtain heq | ⟨answer, heq⟩ | ⟨snapshot, rfl, halive, hmap, hlim, heq⟩ :=
    o.server.downlinkClientStats_cases ws data o.nowMs
  · have ho := hans (by rw [heq])
    rw [heq] at ho
    exact .inl ho
  · have ho := hans (by rw [heq]; rfl)
    rw [heq] at ho
    exact .inr (.inl ⟨answer, ho⟩)
  refine .inr (.inr ⟨snapshot, rfl, halive, hmap, hlim, ?_⟩)
  unfold downlinkClientStats
  dsimp only
  rw [heq, if_pos]
  · rfl
  dsimp only [SessionServer.post]
  rw [List.length_append]
  exact Nat.lt_succ_self _

end WatchedServer

def SessionCallback.clears? : SessionCallback → Option (String × ℕ)
  | .downlinkStats _ mapKey seq false _ => some (mapKey, seq)
  | .downlinkSnapshotApplied mapKey seq => some (mapKey, seq)
  | _ => none

end MediasoupCpp
