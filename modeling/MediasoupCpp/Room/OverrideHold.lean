import MediasoupCpp.Room.OverridePosts

/-!
# Which overrides a client holds

A client is watched together with the service: what the service sends to its peer reaches the
overrides of one of its tracks at once and in order.  Time passes between the events, so that
every instant is the time of some state.

Main results: `Watch.automatic_override_held`, `Watch.room_pressure_held_iff`.

Source: `src/RoomServiceQos.cpp`, `src/RoomServiceLifecycle.cpp`, `src/RoomStatsQosHelpers.h`,
`src/client/lib/qos/controller.js`.
-/

namespace MediasoupCpp

open Runs Option RoomService Bool

/-! ### A client and the service -/

def ServiceEvent.nowMs? : ServiceEvent → Option ℤ
  | .call (.setClientStats _ _ _ nowMs) => some nowMs
  | .call (.setDownlinkClientStats _ _ _ nowMs) => some nowMs
  | .call _ => none
  | .runTask _ nowMs => some nowMs
  | .next nowMs => some nowMs
  | .pass nowMs _ => some nowMs

structure Watch where
  service : RoomService := {}
  active : ActiveOverrides := ∅
  nowMs : ℤ

inductive WatchEvent
  | service (e : ServiceEvent)
  | tick (nowMs : ℤ)
  | start

def WatchEvent.joins (p : WatchedPeer) : WatchEvent → Bool
  | .service (.call (.join call)) => p.roomId = call.roomId && p.peerId = call.peerId
  | _ => false

namespace Watch

variable (cfg : ServiceConfig) (p : WatchedPeer) (w : Watch)

def time : WatchEvent → ℤ
  | .service e => e.nowMs?.getD w.nowMs
  | .tick nowMs => nowMs
  | .start => w.nowMs

def step (e : WatchEvent) : Watch :=
  match e with
  | .service e' =>
    let service := w.service.step cfg e'
    { service := service
      nowMs := w.time e
      active := RoomService.deliver p (w.time e)
        ((service.overridesFor p).drop (w.service.overridesFor p).length) w.active }
  | .tick nowMs => { w with nowMs := nowMs }
  | .start => { w with active := ∅ }

abbrev reach (nowMs : ℤ) (es : List WatchEvent) : Watch :=
  runFrom (step cfg p) { nowMs := nowMs } es

def ledger : Ledger := w.service.ledger p w.nowMs w.active

def orderly : WatchEvent → Bool
  | .service (.call (.setQosOverride roomId _ targetPeerId _)) =>
    !(roomId = p.roomId.val && targetPeerId = p.peerId.val)
  | .service (.call (.leave roomId peerId)) => isValidJoinId roomId && isValidJoinId peerId
  | .start => ((w.ledger p).record .automatic).isNone && ((w.ledger p).record .roomPressure).isNone
  | _ => true

def Undisturbed (e : WatchEvent) : Prop := w.nowMs ≤ w.time e ∧ w.orderly p e = true

instance instDecidableUndisturbed (e : WatchEvent) : Decidable (w.Undisturbed p e) :=
  inferInstanceAs (Decidable (_ ∧ _))

def taken : WatchEvent → Option (String × String)
  | .service (.call (.setClientStats roomId peerId stats nowMs)) =>
    if w.service.planner.running = none ∧
        (w.service.setClientStats cfg roomId peerId stats nowMs).1 = .stored then
      some (roomId, peerId)
    else none
  | _ => none

/-! ### Events of the service are events of the ledger -/

structure Describes (e : WatchEvent) (le : LedgerEvent) : Prop where
  legal : le.Legal (w.ledger p) (w.time e)
  ledger : (w.step cfg p e).ledger p = (w.ledger p).step p.trackId (w.time e) le
  /-- What the room asks for is what its reports say. -/
  room : ∀ own roomAutomatic due, le = .stats own roomAutomatic due →
    roomAutomatic = (w.step cfg p e).service.roomAutomatic p.roomId (w.time e)
  /-- A report of the room is one for the peers that are in the room. -/
  stats : ∀ peerId, w.taken cfg e = some (p.roomId.val, peerId) →
    (w.step cfg p e).service.HasPeer p.roomId p.peerId → le.IsStats
  own : w.taken cfg e = some (p.roomId.val, p.peerId.val) →
    ∃ entry roomAutomatic due, le = .stats (some entry) roomAutomatic due
  /-- Peers are forgotten that go, or come again. -/
  forget : le = .forget → ¬(w.step cfg p e).service.HasPeer p.roomId p.peerId ∨ e.joins p = true

variable {cfg p w} {e : ServiceEvent}

theorem drop_overridesFor {s s' : RoomService} {overrides : List Json}
    (h : s'.overridesFor p = s.overridesFor p ++ overrides) :
    (s'.overridesFor p).drop (s.overridesFor p).length = overrides := by
  rw [h, List.drop_left]

theorem nowMs_step (e : WatchEvent) : (w.step cfg p e).nowMs = w.time e := by
  cases e <;> rfl

theorem describes_of_not_taken {e : WatchEvent} {le : LedgerEvent} (htook : w.taken cfg e = none)
    (hsts : ¬le.IsStats) (hleg : le.Legal (w.ledger p) (w.time e))
    (hledg : (w.step cfg p e).ledger p = (w.ledger p).step p.trackId (w.time e) le)
    (hforg : le = .forget → ¬(w.step cfg p e).service.HasPeer p.roomId p.peerId ∨ e.joins p) :
    w.Describes cfg p e le where
  legal := hleg
  ledger := hledg
  room _ _ _ hle := absurd (hle ▸ trivial) hsts
  stats _ htook' := absurd (htook.symm.trans htook') (some_ne_none _).symm
  own htook' := absurd (htook.symm.trans htook') (some_ne_none _).symm
  forget := hforg

theorem foldl_tell (overrides : List Json) (l : Ledger) :
    overrides.foldl (Ledger.tell p.trackId) l =
      { l with active := RoomService.deliver p l.nowMs overrides l.active } := by
  induction overrides generalizing l with
  | nil => rfl
  | cons data overrides ih => exact ih (l.tell p.trackId data)

theorem describes_of_quiet (hqt : RoomService.Quiet p w.service (w.service.step cfg e))
    (htook : w.taken cfg (.service e) = none) : ∃ le, w.Describes cfg p (.service e) le := by
  obtain ⟨overrides, htold, hall⟩ := hqt.told
  refine ⟨.quiet overrides, describes_of_not_taken htook not_false hall ?_ nofun⟩
  rw [Ledger.step, foldl_tell, step, drop_overridesFor htold]
  ext1
  · rfl
  · exact congrArg (getEntry · p.roomId.val p.peerId.val) hqt.qosRegistry
  · funext slot
    exact congrArg (AList.lookup (slot.key p.roomId p.peerId)) hqt.records
  · rfl

theorem describes_of_forgets {reason : Prop}
    (hforg : RoomService.Forgets p w.service (w.service.step cfg e) reason)
    (hwhy : reason → ¬(w.step cfg p (.service e)).service.HasPeer p.roomId p.peerId ∨
      WatchEvent.joins p (.service e))
    (htook : w.taken cfg (.service e) = none) : ∃ le, w.Describes cfg p (.service e) le := by
  have htold : (w.service.step cfg e).overridesFor p = w.service.overridesFor p ++ [] := by
    rw [overridesFor, hforg.sent, List.append_nil, overridesFor]
  have hledg : (w.step cfg p (.service e)).ledger p =
      (w.service.step cfg e).ledger p (w.time (.service e)) w.active := by
    rw [step, drop_overridesFor htold]
    rfl
  rcases hforg.ledger with hsame | ⟨hgone, hnone⟩
  · refine ⟨.quiet [], describes_of_not_taken htook not_false
      (fun _ h => absurd h List.not_mem_nil) ?_ (fun h => LedgerEvent.noConfusion h)⟩
    rw [hledg, hsame]
    rfl
  · refine ⟨.forget, describes_of_not_taken htook not_false trivial ?_ fun _ => hwhy hgone⟩
    rw [hledg, hnone]
    rfl

theorem describes_setClientStats (hntf : cfg.notify) (hcast : cfg.broadcast)
    (h : w.service.Inv) (hrun : w.service.planner.running = none) (roomId peerId : String)
    (stats : ClientReport) (nowMs : ℤ) :
    ∃ le, w.Describes cfg p (.service (.call (.setClientStats roomId peerId stats nowMs))) le := by
  let e : ServiceEvent := .call (.setClientStats roomId peerId stats nowMs)
  have hstep : w.service.step cfg e = (w.service.setClientStats cfg roomId peerId stats nowMs).2 :=
    if_pos hrun
  by_cases hstor : (w.service.setClientStats cfg roomId peerId stats nowMs).1 = .stored
  · have htook : w.taken cfg (.service e) = some (roomId, peerId) := if_pos ⟨hrun, hstor⟩
    obtain ⟨hpeer, hrms, due, overrides, htold, hledg⟩ :=
      @RoomService.ledger_setClientStats cfg _ _ p nowMs hntf hcast h roomId peerId stats
        hstor hstep
    have haft : (w.step cfg p (.service e)).ledger p = (w.service.step cfg e).ledger p nowMs
        (deliver p nowMs overrides w.active) := by
      rw [step, drop_overridesFor htold]
      rfl
    rw [hledg] at haft
    have hhas : (w.step cfg p (.service e)).service.HasPeer p.roomId p.peerId ↔
        w.service.HasPeer p.roomId p.peerId :=
      iff_of_eq (congrArg (fun rooms => (getEntry rooms _ _).isSome = true) hrms)
    have hnm : ∀ {name}, w.taken cfg (.service e) = some name → (roomId, peerId) = name :=
      fun h' => some.inj (htook.symm.trans h')
    by_cases hin : roomId = p.roomId.val ∧ w.service.HasPeer p.roomId p.peerId
    · rw [if_pos hin] at haft
      refine ⟨.stats (p.ownReport roomId peerId ⟨stats, nowMs⟩)
        ((w.service.step cfg e).roomAutomatic p.roomId nowMs) due, ?_, haft, ?_,
        fun _ _ _ => trivial, ?_, fun h' => nomatch h'⟩
      · refine ⟨?_, fun automatic h' => buildForRoomAggregate_eq_some h'⟩
        intro entry hent
        obtain ⟨-, hsome⟩ := ite_none_right_eq_some.mp hent
        rw [← some.inj hsome]
        rfl
      · intro own roomAutomatic due' hle
        obtain ⟨-, rfl, -⟩ := LedgerEvent.stats.inj hle
        rfl
      · intro h'
        obtain ⟨rfl, rfl⟩ := Prod.mk.inj (hnm h')
        exact ⟨⟨stats, nowMs⟩, _, due, congrArg (LedgerEvent.stats · _ _) (if_pos ⟨rfl, rfl⟩)⟩
    · rw [if_neg hin] at haft
      refine ⟨.elsewhere due, trivial, haft, (fun _ _ _ h' => nomatch h'), ?_, ?_, nofun⟩
      · intro _ h' hthere
        exact absurd ⟨congrArg Prod.fst (hnm h'), hhas.mp hthere⟩ hin
      intro h'
      obtain ⟨rfl, rfl⟩ := Prod.mk.inj (hnm h')
      exact absurd ⟨rfl, hpeer⟩ hin
  · refine describes_of_quiet ?_ (if_neg fun h => hstor h.2)
    obtain ⟨-, hsame⟩ | ⟨hrep, -⟩ :=
      setClientStats_cases cfg w.service roomId peerId stats nowMs
    · rw [hstep, hsame]
      exact .refl _
    · exact absurd hrep hstor

theorem quiet_or_forgets_handle (h : w.service.Inv) {c : ServiceCall}
    (hok : w.Undisturbed p (.service (.call c)))
    (hsts : ∀ roomId peerId stats nowMs, c ≠ .setClientStats roomId peerId stats nowMs) :
    RoomService.Quiet p w.service (w.service.handle cfg c) ∨
      RoomService.Forgets p w.service (w.service.handle cfg c)
        (¬(w.service.handle cfg c).HasPeer p.roomId p.peerId ∨
          WatchEvent.joins p (.service (.call c))) := by
  cases c with
  | join call =>
    refine .inr ((forgets_join call).imp fun hjoin => .inr ?_)
    exact and_eq_true_iff.mpr ⟨decide_eq_true hjoin.1, decide_eq_true hjoin.2⟩
  | leave roomId peerId =>
    obtain ⟨hroom, hname⟩ := and_eq_true_iff.mp hok.2
    exact .inr ((forgets_leave ⟨roomId, hroom⟩ ⟨peerId, hname⟩).imp .inl)
  | leaveIfSessionMatches roomId peerId expectedSessionId =>
    change _ ∨ RoomService.Forgets p w.service (w.service.leaveIfSessionMatches roomId peerId
      expectedSessionId) (¬(w.service.leaveIfSessionMatches roomId peerId
        expectedSessionId).HasPeer p.roomId p.peerId ∨ _)
    unfold leaveIfSessionMatches
    split
    next hmat =>
      -- whoever is there has a name that could join
      obtain ⟨-, hany⟩ := and_eq_true_iff.mp hmat
      obtain ⟨peer, hpeer, -⟩ := any_eq_true _ _ |>.mp hany
      obtain ⟨hroom, hname⟩ := h.named roomId peerId (isSome_iff_exists.mpr ⟨peer, hpeer⟩)
      exact .inr ((forgets_leave ⟨roomId, hroom⟩ ⟨peerId, hname⟩).imp .inl)
    · exact .inr (.refl _ _)
  | checkRoomHealth | cleanIdleRooms | closeAllRooms =>
    exact .inr ((forgets_destroyRooms _ _).imp .inl)
  | setClientStats roomId peerId stats nowMs => exact absurd rfl (hsts roomId peerId stats nowMs)
  | setQosOverride roomId callerPeerId targetPeerId overrideData =>
    have hoth : ¬(roomId = p.roomId.val ∧ targetPeerId = p.peerId.val) := by
      simpa [orderly, ← not_and_or] using hok.2
    exact .inl (quiet_setQosOverride hoth callerPeerId overrideData)
  | _ => exact .inl (.of_tends (tends_handle rfl))

theorem describes_handle (h : w.service.Inv) (hrun : w.service.planner.running = none)
    {c : ServiceCall} (hok : w.Undisturbed p (.service (.call c)))
    (hsts : ∀ roomId peerId stats nowMs, c ≠ .setClientStats roomId peerId stats nowMs) :
    ∃ le, w.Describes cfg p (.service (.call c)) le := by
  have hstep : w.service.step cfg (.call c) = w.service.handle cfg c := if_pos hrun
  have htook : w.taken cfg (.service (.call c)) = none := by
    cases c with
    | setClientStats roomId peerId stats nowMs =>
      exact absurd rfl (hsts roomId peerId stats nowMs)
    | _ => rfl
  obtain hqt | hforg := @quiet_or_forgets_handle cfg p w h c hok hsts
  · rw [← hstep] at hqt
    exact describes_of_quiet hqt htook
  · rw [← hstep] at hforg
    exact describes_of_forgets hforg id htook

theorem exists_describes (hntf : cfg.notify) (hcast : cfg.broadcast)
    (h : w.service.Inv) {e : WatchEvent} (hok : w.Undisturbed p e) :
    ∃ le, w.Describes cfg p e le := by
  cases e with
  | tick nowMs =>
    exact ⟨.quiet [], describes_of_not_taken rfl not_false (fun _ h' => nomatch h') rfl nofun⟩
  | start =>
    refine ⟨.start, describes_of_not_taken rfl not_false ?_ rfl nofun⟩
    obtain ⟨hauto, hpres⟩ := and_eq_true_iff.mp hok.2
    rintro (_ | _)
    · exact isNone_iff_eq_none.mp hauto
    · exact isNone_iff_eq_none.mp hpres
  | service e =>
    cases e with
    | runTask | next => exact describes_of_quiet (.of_sent rfl rfl rfl) rfl
    | pass nowMs done => exact describes_of_quiet (quiet_pass nowMs done) rfl
    | call c =>
      by_cases hrun : w.service.planner.running = none
      · by_cases hsts : ∃ roomId peerId stats nowMs, c = .setClientStats roomId peerId stats nowMs
        · obtain ⟨roomId, peerId, stats, nowMs, rfl⟩ := hsts
          exact describes_setClientStats hntf hcast h hrun roomId peerId stats nowMs
        · exact describes_handle h hrun hok
            fun roomId peerId stats nowMs hc => hsts ⟨roomId, peerId, stats, nowMs, hc⟩
      · have hsame : w.service.step cfg (.call c) = w.service := if_neg hrun
        refine describes_of_quiet (by rw [hsame]; exact .refl _) ?_
        cases c with
        | setClientStats roomId peerId stats nowMs => exact if_neg fun h' => hrun h'.1
        | _ => rfl

/-! ### The invariant -/

structure Inv (p : WatchedPeer) (w : Watch) : Prop where
  service : w.service.Inv
  ledger : (w.ledger p).Inv

theorem Inv.init (p : WatchedPeer) (nowMs : ℤ) : Inv p { nowMs := nowMs } where
  service := RoomService.Inv.init
  ledger := Ledger.Inv.init nowMs

theorem Inv.step (hntf : cfg.notify) (hcast : cfg.broadcast) (h : w.Inv p)
    {e : WatchEvent} (hok : w.Undisturbed p e) : (w.step cfg p e).Inv p where
  service := by
    cases e with
    | service e => exact h.service.step e
    | tick | start => exact h.service
  ledger := by
    obtain ⟨_, hle⟩ := exists_describes hntf hcast h.service hok
    rw [hle.ledger]
    exact h.ledger.step hok.1 hle.legal

theorem Inv.reach (hntf : cfg.notify) (hcast : cfg.broadcast) {nowMs : ℤ}
    {es : List WatchEvent}
    (hes : StepsMeet (Watch.step cfg p) (Undisturbed p) { nowMs := nowMs } es) :
    (Watch.reach cfg p nowMs es).Inv p :=
  StepsMeet.inv (Inv p) (fun _ _ h hok => h.step hntf hcast hok) es _ hes (.init p nowMs)

/-! ### A peer that stays in trouble -/

def lastReport (p : WatchedPeer) (w : Watch) : Option ReportEntry :=
  getEntry w.service.qosRegistry p.roomId p.peerId

def quality (p : WatchedPeer) (w : Watch) : Option PeerQuality :=
  (QosAggregator.aggregate (w.lastReport p) w.nowMs).quality

def Continues (cfg : ServiceConfig) (p : WatchedPeer) (level : DegradedLevel) (w : Watch)
    (e : WatchEvent) : Prop :=
  w.Undisturbed p e ∧
    (∀ entry ∈ w.lastReport p, w.time e < entry.receivedAtMs + level.halfTtlMs) ∧
    (w.step cfg p e).quality p = some level.quality

instance instDecidableContinues (cfg : ServiceConfig) (p : WatchedPeer) (level : DegradedLevel)
    (w : Watch) (e : WatchEvent) : Decidable (w.Continues cfg p level e) :=
  inferInstanceAs (Decidable (_ ∧ _ ∧ _))

def Holds (w : Watch) (o : QosOverride) : Prop := w.active.Holds w.nowMs o

instance instDecidableHolds (w : Watch) (o : QosOverride) : Decidable (w.Holds o) :=
  inferInstanceAs (Decidable (w.active.Holds w.nowMs o))

variable {level : DegradedLevel}

theorem Inv.holds_of_recent (h : w.Inv p) (hqual : w.quality p = some level.quality)
    (hrec : ∀ entry ∈ w.lastReport p, w.nowMs < entry.receivedAtMs + level.halfTtlMs) :
    w.Holds level.automatic := by
  cases hent : w.lastReport p with
  | none =>
    rw [quality, hent] at hqual
    cases hqual
  | some entry =>
    have hnow := hrec entry hent
    have hlost := level.halfTtlMs_spec.2.2.2
    rw [quality, hent, quality_aggregate (by omega)] at hqual
    exact h.ledger.holds hent (some.inj hqual) hnow

theorem Inv.holds_of_taken (hntf : cfg.notify) (hcast : cfg.broadcast)
    (h : w.Inv p) {e : WatchEvent} (hok : w.Undisturbed p e)
    (htook : w.taken cfg e = some (p.roomId.val, p.peerId.val))
    (hqual : (w.step cfg p e).quality p = some level.quality) :
    (w.step cfg p e).Holds level.automatic := by
  refine (h.step hntf hcast hok).holds_of_recent hqual fun entry hent => ?_
  obtain ⟨_, hle⟩ := exists_describes hntf hcast h.service hok
  obtain ⟨own, _, _, rfl⟩ := hle.own htook
  have hrep : some own = some entry := by
    refine Eq.trans ?_ hent
    change _ = ((w.step cfg p e).ledger p).report
    rw [hle.ledger, Ledger.report_stats]
    rfl
  have hrec := hle.legal.1 entry hrep
  have hhalf := level.halfTtlMs_spec.2.1
  rw [nowMs_step]
  omega

theorem Inv.holds_of_continues (hntf : cfg.notify) (hcast : cfg.broadcast)
    (h : w.Inv p) {e : WatchEvent} (hcont : w.Continues cfg p level e) :
    (w.step cfg p e).Holds level.automatic := by
  obtain ⟨hok, hrec, hqual⟩ := hcont
  refine (h.step hntf hcast hok).holds_of_recent hqual fun entry hent => ?_
  obtain ⟨le, hle⟩ := exists_describes hntf hcast h.service hok
  have hrep : ((w.ledger p).step p.trackId (w.time e) le).report = some entry := by
    rw [← hle.ledger]
    exact hent
  rw [nowMs_step]
  -- the report is the one from before, or has just come in
  obtain hold | _ := Ledger.report_step hle.legal hrep
  · exact hrec entry hold
  · have hhalf := level.halfTtlMs_spec.2.1
    omega

/-- **A client in trouble holds its override all along a run of reports.**  After any history
without manual overrides, the peer reports a quality for which there is an override, and goes on
reporting the same within half the time to live of that override, whatever else happens.  Then the
client holds it at every instant from the first of these reports on. -/
theorem automatic_override_held {cfg : ServiceConfig} (hnotify : cfg.notify = true)
    (hbroadcast : cfg.broadcast = true) {p : WatchedPeer} {level : DegradedLevel} {nowMs : ℤ}
    {history rest : List WatchEvent} {first : WatchEvent}
    (hhistory : StepsMeet (step cfg p) (Undisturbed p) { nowMs := nowMs } (history ++ [first]))
    (hfirst : (reach cfg p nowMs history).taken cfg first = some (p.roomId.val, p.peerId.val))
    (hlevel : (reach cfg p nowMs (history ++ [first])).quality p = some level.quality)
    (hrest : StepsMeet (step cfg p) (Continues cfg p level) (reach cfg p nowMs (history ++ [first]))
      rest) (n : ℕ) :
    (reach cfg p nowMs (history ++ [first] ++ rest.take n)).Holds level.automatic := by
  obtain ⟨hbef, hok⟩ := hhistory.last
  have hinv := Inv.reach hnotify hbroadcast hbef
  have hst : (reach cfg p nowMs (history ++ [first])).Inv p ∧
      (reach cfg p nowMs (history ++ [first])).Holds level.automatic := by
    rw [reach, runFrom_concat] at hlevel ⊢
    exact ⟨hinv.step hnotify hbroadcast hok,
      hinv.holds_of_taken hnotify hbroadcast hok hfirst hlevel⟩
  rw [reach, runFrom_append]
  exact (StepsMeet.inv (fun w => w.Inv p ∧ w.Holds level.automatic)
    (fun w e h hcont => ⟨h.1.step hnotify hbroadcast hcont.1,
      h.1.holds_of_continues hnotify hbroadcast hcont⟩) _ _ (hrest.take n) hst).2

theorem isValidJoinId_room : isValidJoinId "room" := by decide

theorem isValidJoinId_alice : isValidJoinId "alice" := by decide

def aliceCamera : WatchedPeer where
  roomId := ⟨"room", isValidJoinId_room⟩
  peerId := ⟨"alice", isValidJoinId_alice⟩
  trackId := "camera"

def bothJoin : List WatchEvent :=
  [.service (.call (.join { roomId := aliceCamera.roomId, peerId := aliceCamera.peerId })),
    .service (.call (.join { roomId := aliceCamera.roomId, peerId := ⟨"bob", by decide⟩ }))]

def reportAt (peerId : String) (peerQuality : PeerQuality) (seq : ℕ) (nowMs : ℤ) : WatchEvent :=
  .service (.call (.setClientStats "room" peerId
    { seq := seq, tracks := [], peerQuality := peerQuality } nowMs))

def twoPeers : ServiceConfig := { allocator := roughAllocator }

def aliceStaysPoor : List WatchEvent :=
  [reportAt "bob" .lost 1 2000, .tick 4000, reportAt "alice" .poor 2 4900, .tick 9800]

theorem automatic_override_held_alice :
    StepsMeet (step twoPeers aliceCamera) (Continues twoPeers aliceCamera .poor)
        (reach twoPeers aliceCamera 0 (bothJoin ++ [reportAt "alice" .poor 1 0])) aliceStaysPoor ∧
      ∀ n, (reach twoPeers aliceCamera 0 (bothJoin ++ [reportAt "alice" .poor 1 0] ++
        aliceStaysPoor.take n)).Holds DegradedLevel.poor.automatic :=
  ⟨by decide +kernel, automatic_override_held rfl rfl (by decide +kernel) (by decide +kernel)
    (by decide +kernel) (by decide +kernel)⟩

/-! ### A room that stays under pressure -/

def UnderPressure (p : WatchedPeer) (w : Watch) : Prop :=
  (w.service.roomAutomatic p.roomId w.nowMs).isSome = true

def Spared (p : WatchedPeer) (w : Watch) : Prop :=
  w.service.HasPeer p.roomId p.peerId ∧ (w.ledger p).degraded = false

def Presses (cfg : ServiceConfig) (p : WatchedPeer) (w : Watch) (e : WatchEvent) : Prop :=
  w.Undisturbed p e ∧ e.joins p = false ∧ (w.step cfg p e).UnderPressure p ∧
    (w.step cfg p e).Spared p

instance instDecidablePresses (cfg : ServiceConfig) (p : WatchedPeer) (w : Watch)
    (e : WatchEvent) : Decidable (w.Presses cfg p e) :=
  inferInstanceAs (Decidable (_ ∧ _ ∧ (_ = true) ∧ _ ∧ _))

def pressureRecord (p : WatchedPeer) (w : Watch) : Option AutoQosOverrideRecord :=
  w.service.autoQosOverrideRecords.lookup (makeRoomPressureKey p.roomId p.peerId)

variable {record : AutoQosOverrideRecord} {e : WatchEvent}

theorem Describes.presses {le : LedgerEvent} (h : w.Describes cfg p e le)
    (hpress : w.Presses cfg p e) : le.Presses := by
  cases le with
  | forget =>
    obtain hgone | hjoin := h.forget rfl
    · exact absurd hpress.2.2.2.1 hgone
    · exact absurd hjoin (eq_false_iff.mp hpress.2.1)
  | stats own roomAutomatic due =>
    obtain ⟨automatic, hauto⟩ := isSome_iff_exists.mp hpress.2.2.1
    rw [nowMs_step, ← h.room own roomAutomatic due rfl] at hauto
    obtain rfl := h.legal.2 automatic hauto
    exact hauto
  | quiet | start | elsewhere => trivial

theorem Inv.exists_pressureRecord (hntf : cfg.notify) (hcast : cfg.broadcast)
    (h : w.Inv p) (hpress : w.Presses cfg p e)
    (hrec : (∃ peerId, w.taken cfg e = some (p.roomId.val, peerId)) ∨ (w.pressureRecord p).isSome) :
    ∃ record, (∀ old, w.pressureRecord p = some old → record = old) ∧
      ((w.step cfg p e).Holds roomPressureOverride ↔
        w.time e < record.sentAtMs + roomPressureOverride.ttlMs) ∧
      (w.time e < record.sentAtMs + roomPressureOverride.ttlMs →
        (w.step cfg p e).pressureRecord p = some record) ∧
      ∀ kept, (w.step cfg p e).pressureRecord p = some kept → kept = record := by
  obtain ⟨le, hle⟩ := exists_describes hntf hcast h.service hpress.1
  have hspar : ((w.ledger p).step p.trackId (w.time e) le).degraded = false := by
    rw [← hle.ledger]
    exact hpress.2.2.2.2
  have hrec' : le.IsStats ∨ ((w.ledger p).record .roomPressure).isSome := by
    refine hrec.imp_left ?_
    rintro ⟨peerId, htook⟩
    exact hle.stats peerId htook hpress.2.2.2.1
  obtain ⟨_, due, record, hstep, hinv, hnow, hthere, hold⟩ :=
    h.ledger.exists_record hpress.1.1 hle.legal (hle.presses hpress) hspar hrec'
  obtain ⟨hhold, hkept, hsame⟩ := hinv.cleanup_roomPressure hthere due
  rw [← hstep, ← hle.ledger] at hhold hkept hsame
  rw [hnow] at hhold hkept
  refine ⟨record, hold, ?_, hkept, hsame⟩
  rw [← hhold, Holds, nowMs_step]
  rfl

theorem nowMs_le_runFrom {es : List WatchEvent}
    (hes : StepsMeet (step cfg p) (Undisturbed p) w es) :
    w.nowMs ≤ (runFrom (step cfg p) w es).nowMs := by
  refine StepsMeet.inv (fun w' => w.nowMs ≤ w'.nowMs) (fun w' e h hok => ?_) es w hes le_rfl
  rw [nowMs_step]
  exact h.trans hok.1

theorem Inv.holds_iff_of_presses (hntf : cfg.notify) (hcast : cfg.broadcast)
    {rest : List WatchEvent} (h : w.Inv p) (hrec : w.pressureRecord p = some record)
    (hhold : w.Holds roomPressureOverride)
    (hlive : w.nowMs < record.sentAtMs + roomPressureOverride.ttlMs)
    (hrest : StepsMeet (Watch.step cfg p) (Presses cfg p) w rest) :
    (∀ n, (runFrom (Watch.step cfg p) w (rest.take n)).Holds roomPressureOverride) ↔
      (runFrom (Watch.step cfg p) w rest).nowMs < record.sentAtMs + roomPressureOverride.ttlMs := by
  induction rest generalizing w with
  | nil => exact ⟨fun _ => hlive, fun _ n => by rwa [List.take_nil]⟩
  | cons e rest ih =>
    obtain ⟨hpress, hrest⟩ := hrest
    obtain ⟨record', hold, hstep, hkept, -⟩ := h.exists_pressureRecord hntf hcast hpress
      (.inr (isSome_iff_exists.mpr ⟨record, hrec⟩))
    obtain rfl := hold record hrec
    by_cases hnext : w.time e < record'.sentAtMs + roomPressureOverride.ttlMs
    · have hrun := ih (h.step hntf hcast hpress.1) (hkept hnext) (hstep.mpr hnext)
        (by rwa [nowMs_step]) hrest
      rw [runFrom_cons, ← hrun]
      constructor
      · intro hall n
        exact hall (n + 1)
      rintro hall (_ | n)
      · exact hhold
      · exact hall n
    · -- it has run out, and time does not go back
      constructor
      · intro hall
        exact absurd (hstep.mp (hall 1)) hnext
      intro hend
      have hmono := nowMs_le_runFrom (hrest.mono fun _ _ h' => h'.1)
      rw [nowMs_step] at hmono
      exact absurd (lt_of_le_of_lt hmono hend) hnext

def bobStaysLost : List WatchEvent :=
  [reportAt "bob" .lost 2 3000, reportAt "bob" .lost 3 6000, .tick 8000,
    reportAt "bob" .lost 4 9000]

/-- The override for the others runs out after eight seconds, before the room is looked at again,
and is not sent again then. -/
theorem room_pressure_lapses :
    roomPressureOverride.ttlMs = 8000 ∧
      StepsMeet (step twoPeers aliceCamera) (Undisturbed aliceCamera) { nowMs := 0 } bothJoin ∧
      (reach twoPeers aliceCamera 0 bothJoin).taken twoPeers (reportAt "bob" .lost 1 0) =
        some ("room", "bob") ∧
      StepsMeet (step twoPeers aliceCamera) (Presses twoPeers aliceCamera)
        (reach twoPeers aliceCamera 0 bothJoin) (reportAt "bob" .lost 1 0 :: bobStaysLost) ∧
      ¬(reach twoPeers aliceCamera 0 (bothJoin ++ [reportAt "bob" .lost 1 0] ++
        bobStaysLost.take 3)).Holds roomPressureOverride ∧
      ¬(reach twoPeers aliceCamera 0 (bothJoin ++ [reportAt "bob" .lost 1 0] ++
        bobStaysLost)).Holds roomPressureOverride := by
  decide +kernel

/-- **A client in a room under pressure holds the override for that until the first one runs out,
and no longer.**  After any history without manual overrides the room is under pressure when a
report in it is taken, and stays so, while the peer is in the room and not degraded itself. -/
theorem room_pressure_held_iff {cfg : ServiceConfig} (hnotify : cfg.notify = true)
    (hbroadcast : cfg.broadcast = true) {p : WatchedPeer} {nowMs : ℤ}
    {history rest : List WatchEvent} {first : WatchEvent}
    (hhistory : StepsMeet (step cfg p) (Undisturbed p) { nowMs := nowMs } history)
    (hfirst : ∃ peerId, (reach cfg p nowMs history).taken cfg first = some (p.roomId.val, peerId))
    (hpresses : StepsMeet (step cfg p) (Presses cfg p) (reach cfg p nowMs history)
      (first :: rest)) :
    (∀ n, (reach cfg p nowMs (history ++ [first] ++ rest.take n)).Holds roomPressureOverride) ↔
      ∃ record, (reach cfg p nowMs (history ++ [first])).pressureRecord p = some record ∧
        (reach cfg p nowMs (history ++ [first] ++ rest)).nowMs <
          record.sentAtMs + roomPressureOverride.ttlMs := by
  obtain ⟨hpress, hrest⟩ := hpresses
  have hinv := Inv.reach hnotify hbroadcast hhistory
  have hinv' := hinv.step hnotify hbroadcast hpress.1
  obtain ⟨record, -, hhold, hkept, hsame⟩ :=
    hinv.exists_pressureRecord hnotify hbroadcast hpress (.inl hfirst)
  simp only [reach, runFrom_append _ _ (rest.take _), runFrom_append _ _ rest, runFrom_concat]
  rw [← @nowMs_step cfg p] at hhold hkept
  constructor
  · intro hall
    have hlive := hhold.mp (hall 0)
    exact ⟨record, hkept hlive,
      (hinv'.holds_iff_of_presses hnotify hbroadcast (hkept hlive) (hall 0) hlive hrest).mp hall⟩
  rintro ⟨record', hrec, hend⟩
  obtain rfl := hsame record' hrec
  have hlive := lt_of_le_of_lt (nowMs_le_runFrom (hrest.mono fun _ _ h' => h'.1)) hend
  exact (hinv'.holds_iff_of_presses hnotify hbroadcast hrec (hhold.mpr hlive) hlive hrest).mpr
    hend

/-- The first six seconds of the run above. -/
theorem room_pressure_held_alice :
    StepsMeet (step twoPeers aliceCamera) (Presses twoPeers aliceCamera)
        (reach twoPeers aliceCamera 0 bothJoin)
        (reportAt "bob" .lost 1 0 :: bobStaysLost.take 2) ∧
      ∀ n, (reach twoPeers aliceCamera 0 (bothJoin ++ [reportAt "bob" .lost 1 0] ++
        (bobStaysLost.take 2).take n)).Holds roomPressureOverride :=
  ⟨by decide +kernel, (room_pressure_held_iff rfl rfl (by decide +kernel)
    ⟨"bob", by decide +kernel⟩ (by decide +kernel)).mpr
      ⟨⟨roomPressureOverride.raw, 0, roomPressureOverride.ttlMs⟩, rfl, by decide +kernel⟩⟩

end Watch

end MediasoupCpp
