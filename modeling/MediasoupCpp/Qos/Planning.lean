import Mathlib.Data.Finset.Basic
import MediasoupCpp.Lib.Dict
import MediasoupCpp.Lib.Run
import MediasoupCpp.Qos.DownlinkHealth

/-!
# Planning passes over the reports of a room

The subscribers of a room report at their own pace, and the server keeps the last report of each.
Now and then it makes a planning pass: every report that is not too old is fed to the health
monitor of its subscriber.

Main result: `fedOnce_iff`.

Source: `src/RoomDownlinkHelpers.h`, `src/RoomServiceDownlink.cpp`, `src/RoomServiceLifecycle.cpp`,
`src/qos/DownlinkQosRegistry.cpp`, `src/qos/QosTypes.h`.
-/

namespace MediasoupCpp

open List Runs AList Function

/-! ### The reports the server keeps -/

structure DownlinkEntry where
  snapshot : DownlinkSnapshot
  receivedAtMs : ℤ

abbrev DownlinkQosRegistry : Type := Dict String DownlinkEntry

def kDownlinkMaxSeq : ℕ := 9007199254740991

def isSeqWrapOrReset (prevSeq nextSeq : ℕ) : Bool :=
  (kDownlinkMaxSeq - 1000 ≤ prevSeq && nextSeq ≤ 1000) ||
    (nextSeq < prevSeq && 1000 < prevSeq - nextSeq)

def rejectReason (prev next : DownlinkSnapshot) : Option String :=
  if next.seq ≤ prev.seq ∧ !isSeqWrapOrReset prev.seq next.seq ∧ prev.seq - next.seq ≤ 1000 then
    some "stale-seq"
  else if 0 < next.tsMs ∧ 0 < prev.tsMs ∧ next.tsMs + 1000 < prev.tsMs then some "stale-ts"
  else none

def DownlinkQosRegistry.upsert (reg : DownlinkQosRegistry) (peerId : String)
    (snapshot : DownlinkSnapshot) (receivedAtMs : ℤ) : Except String DownlinkQosRegistry :=
  match (reg.lookup peerId).bind fun entry => rejectReason entry.snapshot snapshot with
  | some reason => .error reason
  | none => .ok (reg.insert peerId ⟨snapshot, receivedAtMs⟩)

theorem DownlinkQosRegistry.eq_of_upsert {reg reg' : DownlinkQosRegistry} {peerId : String}
    {snapshot : DownlinkSnapshot} {receivedAtMs : ℤ}
    (h : reg.upsert peerId snapshot receivedAtMs = .ok reg') :
    reg' = reg.insert peerId ⟨snapshot, receivedAtMs⟩ := by
  unfold DownlinkQosRegistry.upsert at h
  split at h
  · cases h
  · cases h
    rfl

/-! ### The room -/

structure DownlinkRoom where
  /-- The peers, with the producers they consume by consumer. -/
  peers : Dict String (Dict String String) := ∅
  registry : DownlinkQosRegistry := ∅
  monitors : Dict String DownlinkHealthMonitor := ∅

inductive StatsResult
  | error (message : String)
  | rejected (reason : String)
  | stored (room : DownlinkRoom)

structure SubscriberInput where
  peerId : String
  snapshot : DownlinkSnapshot
  degradeLevel : ℕ

structure PlanningInputs where
  subscriberInputs : List SubscriberInput := []
  staleProducerIds : Finset String := ∅
  monitors : Dict String DownlinkHealthMonitor

def kQosStaleAfterMs : ℤ := 6000

/-- Only what the peer really consumes counts.  (A report carries the kinds of the consumers;
the source writes them into it here.) -/
def filterConsistentDownlinkSubscriptions (consumers : Dict String String)
    (stats : DownlinkSnapshot) : DownlinkSnapshot :=
  { stats with
    subscriptions := stats.subscriptions.filter fun sub =>
      consumers.lookup sub.consumerId == some sub.producerId }

namespace DownlinkRoom

variable (room : DownlinkRoom) (peerId : String)

def monitor : DownlinkHealthMonitor := (room.monitors.lookup peerId).getD {}

def erasePeer : DownlinkRoom :=
  { room with registry := room.registry.erase peerId, monitors := room.monitors.erase peerId }

def join : DownlinkRoom :=
  let room := if (room.peers.lookup peerId).isSome then room.erasePeer peerId else room
  { room with peers := room.peers.insert peerId ∅ }

def leave : DownlinkRoom :=
  let room := room.erasePeer peerId
  { room with peers := room.peers.erase peerId }

def consume (consumerId producerId : String) : DownlinkRoom :=
  match room.peers.lookup peerId with
  | none => room
  | some consumers =>
    { room with peers := room.peers.insert peerId (consumers.insert consumerId producerId) }

def setDownlinkClientStats (stats : DownlinkSnapshot) (nowMs : ℤ) : StatsResult :=
  if room.peers.keys = [] then .error "room missing during downlinkClientStats"
  else
    match room.peers.lookup peerId with
    | none => .error "peer missing during downlinkClientStats"
    | some consumers =>
      if stats.subscriberPeerId ≠ peerId then .error "downlink subscriberPeerId mismatch"
      else
        match room.registry.upsert peerId (filterConsistentDownlinkSubscriptions consumers stats)
          nowMs with
        | .error reason => .rejected reason
        | .ok registry => .stored { room with registry := registry }

variable (nowMs : ℤ)

def fresh (peerId : String) : Bool :=
  match room.registry.lookup peerId with
  | none => false
  | some entry => nowMs - entry.receivedAtMs ≤ kQosStaleAfterMs

def collectPeer (inputs : PlanningInputs) (peerId : String) : PlanningInputs :=
  match room.registry.lookup peerId with
  | none => inputs
  | some entry =>
    if kQosStaleAfterMs < nowMs - entry.receivedAtMs then
      { inputs with
        staleProducerIds := inputs.staleProducerIds ∪
          (entry.snapshot.subscriptions.map DownlinkSubscription.producerId).toFinset }
    else
      let monitor := ((inputs.monitors.lookup peerId).getD {}).update entry.snapshot
      { inputs with
        subscriberInputs := inputs.subscriberInputs ++
          [⟨peerId, entry.snapshot, monitor.degradeLevel⟩]
        monitors := inputs.monitors.insert peerId monitor }

def collectPlanningInputs : PlanningInputs :=
  room.peers.keys.foldl (room.collectPeer nowMs) { monitors := room.monitors }

/-- A planning pass.  What it makes of the inputs touches neither reports nor monitors. -/
def runDownlinkPlanning : DownlinkRoom :=
  { room with monitors := (room.collectPlanningInputs nowMs).monitors }

/-! ### Whom a pass feeds -/

variable {room} {nowMs : ℤ}

theorem fresh_eq_true {peerId : String} :
    room.fresh nowMs peerId ↔ ∃ entry, room.registry.lookup peerId = some entry ∧
      nowMs - entry.receivedAtMs ≤ kQosStaleAfterMs := by
  unfold fresh
  split
  next hnone =>
    simp [hnone]
  next entry hent =>
    simp [hent]

theorem collectPeer_cases (inputs : PlanningInputs) (peerId : String) :
    let inputs' := room.collectPeer nowMs inputs peerId
    room.fresh nowMs peerId ∧ inputs'.subscriberInputs.map SubscriberInput.peerId =
          inputs.subscriberInputs.map SubscriberInput.peerId ++ [peerId] ∧
        (∀ q, q ≠ peerId → inputs'.monitors.lookup q = inputs.monitors.lookup q) ∨
      room.fresh nowMs peerId = false ∧ inputs'.subscriberInputs = inputs.subscriberInputs ∧
        inputs'.monitors = inputs.monitors := by
  unfold collectPeer fresh
  dsimp only
  split
  · exact .inr ⟨rfl, rfl, rfl⟩
  split_ifs with hold
  · exact .inr ⟨decide_eq_false (not_le.mpr hold), rfl, rfl⟩
  exact .inl ⟨decide_eq_true (not_lt.mp hold), by simp, fun q hq => lookup_insert_ne hq⟩

theorem fedPeers_foldl (peerIds : List String) (inputs : PlanningInputs) :
    (peerIds.foldl (room.collectPeer nowMs) inputs).subscriberInputs.map SubscriberInput.peerId =
      inputs.subscriberInputs.map SubscriberInput.peerId ++ peerIds.filter (room.fresh nowMs) := by
  induction peerIds generalizing inputs with
  | nil => simp
  | cons peerId peerIds ih =>
    rw [foldl_cons, ih]
    obtain ⟨hfr, hfed, -⟩ | ⟨hold, hsame, -⟩ := collectPeer_cases inputs peerId
    · rw [hfed, filter_cons_of_pos hfr, append_assoc, singleton_append]
    · rw [hsame, filter_cons_of_neg (by simpa using hold)]

theorem monitors_foldl (peerIds : List String) (inputs : PlanningInputs) {q : String}
    (hq : q ∉ peerIds.filter (room.fresh nowMs)) :
    (peerIds.foldl (room.collectPeer nowMs) inputs).monitors.lookup q =
      inputs.monitors.lookup q := by
  induction peerIds generalizing inputs with
  | nil => rfl
  | cons peerId peerIds ih =>
    rw [foldl_cons]
    obtain ⟨hfr, -, hoth⟩ | ⟨hold, -, hsame⟩ := collectPeer_cases inputs peerId
    · rw [filter_cons_of_pos hfr, mem_cons, not_or] at hq
      rw [ih _ hq.2, hoth q hq.1]
    · rw [filter_cons_of_neg (by simpa using hold)] at hq
      rw [ih _ hq, hsame]

def fedPeers (room : DownlinkRoom) (nowMs : ℤ) : List String :=
  (room.collectPlanningInputs nowMs).subscriberInputs.map SubscriberInput.peerId

theorem fedPeers_eq (room : DownlinkRoom) (nowMs : ℤ) :
    room.fedPeers nowMs = room.peers.keys.filter (room.fresh nowMs) := by
  rw [fedPeers, collectPlanningInputs, fedPeers_foldl]
  rfl

theorem fedPeers_nodup (room : DownlinkRoom) (nowMs : ℤ) : (room.fedPeers nowMs).Nodup := by
  rw [fedPeers_eq]
  exact room.peers.keys_nodup.filter _

theorem monitor_runDownlinkPlanning {q : String} (hq : q ∉ room.fedPeers nowMs) :
    (room.runDownlinkPlanning nowMs).monitor q = room.monitor q := by
  rw [fedPeers_eq] at hq
  have hlook : (room.runDownlinkPlanning nowMs).monitors.lookup q = room.monitors.lookup q :=
    monitors_foldl _ _ hq
  rw [monitor, hlook, monitor]

end DownlinkRoom

open DownlinkRoom

/-! ### The history of a room -/

/-- A room, with a record of the reports that were fed: reports are numbered in the order
they are accepted. -/
structure DownlinkHistory where
  room : DownlinkRoom := {}
  accepted : ℕ := 0
  /-- The number of the report the server keeps of a peer. -/
  serial : String → ℕ := fun _ => 0
  /-- The peers of which a report was accepted since the last pass. -/
  reported : Finset String := ∅
  /-- The numbers of the reports that were fed to a monitor, in their order. -/
  fed : List ℕ := []
  clock : ℤ

inductive DownlinkEvent
  | join (peerId : String)
  | leave (peerId : String)
  | consume (peerId consumerId producerId : String)
  | report (nowMs : ℤ) (peerId : String) (stats : DownlinkSnapshot)
  | plan (nowMs : ℤ)

def historyStep (h : DownlinkHistory) : DownlinkEvent → DownlinkHistory
  | .join peerId => { h with room := h.room.join peerId }
  | .leave peerId => { h with room := h.room.leave peerId }
  | .consume peerId consumerId producerId =>
    { h with room := h.room.consume peerId consumerId producerId }
  | .report nowMs peerId stats =>
    match h.room.setDownlinkClientStats peerId stats nowMs with
    | .error _ | .rejected _ => { h with clock := nowMs }
    | .stored room =>
      { h with
        room := room
        accepted := h.accepted + 1
        serial := Function.update h.serial peerId h.accepted
        reported := insert peerId h.reported
        clock := nowMs }
  | .plan nowMs =>
    { h with
      room := h.room.runDownlinkPlanning nowMs
      reported := ∅
      fed := h.fed ++ (h.room.fedPeers nowMs).map h.serial
      clock := nowMs }

def InOrder (h : DownlinkHistory) : DownlinkEvent → Prop
  | .report nowMs _ _ | .plan nowMs => h.clock ≤ nowMs
  | _ => True

def HealthKept (h : DownlinkHistory) : DownlinkEvent → Prop
  | .plan nowMs => ∀ peerId, peerId ∉ h.reported →
      ((h.room.runDownlinkPlanning nowMs).monitor peerId).state = (h.room.monitor peerId).state ∧
        ((h.room.runDownlinkPlanning nowMs).monitor peerId).degradeLevel =
          (h.room.monitor peerId).degradeLevel
  | _ => True

def PlansNew (h : DownlinkHistory) : DownlinkEvent → Prop
  | .plan nowMs => ∀ peerId ∈ h.room.fedPeers nowMs, peerId ∈ h.reported
  | _ => True

instance (h : DownlinkHistory) : ∀ e, Decidable (InOrder h e)
  | .report .. | .plan _ => inferInstanceAs (Decidable (_ ≤ _))
  | .join _ | .leave _ | .consume .. => .isTrue trivial

instance (h : DownlinkHistory) : ∀ e, Decidable (PlansNew h e)
  | .plan nowMs => inferInstanceAs (Decidable (∀ p ∈ h.room.fedPeers nowMs, _))
  | .report .. | .join _ | .leave _ | .consume .. => .isTrue trivial

/-! ### The record is right -/

/-- The record of the reports that were fed is right: the reports the server keeps have
numbers of their own, what has come in since the last pass was not fed yet, and what came
in before was, unless it was too old. -/
structure FedInv (h : DownlinkHistory) : Prop where
  joined : ∀ p entry, h.room.registry.lookup p = some entry → p ∈ h.room.peers
  serial_lt : ∀ p entry, h.room.registry.lookup p = some entry → h.serial p < h.accepted
  serial_inj : ∀ p q entry entry', h.room.registry.lookup p = some entry →
    h.room.registry.lookup q = some entry' → h.serial p = h.serial q → p = q
  fed_lt : ∀ k ∈ h.fed, k < h.accepted
  new : ∀ p entry, h.room.registry.lookup p = some entry → p ∈ h.reported → h.serial p ∉ h.fed
  old : ∀ p entry, h.room.registry.lookup p = some entry → p ∉ h.reported →
    h.serial p ∈ h.fed ∨ kQosStaleAfterMs < h.clock - entry.receivedAtMs

section Record

variable {h : DownlinkHistory}

theorem fedInv_init (clock : ℤ) : FedInv { clock := clock } where
  joined _ _ hent := nomatch hent
  serial_lt _ _ hent := nomatch hent
  serial_inj _ _ _ _ hent := nomatch hent
  fed_lt _ hk := nomatch hk
  new _ _ hent := nomatch hent
  old _ _ hent := nomatch hent

theorem FedInv.of_room (hinv : FedInv h) {room : DownlinkRoom}
    (hreg : ∀ p entry, room.registry.lookup p = some entry →
      h.room.registry.lookup p = some entry ∧ p ∈ room.peers) : FedInv { h with room := room } where
  joined p entry hent := (hreg p entry hent).2
  serial_lt p entry hent := hinv.serial_lt p entry (hreg p entry hent).1
  serial_inj p q entry entry' hent hent' :=
    hinv.serial_inj p q entry entry' (hreg p entry hent).1 (hreg q entry' hent').1
  fed_lt := hinv.fed_lt
  new p entry hent := hinv.new p entry (hreg p entry hent).1
  old p entry hent := hinv.old p entry (hreg p entry hent).1

theorem FedInv.join (hinv : FedInv h) (peerId : String) :
    FedInv (historyStep h (.join peerId)) := by
  refine hinv.of_room fun p entry hent => ?_
  have hkept : h.room.registry.lookup p = some entry := by
    unfold DownlinkRoom.join DownlinkRoom.erasePeer at hent
    split at hent
    · rw [Dict.lookup_erase_eq] at hent
      split at hent
      · cases hent
      · exact hent
    · exact hent
  refine ⟨hkept, ?_⟩
  have hprs : (h.room.join peerId).peers = h.room.peers.insert peerId ∅ := by
    unfold DownlinkRoom.join
    split <;> rfl
  rw [hprs]
  exact (mem_insert _).mpr (.inr (hinv.joined p entry hkept))

theorem FedInv.leave (hinv : FedInv h) (peerId : String) :
    FedInv (historyStep h (.leave peerId)) := by
  refine hinv.of_room fun p entry hent => ?_
  change (h.room.registry.erase peerId).lookup p = some entry at hent
  rw [Dict.lookup_erase_eq] at hent
  split at hent
  · cases hent
  next hne =>
    exact ⟨hent, mem_erase.mpr ⟨hne, hinv.joined p entry hent⟩⟩

theorem FedInv.consume (hinv : FedInv h) (peerId consumerId producerId : String) :
    FedInv (historyStep h (.consume peerId consumerId producerId)) := by
  refine hinv.of_room fun p entry hent => ?_
  unfold DownlinkRoom.consume at hent ⊢
  split at hent
  · exact ⟨hent, hinv.joined p entry hent⟩
  · exact ⟨hent, (mem_insert _).mpr (.inr (hinv.joined p entry hent))⟩

variable {nowMs : ℤ}

theorem FedInv.tick (hinv : FedInv h) (hclk : h.clock ≤ nowMs) :
    FedInv { h with clock := nowMs } :=
  { hinv with
    old := fun p entry hent hp => (hinv.old p entry hent hp).imp id fun hold => by
      change kQosStaleAfterMs < nowMs - entry.receivedAtMs
      omega }

theorem stored_eq {room room' : DownlinkRoom} {peerId : String} {stats : DownlinkSnapshot}
    (hstor : room.setDownlinkClientStats peerId stats nowMs = .stored room') :
    peerId ∈ room.peers ∧ ∃ snapshot, room' =
      { room with registry := room.registry.insert peerId ⟨snapshot, nowMs⟩ } := by
  unfold setDownlinkClientStats at hstor
  split at hstor
  · cases hstor
  split at hstor
  · cases hstor
  rename_i hcons
  refine ⟨lookup_isSome.mp (by rw [hcons]; rfl), ?_⟩
  split at hstor
  · cases hstor
  split at hstor
  · cases hstor
  rename_i registry hups
  cases hstor
  exact ⟨_, by rw [DownlinkQosRegistry.eq_of_upsert hups]⟩

theorem FedInv.report (hinv : FedInv h) (hclk : h.clock ≤ nowMs) (peerId : String)
    (stats : DownlinkSnapshot) : FedInv (historyStep h (.report nowMs peerId stats)) := by
  simp only [historyStep]
  split
  · exact hinv.tick hclk
  · exact hinv.tick hclk
  rename_i room hstor
  obtain ⟨hpeer, snapshot, rfl⟩ := stored_eq hstor
  -- a report is the new one, or that of another peer
  have hcs : ∀ p entry, (h.room.registry.insert peerId ⟨snapshot, nowMs⟩).lookup p =
      some entry → p = peerId ∨ p ≠ peerId ∧ h.room.registry.lookup p = some entry := by
    intro p entry hent
    rw [Dict.lookup_insert_eq] at hent
    split_ifs at hent with heq
    · exact .inl heq
    · exact .inr ⟨heq, hent⟩
  have hlt : ∀ p entry, h.room.registry.lookup p = some entry → h.serial p ≠ h.accepted :=
    fun p entry hent => (hinv.serial_lt p entry hent).ne
  refine ⟨fun p entry hent => ?_, fun p entry hent => ?_,
    fun p q entry entry' hent hent' hser => ?_,
    fun k hk => Nat.lt_succ_of_lt (hinv.fed_lt k hk), fun p entry hent hp => ?_,
    fun p entry hent hp => ?_⟩
  · obtain rfl | ⟨-, hold⟩ := hcs p entry hent
    · exact hpeer
    · exact hinv.joined p entry hold
  · obtain rfl | ⟨hne, hold⟩ := hcs p entry hent
    · simp
    · simpa [hne] using Nat.lt_succ_of_lt (hinv.serial_lt p entry hold)
  · obtain rfl | ⟨hne, hold⟩ := hcs p entry hent
    · obtain rfl | ⟨hne', hold'⟩ := hcs q entry' hent'
      · rfl
      simp only [update_self, ne_eq, hne', not_false_eq_true,
        update_of_ne] at hser
      exact absurd hser.symm (hlt q entry' hold')
    obtain rfl | ⟨hne', hold'⟩ := hcs q entry' hent'
    · simp only [update_self, ne_eq, hne, not_false_eq_true, update_of_ne] at hser
      exact absurd hser (hlt p entry hold)
    · simp only [ne_eq, hne, hne', not_false_eq_true, update_of_ne] at hser
      exact hinv.serial_inj p q entry entry' hold hold' hser
  · obtain rfl | ⟨hne, hold⟩ := hcs p entry hent
    · simpa using fun hfed => (hinv.fed_lt _ hfed).ne rfl
    · have hp' : p ∈ h.reported := by simpa [hne] using hp
      simpa [hne] using hinv.new p entry hold hp'
  · obtain rfl | ⟨hne, hold⟩ := hcs p entry hent
    · exact absurd hp (by simp)
    have hp' : p ∉ h.reported := fun hmem => hp (Finset.mem_insert_of_mem hmem)
    have := (hinv.tick hclk).old p entry hold hp'
    simpa [hne] using this

theorem FedInv.plan (hinv : FedInv h) (nowMs : ℤ) : FedInv (historyStep h (.plan nowMs)) where
  joined := hinv.joined
  serial_lt := hinv.serial_lt
  serial_inj := hinv.serial_inj
  fed_lt k hk := by
    rcases mem_append.mp hk with hk | hk
    · exact hinv.fed_lt k hk
    obtain ⟨p, hp, rfl⟩ := mem_map.mp hk
    rw [fedPeers_eq] at hp
    obtain ⟨entry, hent, -⟩ := fresh_eq_true.mp (mem_filter.mp hp).2
    exact hinv.serial_lt p entry hent
  new _ _ _ hp := absurd hp (Finset.notMem_empty _)
  old p entry hent _ := by
    by_cases hfr : nowMs - entry.receivedAtMs ≤ kQosStaleAfterMs
    · refine .inl (mem_append_right _ (mem_map_of_mem ?_))
      rw [fedPeers_eq]
      exact mem_filter.mpr ⟨mem_keys.mp (hinv.joined p entry hent),
        fresh_eq_true.mpr ⟨entry, hent, hfr⟩⟩
    · exact .inr (not_le.mp hfr)

theorem FedInv.step (h : DownlinkHistory) (e : DownlinkEvent) (hinv : FedInv h)
    (hord : InOrder h e) : FedInv (historyStep h e) := by
  cases e with
  | join peerId => exact hinv.join peerId
  | leave peerId => exact hinv.leave peerId
  | consume peerId consumerId producerId => exact hinv.consume peerId consumerId producerId
  | report nowMs peerId stats => exact hinv.report hord peerId stats
  | plan nowMs => exact hinv.plan nowMs

theorem FedInv.nodup_step_iff (hinv : FedInv h) {e : DownlinkEvent} (hord : InOrder h e)
    (hnd : h.fed.Nodup) : (historyStep h e).fed.Nodup ↔ PlansNew h e := by
  cases e with
  | join | leave | consume => exact ⟨fun _ => trivial, fun _ => hnd⟩
  | report nowMs peerId stats =>
    refine ⟨fun _ => trivial, fun _ => ?_⟩
    simp only [historyStep]
    split <;> exact hnd
  | plan nowMs =>
    have hent : ∀ p ∈ h.room.fedPeers nowMs, ∃ entry, h.room.registry.lookup p = some entry ∧
        nowMs - entry.receivedAtMs ≤ kQosStaleAfterMs := by
      intro p hp
      rw [fedPeers_eq] at hp
      exact fresh_eq_true.mp (mem_filter.mp hp).2
    have hdist : ((h.room.fedPeers nowMs).map h.serial).Nodup := by
      refine (h.room.fedPeers_nodup nowMs).map_on fun p hp q hq hser => ?_
      obtain ⟨entry, hp, -⟩ := hent p hp
      obtain ⟨entry', hq, -⟩ := hent q hq
      exact hinv.serial_inj p q entry entry' hp hq hser
    constructor
    · intro hfed p hp
      by_contra hold
      obtain ⟨entry, hlook, _⟩ := hent p hp
      -- the report was there at the last pass, and fresh then as it is now
      rcases hinv.old p entry hlook hold with hagain | _
      · exact (nodup_append.mp hfed).2.2 _ hagain _ (mem_map_of_mem hp) rfl
      · have : h.clock ≤ nowMs := hord
        omega
    · intro hnew
      refine nodup_append.mpr ⟨hnd, hdist, fun k hk l hl heq => ?_⟩
      obtain ⟨p, hp, rfl⟩ := mem_map.mp hl
      obtain ⟨entry, hlook, -⟩ := hent p hp
      exact hinv.new p entry hlook (hnew p hp) (heq ▸ hk)

theorem healthKept_of_plansNew {e : DownlinkEvent} (hnew : PlansNew h e) : HealthKept h e := by
  cases e with
  | plan nowMs =>
    intro p hp
    rw [monitor_runDownlinkPlanning fun hfed => hp (hnew p hfed)]
    exact ⟨rfl, rfl⟩
  | join | leave | consume | report => trivial

theorem fed_prefix_step (h : DownlinkHistory) (e : DownlinkEvent) :
    h.fed <+: (historyStep h e).fed := by
  cases e with
  | plan nowMs => exact prefix_append _ _
  | join | leave | consume => exact prefix_refl _
  | report nowMs peerId stats =>
    simp only [historyStep]
    split <;> exact prefix_refl _

theorem fed_prefix_run (h : DownlinkHistory) (es : List DownlinkEvent) :
    h.fed <+: (runFrom historyStep h es).fed :=
  runFrom_inv (h.fed <+: ·.fed) (fun h' e hprefix => hprefix.trans (fed_prefix_step h' e)) es h
    (prefix_refl _)

theorem FedInv.nodup_run_iff (hinv : FedInv h) (hnd : h.fed.Nodup) (es : List DownlinkEvent)
    (hord : StepsMeet historyStep InOrder h es) :
    (runFrom historyStep h es).fed.Nodup ↔ StepsMeet historyStep PlansNew h es := by
  induction es generalizing h with
  | nil => exact ⟨fun _ => trivial, fun _ => hnd⟩
  | cons e es ih =>
    obtain ⟨hin, hrest⟩ := hord
    have hstep := hinv.nodup_step_iff hin hnd
    have hnext := FedInv.step h e hinv hin
    constructor
    · intro hfed
      have hfed' : (historyStep h e).fed.Nodup := hfed.sublist (fed_prefix_run _ es).sublist
      exact ⟨hstep.mp hfed', (ih hnext hfed' hrest).mp hfed⟩
    · rintro ⟨hnew, hnews⟩
      exact (ih hnext (hstep.mpr hnew) hrest).mpr hnews

end Record

/-! ### Reports are fed once -/

/-- **Reports are fed at most once exactly when passes find only new ones.**  Take any
interleaving of joins, leaves, reports and passes of a room that starts empty, with a clock
that does not go back.  No accepted report is fed to its subscriber's monitor twice, and no
pass changes the health state or the level of a subscriber without a new report, if and
only if in every pass, every peer with a report that is not older than six seconds has
had a report accepted since the pass before. -/
theorem fedOnce_iff (clock : ℤ) (es : List DownlinkEvent)
    (hord : StepsMeet historyStep InOrder { clock := clock } es) :
    (runFrom historyStep { clock := clock } es).fed.Nodup ∧
        StepsMeet historyStep HealthKept { clock := clock } es ↔
      StepsMeet historyStep PlansNew { clock := clock } es := by
  have hiff := (fedInv_init clock).nodup_run_iff nodup_nil es hord
  exact ⟨fun hfed => hiff.mp hfed.1,
    fun hnew => ⟨hiff.mpr hnew, hnew.mono fun _ _ => healthKept_of_plansNew⟩⟩

def lossReport (p : String) (seq packetsLost : ℕ) : DownlinkSnapshot where
  seq := seq
  subscriberPeerId := p
  subscriptions := [{ consumerId := "c", producerId := "v", packetsLost := packetsLost }]

def oneReport : List DownlinkEvent :=
  [.join "a", .consume "a" "c" "v", .join "b", .consume "b" "c" "v",
    .report 0 "a" (lossReport "a" 1 50), .plan 0]

theorem fedOnce_oneReport :
    (runFrom historyStep { clock := 0 } oneReport).fed.Nodup ∧
      StepsMeet historyStep HealthKept { clock := 0 } oneReport :=
  (fedOnce_iff 0 oneReport (by decide)).mpr (by decide)

def secondPass : List DownlinkEvent :=
  oneReport ++ [.report 1000 "b" (lossReport "b" 1 0), .plan 1000]

/-- **The report of `a` is fed again in a pass triggered by `b`**, and raises the level. -/
theorem refed_secondPass :
    (runFrom historyStep { clock := 0 } secondPass).fed = [0, 1, 0] ∧
      ((runFrom historyStep { clock := 0 } oneReport).room.monitor "a").degradeLevel = 2 ∧
        ((runFrom historyStep { clock := 0 } secondPass).room.monitor "a").degradeLevel = 3 ∧
          ¬(runFrom historyStep { clock := 0 } secondPass).fed.Nodup ∧
            ¬StepsMeet historyStep HealthKept { clock := 0 } secondPass := by
  refine ⟨by decide, by decide +kernel, by decide +kernel, by decide, fun h => ?_⟩
  -- the last pass of the run
  obtain ⟨-, hlast, -⟩ := (stepsMeet_append _ (oneReport ++ [.report 1000 "b" (lossReport "b" 1 0)])
    [.plan 1000]).mp h
  exact absurd (hlast "a" (by decide)).2 (by decide +kernel)

end MediasoupCpp
