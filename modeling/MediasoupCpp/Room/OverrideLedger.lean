import MediasoupCpp.Qos.OverrideEffect
import MediasoupCpp.Qos.OverrideDelivery
import MediasoupCpp.Room.Service

/-!
# What the server and a client know of the overrides for a peer

The server sends a peer two kinds of overrides on its own: one for the quality the peer reports,
and one for the pressure the whole room is under.  It remembers the last one of each kind, with
the time it was sent, and the client keeps what it was sent until it runs out.

Main result: `Ledger.Inv.step`.

Source: `src/RoomServiceQos.cpp`, `src/RoomStatsQosHelpers.h`, `src/qos/QosOverride.cpp`,
`src/client/lib/qos/controller.js`.
-/

namespace MediasoupCpp

/-! ### The overrides the server sends on its own -/

inductive DegradedLevel
  | poor
  | lost
  deriving DecidableEq

namespace DegradedLevel

def quality : DegradedLevel → PeerQuality
  | poor => .poor
  | lost => .lost

def automatic : DegradedLevel → QosOverride
  | poor => makeOverride "server_auto_poor" 10000 (some 2) none (some true)
  | lost => makeOverride "server_auto_lost" 15000 none (some true) (some true)

def halfTtlMs (level : DegradedLevel) : ℤ := (level.automatic.ttlMs : ℤ) / 2

theorem quality_inj {level level' : DegradedLevel} (h : level.quality = level'.quality) :
    level = level' := by
  cases level <;> cases level' <;> first | rfl | cases h

theorem halfTtlMs_spec (level : DegradedLevel) :
    max 1000 ((level.automatic.ttlMs : ℤ) / 2) = level.halfTtlMs ∧ 0 < level.halfTtlMs ∧
      2 * level.halfTtlMs = level.automatic.ttlMs ∧ level.halfTtlMs < kQosLostAfterMs := by
  cases level <;> decide

end DegradedLevel

def roomPressureOverride : QosOverride :=
  makeOverride "server_room_pressure" 8000 (some 1) none (some true)

theorem aggregate_received (snapshot : ClientReport) (nowMs : ℤ) :
    let aggregate := QosAggregator.aggregate (some ⟨snapshot, nowMs⟩) nowMs
    aggregate.quality = some snapshot.peerQuality ∧ aggregate.lost = false ∧
      aggregate.hasSnapshot := by
  have hlost : ¬kQosLostAfterMs < 0 := by decide
  simp [QosAggregator.aggregate, hlost]

theorem quality_aggregate {entry : ReportEntry} {nowMs : ℤ}
    (hfr : nowMs - entry.receivedAtMs ≤ kQosLostAfterMs) :
    (QosAggregator.aggregate (some entry) nowMs).quality = some entry.snapshot.peerQuality := by
  have hlost : ¬kQosLostAfterMs < max 0 (nowMs - entry.receivedAtMs) := by
    rw [not_lt, max_le_iff]
    exact ⟨by decide, hfr⟩
  simp [QosAggregator.aggregate, hlost]

theorem isPeerAlreadyDegraded_aggregate {entry : ReportEntry} {level : DegradedLevel}
    (hlev : entry.snapshot.peerQuality = level.quality) (nowMs : ℤ) :
    isPeerAlreadyDegraded (QosAggregator.aggregate (some entry) nowMs) := by
  by_cases hlost : kQosLostAfterMs < max 0 (nowMs - entry.receivedAtMs)
  · simp [isPeerAlreadyDegraded, QosAggregator.aggregate, hlost]
  · cases level <;> simp [isPeerAlreadyDegraded, QosAggregator.aggregate, hlost, hlev,
      DegradedLevel.quality]

theorem buildForAggregate_received (snapshot : ClientReport) (nowMs : ℤ) :
    (∃ level : DegradedLevel, snapshot.peerQuality = level.quality ∧
      buildForAggregate (QosAggregator.aggregate (some ⟨snapshot, nowMs⟩) nowMs) =
        some level.automatic) ∨ (∀ level : DegradedLevel, snapshot.peerQuality ≠ level.quality) ∧
        buildForAggregate (QosAggregator.aggregate (some ⟨snapshot, nowMs⟩) nowMs) = none := by
  obtain ⟨hqual, hlost, hsnap⟩ := aggregate_received snapshot nowMs
  unfold buildForAggregate
  rw [hqual, hlost, hsnap]
  cases snapshot.peerQuality with
  | excellent | good => exact .inr ⟨fun level => by cases level <;> exact nofun, rfl⟩
  | poor => exact .inl ⟨.poor, rfl, rfl⟩
  | lost => exact .inl ⟨.lost, rfl, rfl⟩

theorem buildForRoomAggregate_eq_some {aggregate : RoomQosAggregate} {automatic : QosOverride}
    (h : buildForRoomAggregate aggregate = some automatic) : automatic = roomPressureOverride := by
  unfold buildForRoomAggregate at h
  split at h
  · cases h
  split at h
  · exact (Option.some.inj h).symm
  · cases h

/-! ### What the client reads -/

def QosOverride.forPeer (o : QosOverride) : ClientOverride :=
  { o.toClient with trackId := some none }

section Parsed

open ClientParser

variable {reason : String}

theorem parseQosOverride_makeOverride (hreason : reason ≠ "") (ttlMs : ℕ)
    (maxLevelClamp : Option ℕ) (forceAudioOnly disableRecovery : Option Bool) :
    parseQosOverride (makeOverride reason ttlMs maxLevelClamp forceAudioOnly disableRecovery).raw =
      .ok (makeOverride reason ttlMs maxLevelClamp forceAudioOnly disableRecovery).forPeer := by
  obtain ⟨object, hobj⟩ : ∃ object,
      object = [("schema", .str kOverrideSchema), ("scope", .str "peer"), ("trackId", .null),
          ("ttlMs", .int ttlMs), ("reason", .str reason)] ++
        (maxLevelClamp.map fun level => ("maxLevelClamp", Json.int level)).toList ++
        (forceAudioOnly.map fun b => ("forceAudioOnly", Json.bool b)).toList ++
        (disableRecovery.map fun b => ("disableRecovery", Json.bool b)).toList := ⟨_, rfl⟩
  -- the fields in the order in which they are read
  have hschema : object.lookup "schema" = some (.str kOverrideSchema) := by rw [hobj]; rfl
  have hsc : object.lookup "scope" = some (.str "peer") := by rw [hobj]; rfl
  have hpeer : asScope (some (.str "peer")) "qosOverride.scope" = .ok .peer := rfl
  have htr : trackIdField object = .ok (some none) := by rw [hobj]; rfl
  have hcl : optionalNonNegativeInt object "maxLevelClamp" "qosOverride" =
      .ok maxLevelClamp := by
    subst hobj
    cases maxLevelClamp with
    | none => cases forceAudioOnly <;> cases disableRecovery <;> rfl
    | some n => exact optionalNonNegativeInt_eq rfl
  have hbooleans : optionalBoolean object "forceAudioOnly" "qosOverride" = .ok forceAudioOnly ∧
      optionalBoolean object "disableRecovery" "qosOverride" = .ok disableRecovery ∧
      optionalBoolean object "pauseUpstream" "qosOverride" = .ok none ∧
      optionalBoolean object "resumeUpstream" "qosOverride" = .ok none := by
    subst hobj
    cases maxLevelClamp <;> cases forceAudioOnly <;> cases disableRecovery <;>
      exact ⟨rfl, rfl, rfl, rfl⟩
  have httl : object.lookup "ttlMs" = some (.int ttlMs) := by rw [hobj]; rfl
  have hwhy : object.lookup "reason" = some (.str reason) := by rw [hobj]; rfl
  have hraw : (makeOverride reason ttlMs maxLevelClamp forceAudioOnly disableRecovery).raw =
      .obj object := by rw [hobj]; rfl
  simp only [hraw, parseQosOverride, hschema, hsc, hpeer, htr, hcl, hbooleans,
    httl, hwhy, asString_str, asNonNegativeInt_natCast, asNonEmptyString_str hreason, Json.ok_bind]
  rfl

theorem parseQosOverride_clear (hwhy : reason ≠ "") :
    parseQosOverride (buildPeerOverrideClearPayload reason) = .ok (peerClear reason) :=
  parseQosOverride_makeOverride hwhy 0 none none none

def FromPlanner (data : Json) : Prop :=
  ∃ state trackId, ∃ o ∈ trackOverrides state trackId, data = o.raw

theorem FromPlanner.not_server {data : Json} (h : FromPlanner data) {override : ClientOverride}
    (hpars : parseQosOverride data = .ok override) :
    startsWith override.reason "server_" = false := by
  obtain ⟨_, trackId, o, ho, rfl⟩ := h
  by_cases htr : trackId = ""
  · -- without a track it is not read
    subst htr
    exfalso
    obtain ⟨reason, -, rfl⟩ | ⟨n, reason, -, rfl⟩ | rfl | rfl := mem_trackOverrides_cases ho
    all_goals cases hpars
  by_cases httl : o.ttlMs = 0
  · exfalso
    obtain ⟨reason, hwhy, rfl⟩ | ⟨n, reason, -, rfl⟩ | rfl | rfl :=
      mem_trackOverrides_cases ho
    · rw [parseQosOverride_makeTrackClear htr hwhy] at hpars
      cases hpars
    all_goals cases httl
  · rw [parseQosOverride_of_mem ho htr httl] at hpars
    cases hpars
    obtain ⟨reason, -, rfl⟩ | ⟨n, reason, hwhy, rfl⟩ | rfl | rfl :=
      mem_trackOverrides_cases ho
    · exact absurd rfl httl
    · rcases hwhy with rfl | rfl
      · exact (by decide : startsWith "downlink_v2_zero_demand_hold" "server_" = false)
      · exact (by decide : startsWith "downlink_v2_room_demand" "server_" = false)
    · exact (by decide : startsWith "downlink_v3_zero_demand_pause" "server_" = false)
    · exact (by decide : startsWith "downlink_v3_demand_resumed" "server_" = false)

end Parsed

/-! ### What the client keeps -/

namespace ActiveOverrides

variable {active : ActiveOverrides} {nowMs : ℤ} {trackId key : String}

def Holds (active : ActiveOverrides) (nowMs : ℤ) (o : QosOverride) : Prop :=
  ∃ entry, active.lookup o.reason = some entry ∧ nowMs < entry.expiresAtMs ∧
    parseQosOverride o.raw = .ok entry.data

instance instDecidableHolds (active : ActiveOverrides) (nowMs : ℤ) (o : QosOverride) :
    Decidable (active.Holds nowMs o) :=
  decidable_of_iff (∃ entry ∈ active.lookup o.reason, nowMs < entry.expiresAtMs ∧
    parseQosOverride o.raw = .ok entry.data) Iff.rfl

def liveAt (active : ActiveOverrides) (nowMs : ℤ) (key : String) : Option ActiveOverride :=
  (active.purge nowMs).lookup key

theorem liveAt_eq (active : ActiveOverrides) (nowMs : ℤ) (key : String) : active.liveAt nowMs key =
      (active.lookup key).filter fun entry => decide (nowMs < entry.expiresAtMs) :=
  lookup_purge active nowMs key

theorem liveAt_later {t : ℤ} (ht : nowMs ≤ t) : active.liveAt t key =
      (active.liveAt nowMs key).filter fun entry => decide (t < entry.expiresAtMs) := by
  rw [liveAt_eq, liveAt_eq, Option.filter_filter]
  congr 1
  funext entry
  rw [Bool.eq_iff_iff]
  simp only [Bool.and_eq_true, decide_eq_true_eq]
  omega

theorem liveAt_purge : (active.purge nowMs).liveAt nowMs key = active.liveAt nowMs key := by
  rw [liveAt_eq, lookup_purge, Option.filter_filter, liveAt_eq]
  simp only [Bool.and_self]

theorem holds_iff {o : QosOverride} {data : ClientOverride}
    (hdata : parseQosOverride o.raw = .ok data) : active.Holds nowMs o ↔
      ∃ expiresAtMs, active.liveAt nowMs o.reason = some ⟨data, expiresAtMs⟩ := by
  simp only [Holds, liveAt_eq, Option.filter_eq_some_iff, decide_eq_true_eq]
  constructor
  · rintro ⟨⟨data', expiresAtMs⟩, hlook, hlive, hpars⟩
    obtain rfl : data = data' := Except.ok.inj (hdata.symm.trans hpars)
    exact ⟨expiresAtMs, hlook, hlive⟩
  · rintro ⟨expiresAtMs, hlook, hlive⟩
    exact ⟨_, hlook, hlive, hdata⟩

variable {override : ClientOverride}

theorem liveAt_handleOverride (happ : override.AppliesTo trackId)
    (httl : override.ttlMs ≠ 0) (hwhy : override.reason ≠ "") :
    (active.handleOverride nowMs trackId override).liveAt nowMs key =
      if key = override.reason then some ⟨override, nowMs + override.ttlMs⟩
      else active.liveAt nowMs key := by
  rw [handleOverride, if_neg happ, if_neg httl, if_neg hwhy, liveAt_purge, liveAt_eq,
    Dict.lookup_set]
  split
  · have hlive : nowMs < nowMs + (override.ttlMs : ℤ) := by omega
    rw [Option.filter_some, if_pos (decide_eq_true hlive)]
  · rw [liveAt_eq]

theorem liveAt_handleOverride_clear
    (happ : override.AppliesTo trackId) (httl : override.ttlMs = 0) :
    (active.handleOverride nowMs trackId override).liveAt nowMs key =
      if clears override.reason key then none else active.liveAt nowMs key := by
  rw [liveAt_eq, lookup_handleOverride_clear httl happ]
  split
  · rfl
  · rw [Option.filter_filter, liveAt_eq]
    simp only [Bool.and_self]

theorem liveAt_handleOverride_of_not_server (hwhy : startsWith override.reason "server_" = false)
    (hkey : startsWith key "server_") :
    (active.handleOverride nowMs trackId override).liveAt nowMs key = active.liveAt nowMs key := by
  by_cases happ : override.AppliesTo trackId
  · by_cases httl : override.ttlMs = 0
    · have hclr : clears override.reason key = false := by
        have hexp : override.reason ≠ "server_ttl_expired" := by
          intro heq
          rw [heq] at hwhy
          cases hwhy
        have hv2 : startsWith key "downlink_v2_" = false := startsWith_exclusive hkey (by decide)
        have hv3 : startsWith key "downlink_v3_" = false := startsWith_exclusive hkey (by decide)
        simp [clears, hexp, hv2, hv3, hwhy, hkey]
      rw [liveAt_handleOverride_clear happ httl, hclr]
      rfl
    · rw [handleOverride, if_neg happ, if_neg httl, liveAt_purge, liveAt_eq, Dict.lookup_set,
        if_neg ?_, liveAt_eq]
      intro heq
      rw [heq] at hkey
      split at hkey
      · cases hkey
      · rw [hwhy] at hkey
        cases hkey
  · rw [handleOverride, if_pos (not_not.mp happ)]

end ActiveOverrides

open ActiveOverrides

/-! ### The ledger -/

inductive LedgerSlot
  | automatic
  | roomPressure
  deriving DecidableEq

namespace LedgerSlot

def Sends : LedgerSlot → QosOverride → Prop
  | automatic, o => ∃ level : DegradedLevel, o = level.automatic
  | roomPressure, o => o = roomPressureOverride

def clearReason : LedgerSlot → String
  | automatic => "server_auto_clear"
  | roomPressure => "server_room_pressure_clear"

end LedgerSlot

/-- What is known of a peer: its last report, the server's records of the overrides for it, and the
overrides its client keeps. -/
@[ext] structure Ledger where
  nowMs : ℤ
  report : Option ReportEntry := none
  record : LedgerSlot → Option AutoQosOverrideRecord := fun _ => none
  active : ActiveOverrides := ∅

inductive LedgerEvent
  /-- The planner may send overrides, and nothing else happens. -/
  | quiet (overrides : List Json)
  /-- A controller starts on the client, with no overrides. -/
  | start
  | forget
  /-- A report of the peer, if it is its own, or of another peer of its room is taken, and records
  may be cleaned up afterwards. -/
  | stats (own : Option ReportEntry) (roomAutomatic : Option QosOverride) (cleanup : Bool)
  /-- Records may be cleaned up after a report in another room. -/
  | elsewhere (cleanup : Bool)

namespace Ledger

variable (trackId : String) (l : Ledger)

def tell (data : Json) : Ledger :=
  { l with active := l.active.handleMessage l.nowMs trackId data }

variable (slot : LedgerSlot)

def setRecord (record : Option AutoQosOverrideRecord) : Ledger :=
  { l with record := Function.update l.record slot record }

def clear : Ledger :=
  match l.record slot with
  | none => l
  | some _ =>
    (l.tell trackId (buildPeerOverrideClearPayload slot.clearReason)).setRecord slot none

def send (o : QosOverride) : Ledger :=
  (l.tell trackId o.raw).setRecord slot (some ⟨o.raw, l.nowMs, o.ttlMs⟩)

def recent (automatic : QosOverride) : Bool :=
  (l.record .automatic).any fun record =>
    record.signature = automatic.raw &&
      l.nowMs - record.sentAtMs < max 1000 ((record.ttlMs : ℤ) / 2)

def maybeSendAutomatic : Ledger :=
  match buildForAggregate (QosAggregator.aggregate l.report l.nowMs) with
  | none => l.clear trackId .automatic
  | some automatic => if l.recent automatic then l else l.send trackId .automatic automatic

def degraded : Bool :=
  l.report.any fun entry => isPeerAlreadyDegraded (QosAggregator.aggregate (some entry) l.nowMs)

def maybeSendRoomPressure (roomAutomatic : Option QosOverride) : Ledger :=
  match roomAutomatic with
  | none => l.clear trackId .roomPressure
  | some automatic =>
    if l.degraded then l.clear trackId .roomPressure
    else if (l.record .roomPressure).any (·.signature = automatic.raw) then l
    else l.send trackId .roomPressure automatic

def HasExpired : Prop :=
  (l.record .automatic).any (·.expired l.nowMs) = true ∨
    (l.record .roomPressure).any (·.expired l.nowMs) = true

instance instDecidableHasExpired : Decidable l.HasExpired := inferInstanceAs (Decidable (_ ∨ _))

def cleanupExpired : Ledger :=
  { l with
    record := fun slot => (l.record slot).filter fun record => !record.expired l.nowMs
    active := if l.HasExpired then ∅ else l.active }

def cleanup (due : Bool) : Ledger := if due then l.cleanupExpired else l

def received (own : Option ReportEntry) : Ledger :=
  match own with
  | none => l
  | some entry => { l with report := some entry }.maybeSendAutomatic trackId

def step (nowMs : ℤ) (e : LedgerEvent) : Ledger :=
  let l := { l with nowMs := nowMs }
  match e with
  | .quiet overrides => overrides.foldl (tell trackId) l
  | .start => { l with active := ∅ }
  | .forget => { l with report := none, record := fun _ => none }
  | .stats own roomAutomatic due =>
    ((l.received trackId own).maybeSendRoomPressure trackId roomAutomatic).cleanup due
  | .elsewhere due => l.cleanup due

end Ledger

def LedgerEvent.Legal (l : Ledger) (nowMs : ℤ) : LedgerEvent → Prop
  | .quiet overrides => ∀ data ∈ overrides, FromPlanner data
  | .start => ∀ slot, l.record slot = none
  | .forget => True
  | .stats own roomAutomatic _ =>
    (∀ entry ∈ own, entry.receivedAtMs = nowMs) ∧
      ∀ automatic ∈ roomAutomatic, automatic = roomPressureOverride
  | .elsewhere _ => True

/-! ### What the overrides of a kind have in common -/

namespace LedgerSlot

variable {slot slot' : LedgerSlot} {o o' : QosOverride}

section

variable (h : slot.Sends o)
include h

theorem Sends.parsed : parseQosOverride o.raw = .ok o.forPeer := by
  cases slot with
  | automatic =>
    obtain ⟨level, rfl⟩ := h
    cases level with
    | poor | lost => exact parseQosOverride_makeOverride (by decide) _ _ _ _
  | roomPressure =>
    obtain rfl := h
    exact parseQosOverride_makeOverride (by decide) _ _ _ _

theorem Sends.fields :
    o.scope = .peer ∧ o.ttlMs ≠ 0 ∧ o.reason ≠ "" ∧ startsWith o.reason "server_" := by
  cases slot with
  | automatic =>
    obtain ⟨level, rfl⟩ := h
    cases level <;> decide
  | roomPressure =>
    obtain rfl := h
    decide

theorem Sends.eq_of_raw (h' : slot.Sends o') (hraw : o.raw = o'.raw) : o = o' := by
  cases slot with
  | automatic =>
    obtain ⟨level, rfl⟩ := h
    obtain ⟨level', rfl⟩ := h'
    cases level <;> cases level' <;> first | rfl | cases hraw
  | roomPressure => rw [show o = _ from h, show o' = _ from h']

theorem Sends.reason_ne (h' : slot'.Sends o') (hslot : slot ≠ slot') : o.reason ≠ o'.reason := by
  cases slot <;> cases slot'
  · exact absurd rfl hslot
  · obtain ⟨level, rfl⟩ := h
    obtain rfl := h'
    cases level <;> decide
  · obtain rfl := h
    obtain ⟨level, rfl⟩ := h'
    cases level <;> decide
  · exact absurd rfl hslot

theorem Sends.not_cleared (hslot : slot' ≠ slot) : clears slot'.clearReason o.reason = false := by
  cases slot <;> cases slot'
  · exact absurd rfl hslot
  · obtain ⟨level, rfl⟩ := h
    cases level <;> decide
  · obtain rfl := h
    decide
  · exact absurd rfl hslot

end

end LedgerSlot

namespace Ledger

variable {trackId : String} {l l' : Ledger} {slot : LedgerSlot} {record : AutoQosOverrideRecord}
  {o : QosOverride}

theorem record_setRecord (slot' : LedgerSlot) (new : Option AutoQosOverrideRecord) :
    (l.setRecord slot new).record slot' = if slot' = slot then new else l.record slot' :=
  Function.update_apply ..

theorem record_clear (slot slot' : LedgerSlot) :
    (l.clear trackId slot).record slot' = if slot' = slot then none else l.record slot' := by
  unfold clear
  split
  next hnone =>
    split
    next hslot =>
      rw [hslot, hnone]
    · rfl
  · exact record_setRecord ..

theorem clear_frame (slot : LedgerSlot) :
    (l.clear trackId slot).report = l.report ∧ (l.clear trackId slot).nowMs = l.nowMs := by
  unfold clear
  split <;> exact ⟨rfl, rfl⟩

theorem record_send (slot slot' : LedgerSlot) : (l.send trackId slot o).record slot' =
      if slot' = slot then some ⟨o.raw, l.nowMs, o.ttlMs⟩ else l.record slot' :=
  record_setRecord ..

theorem liveAt_tell_raw (h : slot.Sends o) (key : String) :
    (l.tell trackId o.raw).active.liveAt l.nowMs key =
      if key = o.reason then some ⟨o.forPeer, l.nowMs + o.ttlMs⟩
      else l.active.liveAt l.nowMs key := by
  obtain ⟨hsc, httl, hwhy, -⟩ := h.fields
  have happ : o.forPeer.AppliesTo trackId := by
    rintro ⟨htr, -⟩
    exact absurd (hsc.symm.trans htr) nofun
  rw [tell, handleMessage, h.parsed]
  exact liveAt_handleOverride happ httl hwhy

theorem liveAt_tell_clear (slot : LedgerSlot) (key : String) :
    (l.tell trackId (buildPeerOverrideClearPayload slot.clearReason)).active.liveAt l.nowMs key =
      if clears slot.clearReason key then none else l.active.liveAt l.nowMs key := by
  have hwhy : slot.clearReason ≠ "" := by cases slot <;> decide
  have happ : (peerClear slot.clearReason).AppliesTo trackId := fun h => nomatch h.1
  rw [tell, handleMessage, parseQosOverride_clear hwhy]
  exact liveAt_handleOverride_clear happ rfl

theorem liveAt_tell_planner {data : Json} (hdata : FromPlanner data) {key : String}
    (hkey : startsWith key "server_") :
    (l.tell trackId data).active.liveAt l.nowMs key = l.active.liveAt l.nowMs key := by
  rw [tell, handleMessage]
  cases hpars : parseQosOverride data with
  | error error => rfl
  | ok override =>
    exact liveAt_handleOverride_of_not_server (hdata.not_server hpars) hkey

/-! ### Records and what the client keeps -/

structure Backed (l : Ledger) (slot : LedgerSlot) (record : AutoQosOverrideRecord)
    (o : QosOverride) : Prop where
  sends : slot.Sends o
  signature : record.signature = o.raw
  ttlMs : record.ttlMs = o.ttlMs
  live : l.active.liveAt l.nowMs o.reason =
    (some ⟨o.forPeer, record.sentAtMs + o.ttlMs⟩ : Option ActiveOverride).filter fun entry =>
      decide (l.nowMs < entry.expiresAtMs)

def AllBacked (l : Ledger) : Prop := ∀ slot, ∀ record ∈ l.record slot, ∃ o, l.Backed slot record o

theorem Backed.of_live (h : l.Backed slot record o) (hnow : l'.nowMs = l.nowMs)
    (hlive : l'.active.liveAt l.nowMs o.reason = l.active.liveAt l.nowMs o.reason) :
    l'.Backed slot record o :=
  ⟨h.sends, h.signature, h.ttlMs, by rw [hnow, hlive, h.live]⟩

variable {nowMs : ℤ}

section

variable (h : l.Backed slot record o)
include h

theorem Backed.later (hnow : l.nowMs ≤ nowMs) :
    { l with nowMs := nowMs }.Backed slot record o := by
  refine ⟨h.sends, h.signature, h.ttlMs, ?_⟩
  change l.active.liveAt nowMs o.reason = _
  rw [liveAt_later hnow, h.live, Option.filter_filter]
  congr 1
  funext entry
  rw [Bool.eq_iff_iff]
  simp only [Bool.and_eq_true, decide_eq_true_eq]
  omega

theorem Backed.holds_iff : l.active.Holds l.nowMs o ↔ l.nowMs < record.sentAtMs + o.ttlMs := by
  rw [ActiveOverrides.holds_iff h.sends.parsed, h.live]
  simp only [Option.filter_eq_some_iff, decide_eq_true_eq, Option.some.injEq]
  constructor
  · rintro ⟨_, ⟨⟩, hlive⟩
    exact hlive
  · intro hlive
    exact ⟨_, rfl, hlive⟩

theorem Backed.expired_iff (nowMs : ℤ) :
    record.expired nowMs ↔ record.sentAtMs + o.ttlMs ≤ nowMs := by
  rw [AutoQosOverrideRecord.expired, h.ttlMs]
  simp [h.sends.fields.2.1]

end

theorem AllBacked.clear (h : l.AllBacked) (slot : LedgerSlot) :
    (l.clear trackId slot).AllBacked := by
  intro slot' record hrec
  rw [record_clear] at hrec
  split at hrec
  · cases hrec
  rename_i hslot
  obtain ⟨o, ho⟩ := h slot' record hrec
  refine ⟨o, ho.of_live (clear_frame slot).2 ?_⟩
  unfold Ledger.clear
  split
  · rfl
  change (l.tell trackId _).active.liveAt l.nowMs o.reason = _
  rw [liveAt_tell_clear, ho.sends.not_cleared (Ne.symm hslot)]
  rfl

theorem AllBacked.send (h : l.AllBacked) (ho : slot.Sends o) :
    (l.send trackId slot o).AllBacked := by
  intro slot' record hrec
  have hlive : ∀ key, (l.send trackId slot o).active.liveAt l.nowMs key =
      if key = o.reason then some ⟨o.forPeer, l.nowMs + o.ttlMs⟩
      else l.active.liveAt l.nowMs key := liveAt_tell_raw ho
  rw [record_send] at hrec
  split_ifs at hrec with hslot
  · subst hslot
    cases hrec
    refine ⟨o, ho, rfl, rfl, ?_⟩
    have hnow : l.nowMs < l.nowMs + (o.ttlMs : ℤ) := by
      have hpos := ho.fields.2.1
      omega
    change (l.send trackId slot' o).active.liveAt l.nowMs o.reason = _
    rw [hlive, if_pos rfl, Option.filter_some, if_pos]
    exact decide_eq_true hnow
  · obtain ⟨o', ho'⟩ := h slot' record hrec
    refine ⟨o', ho'.of_live rfl ?_⟩
    rw [hlive, if_neg (ho'.sends.reason_ne ho hslot)]

/-! ### The invariant -/

/-- The records are backed.  One for the quality of the peer is of its last report and was sent less
than half its time to live before it, and while that report is so recent there is one. -/
structure Books (l : Ledger) : Prop where
  backed : l.AllBacked
  automatic : ∀ record ∈ l.record .automatic, ∃ entry ∈ l.report, ∃ level : DegradedLevel,
    entry.snapshot.peerQuality = level.quality ∧ record.signature = level.automatic.raw ∧
      entry.receivedAtMs < record.sentAtMs + level.halfTtlMs
  due : ∀ entry ∈ l.report, ∀ level : DegradedLevel, entry.snapshot.peerQuality = level.quality →
    l.nowMs < entry.receivedAtMs + level.halfTtlMs → (l.record .automatic).isSome = true

structure Inv (l : Ledger) : Prop extends l.Books where
  single : ∀ record ∈ l.record .automatic, l.record .roomPressure = none

theorem Inv.init (nowMs : ℤ) : Inv { nowMs := nowMs } where
  backed _ _ hrec := nomatch hrec
  automatic _ hrec := nomatch hrec
  due _ hent := nomatch hent
  single _ hrec := nomatch hrec

theorem Books.backed_automatic (h : l.Books) (hrec : l.record .automatic = some record) :
    ∃ entry ∈ l.report, ∃ level : DegradedLevel, entry.snapshot.peerQuality = level.quality ∧
      entry.receivedAtMs < record.sentAtMs + level.halfTtlMs ∧
      l.Backed .automatic record level.automatic := by
  obtain ⟨entry, hent, level, hqual, hsig, hsent⟩ := h.automatic record hrec
  obtain ⟨o, ho⟩ := h.backed .automatic record hrec
  obtain rfl : o = level.automatic :=
    ho.sends.eq_of_raw ⟨level, rfl⟩ (ho.signature.symm.trans hsig)
  exact ⟨entry, hent, level, hqual, hsent, ho⟩

variable {entry : ReportEntry}

/-- A recent report has a record, which has not run out. -/
theorem Inv.backed_recent (h : l.Inv) (hent : l.report = some entry) {level : DegradedLevel}
    (hqual : entry.snapshot.peerQuality = level.quality)
    (hrecent : l.nowMs < entry.receivedAtMs + level.halfTtlMs) :
    ∃ record, l.record .automatic = some record ∧ l.Backed .automatic record level.automatic ∧
      l.nowMs < record.sentAtMs + level.automatic.ttlMs := by
  obtain ⟨record, hrec⟩ :=
    Option.isSome_iff_exists.mp (h.due entry hent level hqual hrecent)
  obtain ⟨entry', hent', level', hqual', _, hback⟩ := h.backed_automatic hrec
  obtain rfl : entry = entry' := Option.some.inj (hent.symm.trans hent')
  obtain rfl : level = level' := DegradedLevel.quality_inj (hqual.symm.trans hqual')
  have httl := level.halfTtlMs_spec.2.2.1
  exact ⟨record, hrec, hback, by omega⟩

theorem Inv.holds (h : l.Inv) (hent : l.report = some entry) {level : DegradedLevel}
    (hqual : entry.snapshot.peerQuality = level.quality)
    (hrec : l.nowMs < entry.receivedAtMs + level.halfTtlMs) :
    l.active.Holds l.nowMs level.automatic := by
  obtain ⟨_, -, hback, hlive⟩ := h.backed_recent hent hqual hrec
  exact hback.holds_iff.mpr hlive

theorem Books.later (h : l.Books) (hnow : l.nowMs ≤ nowMs) : { l with nowMs := nowMs }.Books where
  backed slot record hrec := by
    obtain ⟨o, ho⟩ := h.backed slot record hrec
    exact ⟨o, ho.later hnow⟩
  automatic := h.automatic
  due entry hent level hqual hrecent := h.due entry hent level hqual (by
    change nowMs < _ at hrecent
    omega)

theorem Inv.later (h : l.Inv) (hnow : l.nowMs ≤ nowMs) :
    { l with nowMs := nowMs }.Inv :=
  ⟨h.toBooks.later hnow, h.single⟩

theorem Inv.quiet (h : l.Inv) {overrides : List Json}
    (hall : ∀ data ∈ overrides, FromPlanner data) : (overrides.foldl (tell trackId) l).Inv := by
  induction overrides generalizing l with
  | nil => exact h
  | cons data overrides ih =>
    obtain ⟨hdata, hall⟩ := List.forall_mem_cons.mp hall
    refine ih ⟨⟨?_, h.automatic, h.due⟩, h.single⟩ hall
    intro slot record hrec
    obtain ⟨o, ho⟩ := h.backed slot record hrec
    exact ⟨o, ho.of_live rfl (liveAt_tell_planner hdata ho.sends.fields.2.2.2)⟩

theorem recent_iff : l.recent o ↔ ∃ record, l.record .automatic = some record ∧
    record.signature = o.raw ∧ l.nowMs - record.sentAtMs < max 1000 ((record.ttlMs : ℤ) / 2) := by
  unfold recent
  cases l.record .automatic with
  | none => simp
  | some record => simp

theorem AllBacked.books_received (h : l.AllBacked) {snapshot : ClientReport}
    (hrep : l.report = some ⟨snapshot, l.nowMs⟩) : (l.maybeSendAutomatic trackId).Books := by
  unfold maybeSendAutomatic
  rw [hrep]
  obtain ⟨level, hqual, hbuild⟩ | ⟨hqual, hbuild⟩ :=
    buildForAggregate_received snapshot l.nowMs
  · have hlev : ∀ level' : DegradedLevel, snapshot.peerQuality = level'.quality →
        level' = level := fun level' h' => DegradedLevel.quality_inj (h'.symm.trans hqual)
    obtain ⟨hmax, _, -⟩ := level.halfTtlMs_spec
    rw [hbuild]
    dsimp only
    split
    next hrecent =>
      obtain ⟨record, hrec, hsig, hsent⟩ := recent_iff.mp hrecent
      -- what was sent last is the same, so it has the same time to live
      obtain ⟨o, ho⟩ := h .automatic record hrec
      obtain rfl : o = level.automatic :=
        ho.sends.eq_of_raw ⟨level, rfl⟩ (ho.signature.symm.trans hsig)
      rw [ho.ttlMs, hmax] at hsent
      refine ⟨h, ?_, ?_⟩
      · intro record' hrec'
        obtain rfl : record = record' := Option.some.inj (hrec.symm.trans hrec')
        exact ⟨_, hrep, level, hqual, hsig, by dsimp only; omega⟩
      · intro entry _ level' _ _
        rw [hrec]
        rfl
    · refine ⟨h.send ⟨level, rfl⟩, ?_, ?_⟩
      · intro record hrec
        rw [record_send, if_pos rfl] at hrec
        cases hrec
        exact ⟨_, hrep, level, hqual, rfl, by dsimp only; omega⟩
      · intro entry _ level' _ _
        rw [record_send, if_pos rfl]
        rfl
  · rw [hbuild]
    dsimp only
    refine ⟨h.clear .automatic, ?_, ?_⟩
    · intro record hrec
      rw [record_clear, if_pos rfl] at hrec
      cases hrec
    intro entry hent level hlev
    rw [(clear_frame _).1, hrep] at hent
    cases hent
    exact absurd hlev (hqual level)

theorem Books.received (h : l.Books) {own : Option ReportEntry}
    (hown : ∀ entry ∈ own, entry.receivedAtMs = l.nowMs) : (l.received trackId own).Books := by
  cases own with
  | none => exact h
  | some entry =>
    obtain ⟨snapshot, receivedAtMs⟩ := entry
    obtain rfl : receivedAtMs = l.nowMs := hown _ rfl
    have hback : { l with report := some ⟨snapshot, l.nowMs⟩ }.AllBacked := by
      intro slot record hrec
      obtain ⟨o, ho⟩ := h.backed slot record hrec
      exact ⟨o, ho.of_live rfl rfl⟩
    exact hback.books_received rfl

theorem Books.of_roomPressure (h : l.Books) (hback : l'.AllBacked)
    (hrep : l'.report = l.report)
    (hnow : l'.nowMs = l.nowMs) (hrec : l'.record .automatic = l.record .automatic) : l'.Books where
  backed := hback
  automatic := by rw [hrep, hrec]; exact h.automatic
  due := by rw [hrep, hnow, hrec]; exact h.due

theorem Books.clear_roomPressure (h : l.Books) : (l.clear trackId .roomPressure).Books :=
  h.of_roomPressure (h.backed.clear _) (clear_frame _).1 (clear_frame _).2 (by
    rw [record_clear]
    exact if_neg nofun)

theorem Books.degraded (h : l.Books) (hrec : l.record .automatic = some record) : l.degraded := by
  obtain ⟨entry, hent, _, hqual, -⟩ := h.automatic record hrec
  rw [Ledger.degraded, show l.report = some entry from hent]
  exact isPeerAlreadyDegraded_aggregate hqual l.nowMs

theorem Books.maybeSendRoomPressure (h : l.Books) {roomAutomatic : Option QosOverride}
    (hroom : ∀ automatic ∈ roomAutomatic, automatic = roomPressureOverride) :
    (l.maybeSendRoomPressure trackId roomAutomatic).Inv := by
  have hclear : (l.clear trackId .roomPressure).Inv := by
    refine ⟨h.clear_roomPressure, fun _ _ => ?_⟩
    rw [record_clear, if_pos rfl]
  cases roomAutomatic with
  | none => exact hclear
  | some automatic =>
    obtain rfl := hroom automatic rfl
    unfold Ledger.maybeSendRoomPressure
    dsimp only
    split
    · exact hclear
    rename_i hspar
    have hnone : ∀ record, l.record .automatic ≠ some record :=
      fun record hrec => hspar (h.degraded hrec)
    split
    · exact ⟨h, fun record hrec => absurd hrec (hnone record)⟩
    have hoth : (l.send trackId .roomPressure roomPressureOverride).record .automatic =
        l.record .automatic := by
      rw [record_send]
      exact if_neg nofun
    refine ⟨h.of_roomPressure (h.backed.send rfl) rfl rfl hoth, fun record hrec => ?_⟩
    rw [hoth] at hrec
    exact absurd hrec (hnone record)

theorem record_cleanupExpired (slot : LedgerSlot) : l.cleanupExpired.record slot =
      (l.record slot).filter fun record => !record.expired l.nowMs := rfl

theorem hasExpired_iff : l.HasExpired ↔ ∃ slot record, l.record slot = some record ∧
    record.expired l.nowMs := by
  constructor
  · rintro (h | h)
    · cases hrec : l.record .automatic with
      | none => rw [hrec] at h; cases h
      | some record => exact ⟨_, record, hrec, by rwa [hrec] at h⟩
    · cases hrec : l.record .roomPressure with
      | none => rw [hrec] at h; cases h
      | some record => exact ⟨_, record, hrec, by rwa [hrec] at h⟩
  · rintro ⟨slot, record, hrec, hexp⟩
    cases slot with
    | automatic => exact .inl (by rw [hrec]; exact hexp)
    | roomPressure => exact .inr (by rw [hrec]; exact hexp)

theorem Inv.cleanupExpired (h : l.Inv) : l.cleanupExpired.Inv := by
  have hkept : ∀ slot record, l.cleanupExpired.record slot = some record →
      l.record slot = some record ∧ record.expired l.nowMs = false := by
    intro slot record hrec
    rw [record_cleanupExpired, Option.filter_eq_some_iff, Bool.not_eq_true'] at hrec
    exact hrec
  refine ⟨⟨?_, ?_, ?_⟩, ?_⟩
  · intro slot record hrec
    obtain ⟨hrec, hexp⟩ := hkept slot record hrec
    obtain ⟨o, ho⟩ := h.backed slot record hrec
    refine ⟨o, ho.of_live rfl ?_⟩
    -- the clear would be for the other record
    have hnone : ¬l.HasExpired := by
      rw [hasExpired_iff]
      rintro ⟨slot', record', hrec', hexp'⟩
      cases slot <;> cases slot'
      · rw [Option.some.inj (hrec.symm.trans hrec'), hexp'] at hexp
        cases hexp
      · rw [h.single record hrec] at hrec'
        cases hrec'
      · rw [h.single record' hrec'] at hrec
        cases hrec
      · rw [Option.some.inj (hrec.symm.trans hrec'), hexp'] at hexp
        cases hexp
    simp only [Ledger.cleanupExpired, if_neg hnone]
  · intro record hrec
    exact h.automatic record (hkept _ _ hrec).1
  · intro entry hent level hqual hrecent
    obtain ⟨record, hrec, hback, hlive⟩ := h.backed_recent hent hqual hrecent
    have hexp : ¬record.expired l.nowMs := by
      rw [hback.expired_iff]
      exact not_le.mpr hlive
    rw [record_cleanupExpired, hrec, Option.filter_some, if_pos (by simpa using hexp)]
    rfl
  · intro record hrec
    rw [record_cleanupExpired, h.single record (hkept _ _ hrec).1]
    rfl

theorem Inv.cleanup (h : l.Inv) (due : Bool) : (l.cleanup due).Inv := by
  cases due with
  | false => exact h
  | true => exact h.cleanupExpired

theorem Inv.step (h : l.Inv) (hnow : l.nowMs ≤ nowMs) {e : LedgerEvent}
    (hleg : e.Legal l nowMs) : (l.step trackId nowMs e).Inv := by
  have hlater := h.later hnow
  cases e with
  | quiet overrides => exact hlater.quiet hleg
  | start =>
    have hnone : ∀ slot record, l.record slot ≠ some record := by
      intro slot record hrec
      rw [hleg slot] at hrec
      cases hrec
    exact ⟨⟨fun slot record hrec => absurd hrec (hnone slot record), hlater.automatic,
      hlater.due⟩, hlater.single⟩
  | forget =>
    refine ⟨⟨?_, ?_, ?_⟩, ?_⟩
    · intro slot record hrec
      cases hrec
    · intro record hrec
      cases hrec
    · intro entry hent
      cases hent
    · intro record hrec
      cases hrec
  | stats own roomAutomatic due =>
    exact ((hlater.toBooks.received hleg.1).maybeSendRoomPressure hleg.2).cleanup due
  | elsewhere due => exact hlater.cleanup due

/-! ### A room that stays under pressure -/

theorem maybeSendAutomatic_frame : (l.maybeSendAutomatic trackId).report = l.report ∧
      (l.maybeSendAutomatic trackId).nowMs = l.nowMs := by
  unfold maybeSendAutomatic
  split
  · exact clear_frame _
  · split <;> exact ⟨rfl, rfl⟩

theorem record_received_roomPressure (own : Option ReportEntry) :
    (l.received trackId own).record .roomPressure = l.record .roomPressure := by
  cases own with
  | none => rfl
  | some entry =>
    unfold received
    dsimp only
    unfold maybeSendAutomatic
    split
    · rw [record_clear]
      exact if_neg nofun
    split
    · rfl
    · rw [record_send]
      exact if_neg nofun

theorem maybeSendRoomPressure_frame (roomAutomatic : Option QosOverride) :
    (l.maybeSendRoomPressure trackId roomAutomatic).report = l.report ∧
      (l.maybeSendRoomPressure trackId roomAutomatic).nowMs = l.nowMs := by
  cases roomAutomatic with
  | none => exact clear_frame _
  | some automatic =>
    unfold maybeSendRoomPressure
    dsimp only
    split
    · exact clear_frame _
    · split <;> exact ⟨rfl, rfl⟩

theorem cleanup_frame (due : Bool) :
    (l.cleanup due).report = l.report ∧ (l.cleanup due).nowMs = l.nowMs := by
  cases due <;> exact ⟨rfl, rfl⟩

theorem received_frame (own : Option ReportEntry) :
    (l.received trackId own).report = own.or l.report ∧
      (l.received trackId own).nowMs = l.nowMs := by
  cases own with
  | none => exact ⟨rfl, rfl⟩
  | some entry => exact maybeSendAutomatic_frame

theorem report_stats (nowMs : ℤ) (own : Option ReportEntry) (roomAutomatic : Option QosOverride)
    (due : Bool) :
    (l.step trackId nowMs (.stats own roomAutomatic due)).report = own.or l.report := by
  rw [step, (cleanup_frame due).1, (maybeSendRoomPressure_frame _).1, (received_frame own).1]

theorem fields_quiet (overrides : List Json) (l : Ledger) :
    (overrides.foldl (tell trackId) l).record = l.record ∧
      (overrides.foldl (tell trackId) l).report = l.report ∧
      (overrides.foldl (tell trackId) l).nowMs = l.nowMs := by
  induction overrides generalizing l with
  | nil => exact ⟨rfl, rfl, rfl⟩
  | cons data overrides ih => exact ih (l.tell trackId data)

theorem report_step {e : LedgerEvent} (hleg : e.Legal l nowMs)
    (h : (l.step trackId nowMs e).report = some entry) :
    l.report = some entry ∨ entry.receivedAtMs = nowMs := by
  cases e with
  | quiet overrides =>
    obtain ⟨-, hrep, -⟩ := @fields_quiet trackId overrides { l with nowMs := nowMs }
    exact .inl (hrep.symm.trans h)
  | start => exact .inl h
  | forget => cases h
  | stats own roomAutomatic due =>
    rw [report_stats] at h
    cases own with
    | none => exact .inl h
    | some own => exact .inr (hleg.1 entry h)
  | elsewhere due =>
    rw [step, (cleanup_frame due).1] at h
    exact .inl h

theorem degraded_congr (hrep : l'.report = l.report) (hnow : l'.nowMs = l.nowMs) :
    l'.degraded = l.degraded := by
  rw [degraded, degraded, hrep, hnow]

theorem AllBacked.record_maybeSendRoomPressure (h : l.AllBacked) (hspar : l.degraded = false) :
    (l.maybeSendRoomPressure trackId (some roomPressureOverride)).record .roomPressure =
      some ((l.record .roomPressure).getD
        ⟨roomPressureOverride.raw, l.nowMs, roomPressureOverride.ttlMs⟩) := by
  unfold maybeSendRoomPressure
  dsimp only
  rw [hspar, if_neg Bool.false_ne_true]
  cases hrec : l.record .roomPressure with
  | none =>
    rw [Option.any_none, if_neg Bool.false_ne_true, record_send, if_pos rfl]
    rfl
  | some record =>
    obtain ⟨o, ho⟩ := h .roomPressure record hrec
    have hsame : record.signature = roomPressureOverride.raw := by
      rw [ho.signature, show o = roomPressureOverride from ho.sends]
    rw [Option.any_some, if_pos (decide_eq_true hsame), hrec]
    rfl

end Ledger

def LedgerEvent.Presses : LedgerEvent → Prop
  | .quiet _ | .start | .elsewhere _ => True
  | .forget => False
  | .stats _ roomAutomatic _ => roomAutomatic = some roomPressureOverride

def LedgerEvent.IsStats : LedgerEvent → Prop
  | .stats .. => True
  | _ => False

namespace Ledger

variable {trackId : String} {l l' : Ledger} {record : AutoQosOverrideRecord} {nowMs : ℤ}
  {e : LedgerEvent}

theorem Inv.exists_record (h : l.Inv) (hnow : l.nowMs ≤ nowMs) (hleg : e.Legal l nowMs)
    (hpress : e.Presses) (hspar : (l.step trackId nowMs e).degraded = false)
    (hrec : e.IsStats ∨ (l.record .roomPressure).isSome) :
    ∃ (l' : Ledger) (due : Bool) (record : AutoQosOverrideRecord),
      l.step trackId nowMs e = l'.cleanup due ∧ l'.Inv ∧ l'.nowMs = nowMs ∧
        l'.record .roomPressure = some record ∧
        ∀ old, l.record .roomPressure = some old → record = old := by
  have hlater := h.later hnow
  cases e with
  | forget => exact absurd hpress not_false
  | start =>
    rw [hleg .roomPressure] at hrec
    exact absurd hrec (by simp [LedgerEvent.IsStats])
  | quiet overrides =>
    obtain ⟨record, hold⟩ := Option.isSome_iff_exists.mp (hrec.resolve_left not_false)
    obtain ⟨hrecs, -, hnowMs⟩ :=
      @fields_quiet trackId overrides { l with nowMs := nowMs }
    refine ⟨_, false, record, rfl, hlater.quiet hleg, hnowMs, ?_, ?_⟩
    · rw [hrecs]
      exact hold
    · intro old hold'
      exact Option.some.inj (hold.symm.trans hold')
  | elsewhere due =>
    obtain ⟨record, hold⟩ := Option.isSome_iff_exists.mp (hrec.resolve_left not_false)
    exact ⟨_, due, record, rfl, hlater, rfl, hold,
      fun old hold' => Option.some.inj (hold.symm.trans hold')⟩
  | stats own roomAutomatic due =>
    obtain rfl := hpress
    have hbooks : ({ l with nowMs := nowMs }.received trackId own).Books :=
      hlater.toBooks.received hleg.1
    -- what is decided on is not changed by the decisions
    have hdegraded : ({ l with nowMs := nowMs }.received trackId own).degraded = false := by
      refine Eq.trans (degraded_congr ?_ ?_) hspar
      · rw [Ledger.step, (cleanup_frame due).1, (maybeSendRoomPressure_frame _).1]
      · rw [Ledger.step, (cleanup_frame due).2, (maybeSendRoomPressure_frame _).2]
    refine ⟨_, due, _, rfl, hbooks.maybeSendRoomPressure hleg.2, ?_,
      hbooks.backed.record_maybeSendRoomPressure hdegraded, ?_⟩
    · rw [(maybeSendRoomPressure_frame _).2, (received_frame own).2]
    intro old hold
    rw [record_received_roomPressure, show l.record .roomPressure = some old from hold]
    rfl

theorem Inv.cleanup_roomPressure (h : l.Inv) (hrec : l.record .roomPressure = some record)
    (due : Bool) : ((l.cleanup due).active.Holds l.nowMs roomPressureOverride ↔
      l.nowMs < record.sentAtMs + roomPressureOverride.ttlMs) ∧
      (l.nowMs < record.sentAtMs + roomPressureOverride.ttlMs →
        (l.cleanup due).record .roomPressure = some record) ∧
      ∀ kept, (l.cleanup due).record .roomPressure = some kept → kept = record := by
  obtain ⟨o, ho⟩ := h.backed .roomPressure record hrec
  obtain rfl : o = roomPressureOverride := ho.sends
  cases due with
  | false =>
    exact ⟨ho.holds_iff, fun _ => hrec, fun kept hkept => Option.some.inj (hkept.symm.trans hrec)⟩
  | true =>
    change (l.cleanupExpired.active.Holds l.nowMs roomPressureOverride ↔ _) ∧ _
    by_cases hlive : l.nowMs < record.sentAtMs + roomPressureOverride.ttlMs
    · have hexp : record.expired l.nowMs = false := by
        rw [← Bool.not_eq_true, ho.expired_iff]
        omega
      have hkept : l.cleanupExpired.record .roomPressure = some record := by
        rw [record_cleanupExpired, hrec, Option.filter_some, hexp]
        rfl
      obtain ⟨o, ho'⟩ := h.cleanupExpired.backed .roomPressure record hkept
      obtain rfl : o = roomPressureOverride := ho'.sends
      exact ⟨ho'.holds_iff, fun _ => hkept, fun kept h' => Option.some.inj (h'.symm.trans hkept)⟩
    · -- the clear takes everything
      have hexp : record.expired l.nowMs := by
        rw [ho.expired_iff]
        omega
      have hemp : l.cleanupExpired.active = ∅ :=
        if_pos (hasExpired_iff.mpr ⟨_, record, hrec, hexp⟩)
      have hgone : l.cleanupExpired.record .roomPressure = none := by
        rw [record_cleanupExpired, hrec, Option.filter_some, hexp]
        rfl
      refine ⟨⟨?_, fun h' => absurd h' hlive⟩, fun h' => absurd h' hlive, ?_⟩
      · rintro ⟨_, hent, -⟩
        rw [hemp] at hent
        cases hent
      · intro kept hkept
        cases hgone.symm.trans hkept

end Ledger

end MediasoupCpp
