import Mathlib.Data.List.TakeWhile
import MediasoupCpp.Lib.Run
import MediasoupCpp.Qos.OverrideClient

/-!
# Keeping a paused publisher paused

In every planning pass the server asks for the overrides anew.  It remembers what it has sent, and
sends an override again only if it differs from the last one in its slot or if that one has
expired — strictly later than its time to live.

Main result: `paused_iff`.

Source: `src/RoomServiceDownlink.cpp`, `src/RoomDownlinkHelpers.h`, `src/RoomStatsQosHelpers.h`,
`src/qos/PublisherSupplyController.cpp`, `src/client/lib/qos/controller.js`.
-/

namespace MediasoupCpp

open List Runs Dict AList Option ActiveOverrides

/-! ### The server -/

inductive OverrideSlot
  | pauseUpstream
  | resumeUpstream
  | maxLevelClamp
  deriving DecidableEq

def pauseReason : String := "downlink_v3_zero_demand_pause"

def resolveOverrideSlot (o : QosOverride) : OverrideSlot :=
  if o.pauseUpstream.isSome || o.reason == "downlink_v3_zero_demand_pause" then .pauseUpstream
  else if o.resumeUpstream.isSome || o.reason == "downlink_v3_demand_resumed" then .resumeUpstream
  else .maxLevelClamp

/-- The key of a record.  The source joins the parts by slashes; neither room and peer
ids nor slots have any, so the joined text determines its parts. -/
structure TrackOverrideKey where
  roomId : String
  peerId : String
  trackId : String
  slot : OverrideSlot
  deriving DecidableEq

structure TrackQosOverrideRecord where
  /-- The source compares the texts of the objects. -/
  signature : Json
  sentAtMs : ℤ
  ttlMs : ℕ
  deriving DecidableEq

def TrackQosOverrideRecord.expired (r : TrackQosOverrideRecord) (nowMs : ℤ) : Bool :=
  0 < r.ttlMs && r.ttlMs < nowMs - r.sentAtMs

abbrev OverrideRecords : Type := Dict TrackOverrideKey TrackQosOverrideRecord

variable (records : OverrideRecords)

def cleanupExpiredTrackOverrideRecords (nowMs : ℤ) : OverrideRecords :=
  records.filter fun _ r => !r.expired nowMs

variable (roomId : String)

def overrideKey (t : TargetedOverride) : TrackOverrideKey :=
  ⟨roomId, t.targetPeerId, t.overrideData.trackId.getD "", resolveOverrideSlot t.overrideData⟩

def alreadySent (nowMs : ℤ) (t : TargetedOverride) : Bool :=
  match records.lookup (overrideKey roomId t) with
  | some r => !r.expired nowMs && r.signature == t.overrideData.raw
  | none => false

def maybeSendTrackQosOverride (nowMs : ℤ) (t : TargetedOverride) :
    OverrideRecords × Option Json :=
  if alreadySent records roomId nowMs t then (records, none)
  else
    (records.insert (overrideKey roomId t) ⟨t.overrideData.raw, nowMs, t.overrideData.ttlMs⟩,
      some t.overrideData.raw)

/-! ### Server and client -/

structure PublisherTrack where
  roomId : String
  peerId : String
  trackId : String

structure OverrideChannel where
  records : OverrideRecords := ∅
  active : ActiveOverrides := ∅
  clock : ℤ

inductive OverrideEvent
  | pass (roomId : String) (nowMs : ℤ) (states : List ProducerDemandState)
      (resolveTrack : String → Option (String × String))
  /-- The controller asks for the override in force, which drops what has expired. -/
  | sample (nowMs : ℤ)

def OverrideEvent.nowMs : OverrideEvent → ℤ
  | .pass _ nowMs _ _ => nowMs
  | .sample nowMs => nowMs

section Channel

variable (addr : PublisherTrack)

def sendOverride (roomId : String) (ch : OverrideChannel) (t : TargetedOverride) :
    OverrideChannel :=
  match maybeSendTrackQosOverride ch.records roomId ch.clock t with
  | (records, none) => { ch with records := records }
  | (records, some raw) =>
    { ch with
      records := records
      active :=
        if roomId = addr.roomId ∧ t.targetPeerId = addr.peerId then
          ch.active.handleMessage ch.clock addr.trackId raw
        else ch.active }

def applyPublisherSupplyPlan (roomId : String) (nowMs : ℤ) (states : List ProducerDemandState)
    (resolveTrack : String → Option (String × String)) (ch : OverrideChannel) : OverrideChannel :=
  (buildOverrides states resolveTrack nowMs).foldl (sendOverride addr roomId)
    { ch with records := cleanupExpiredTrackOverrideRecords ch.records nowMs, clock := nowMs }

variable (ch : OverrideChannel)

def overrideStep : OverrideEvent → OverrideChannel
  | .pass roomId nowMs states resolveTrack =>
    applyPublisherSupplyPlan addr roomId nowMs states resolveTrack ch
  | .sample nowMs => { ch with active := ch.active.purge nowMs, clock := nowMs }

def InTime (e : OverrideEvent) : Prop := ch.clock ≤ e.nowMs

def pauseOf : QosOverride := makeTrackPause addr.trackId 5000

def pauseKey : TrackOverrideKey := ⟨addr.roomId, addr.peerId, addr.trackId, .pauseUpstream⟩

def pauseSentAt (nowMs : ℤ) : ℤ :=
  match ch.records.lookup (pauseKey addr) with
  | some r => if r.signature = (pauseOf addr).raw ∧ !r.expired nowMs then r.sentAtMs else nowMs
  | none => nowMs

def PausedIn (producerId : String) : OverrideEvent → Prop
  | .pass roomId _ states resolveTrack =>
    roomId = addr.roomId →
      resolveTrack producerId = some (addr.peerId, addr.trackId) ∧
        (∃ state ∈ states, state.producerId = producerId) ∧
          ∀ state ∈ states, resolveTrack state.producerId = some (addr.peerId, addr.trackId) →
            state.supplyState = .paused
  | .sample _ => True

end Channel

/-! ### The overrides of one track -/

section Overrides

variable {state : ProducerDemandState} {trackId : String} {o : QosOverride}

section

variable (h : o ∈ trackOverrides state trackId)
include h

theorem mem_trackOverrides_cases : (∃ reason, reason ≠ "" ∧ o = makeTrackClear trackId reason) ∨
      (∃ n reason, (reason = "downlink_v2_zero_demand_hold" ∨ reason = "downlink_v2_room_demand") ∧
        o = makeTrackClamp trackId n 5000 reason) ∨
        o = makeTrackPause trackId 5000 ∨ o = makeTrackResume trackId 5000 := by
  unfold trackOverrides at h
  cases hst : state.supplyState with
  | paused =>
    rw [hst] at h
    rcases mem_pair.mp h with rfl | rfl
    · exact .inl ⟨_, by decide, rfl⟩
    · exact .inr (.inr (.inl rfl))
  | resumeWarmup =>
    rw [hst] at h
    rcases mem_pair.mp h with rfl | rfl
    · exact .inl ⟨_, by decide, rfl⟩
    · exact .inr (.inr (.inr rfl))
  | zeroDemandHold =>
    rw [hst] at h
    exact .inr (.inl ⟨_, _, .inl rfl, mem_singleton.mp h⟩)
  | lowClamped =>
    rw [hst] at h
    simp only at h
    split at h
    · exact .inr (.inl ⟨_, _, .inr rfl, mem_singleton.mp h⟩)
    · cases h
  | active =>
    rw [hst] at h
    exact .inl ⟨_, by decide, mem_singleton.mp h⟩

theorem trackId_of_mem : o.trackId = some trackId := by
  obtain ⟨reason, -, rfl⟩ | ⟨_, reason, -, rfl⟩ | rfl | rfl := mem_trackOverrides_cases h
  all_goals rfl

theorem of_slot_pauseUpstream (hslot : resolveOverrideSlot o = .pauseUpstream) :
    o = makeTrackPause trackId 5000 ∨ o = makeTrackClear trackId pauseReason := by
  obtain ⟨reason, -, rfl⟩ | ⟨_, reason, hwhy, rfl⟩ | rfl | rfl := mem_trackOverrides_cases h
  · refine .inr ?_
    by_cases hwhy : reason = pauseReason
    · rw [hwhy]
    have hne : (reason == "downlink_v3_zero_demand_pause") = false :=
      beq_eq_false_iff_ne.mpr hwhy
    simp only [resolveOverrideSlot, makeTrackClear, isSome_none, Bool.false_or, hne,
      Bool.false_eq_true, if_false] at hslot
    split at hslot <;> exact OverrideSlot.noConfusion hslot
  · rcases hwhy with rfl | rfl
    all_goals exact absurd hslot (by simp [resolveOverrideSlot, makeTrackClamp])
  · exact .inl rfl
  · exact absurd hslot (by simp [resolveOverrideSlot, makeTrackResume])

theorem of_slot_ne_pauseUpstream (hslot : resolveOverrideSlot o ≠ .pauseUpstream)
    (httl : o.ttlMs ≠ 0) : o.reason ≠ pauseReason ∧ o.toClient.pauseUpstream ≠ some true := by
  obtain ⟨reason, -, rfl⟩ | ⟨_, reason, hwhy, rfl⟩ | rfl | rfl := mem_trackOverrides_cases h
  · exact absurd rfl httl
  · refine ⟨?_, nofun⟩
    rcases hwhy with rfl | rfl
    · exact (by decide : "downlink_v2_zero_demand_hold" ≠ pauseReason)
    · exact (by decide : "downlink_v2_room_demand" ≠ pauseReason)
  · exact absurd rfl hslot
  · exact ⟨(by decide : "downlink_v3_demand_resumed" ≠ pauseReason), nofun⟩

theorem ttlMs_of_mem (httl : o.ttlMs ≠ 0) : o.ttlMs = 5000 ∧ o.reason ≠ "" ∧ o.scope = .track := by
  obtain ⟨reason, -, rfl⟩ | ⟨_, reason, hwhy, rfl⟩ | rfl | rfl := mem_trackOverrides_cases h
  · exact absurd rfl httl
  · refine ⟨rfl, ?_, rfl⟩
    rcases hwhy with rfl | rfl
    · exact (by decide : "downlink_v2_zero_demand_hold" ≠ "")
    · exact (by decide : "downlink_v2_room_demand" ≠ "")
  · exact ⟨rfl, (by decide : "downlink_v3_zero_demand_pause" ≠ ""), rfl⟩
  · exact ⟨rfl, (by decide : "downlink_v3_demand_resumed" ≠ ""), rfl⟩

theorem parseQosOverride_of_mem (htr : trackId ≠ "") (httl : o.ttlMs ≠ 0) :
    parseQosOverride o.raw = .ok o.toClient := by
  obtain ⟨reason, -, rfl⟩ | ⟨n, reason, hwhy, rfl⟩ | rfl | rfl := mem_trackOverrides_cases h
  · exact absurd rfl httl
  · refine parseQosOverride_makeTrackClamp htr ?_ n 5000
    rcases hwhy with rfl | rfl <;> decide
  · exact parseQosOverride_makeTrackPause htr 5000
  · exact parseQosOverride_makeTrackResume htr 5000

end

theorem parseQosOverride_unnamed (field : String × Json) (ttlMs : ℕ) (reason : String) :
    parseQosOverride (.obj (trackFields "" field ttlMs reason)) =
      .error "qosOverride.trackId must be a non-empty string" :=
  rfl

theorem parseQosOverride_error_of_mem (h : o ∈ trackOverrides state trackId)
    (hbad : trackId = "" ∨ o.ttlMs = 0) : ∃ error, parseQosOverride o.raw = .error error := by
  by_cases htr : trackId = ""
  · subst htr
    obtain ⟨reason, -, rfl⟩ | ⟨n, reason, -, rfl⟩ | rfl | rfl := mem_trackOverrides_cases h
    all_goals exact ⟨_, parseQosOverride_unnamed _ _ _⟩
  have httl := hbad.resolve_left htr
  obtain ⟨reason, hwhy, rfl⟩ | ⟨n, reason, -, rfl⟩ | rfl | rfl := mem_trackOverrides_cases h
  · exact ⟨_, parseQosOverride_makeTrackClear htr hwhy⟩
  all_goals cases httl

theorem handleMessage_of_mem (active : ActiveOverrides) (nowMs : ℤ) {track : String}
    (htr : track ≠ "") (h : o ∈ trackOverrides state trackId) :
    active.handleMessage nowMs track o.raw = if trackId = track ∧ o.ttlMs ≠ 0 then
        ActiveOverrides.purge (active.set o.reason ⟨o.toClient, nowMs + 5000⟩) nowMs
      else active := by
  by_cases hbad : trackId = "" ∨ o.ttlMs = 0
  · obtain ⟨_, hparse⟩ := parseQosOverride_error_of_mem h hbad
    rw [handleMessage, hparse, if_neg]
    rintro ⟨rfl, httl⟩
    exact hbad.elim htr httl
  rw [not_or] at hbad
  obtain ⟨httl, hwhy, hsc⟩ := ttlMs_of_mem h hbad.2
  have htrackId : o.toClient.trackId = some (some trackId) := by
    rw [QosOverride.toClient, trackId_of_mem h]
    rfl
  have hsc : o.toClient.scope = .track := hsc
  have httl' : o.toClient.ttlMs = 5000 := httl
  have hwhy' : o.toClient.reason = o.reason := rfl
  rw [handleMessage, parseQosOverride_of_mem h hbad.1 hbad.2]
  simp only [handleOverride, hsc, htrackId, httl', hwhy', hwhy,
    true_and, ne_eq, some.injEq, hbad.2, not_false_eq_true, and_true, if_false,
    OfNat.ofNat_ne_zero]
  by_cases hmine : trackId = track <;> simp [hmine]

end Overrides

/-! ### The client keeps the pause the server remembers -/

/-- If the pause of the track is the last override the server has sent in its slot, the
client keeps it until it expires; nothing else that it keeps is a pause. -/
structure Linked (addr : PublisherTrack) (ch : OverrideChannel) : Prop where
  others : ∀ key entry, ch.active.lookup key = some entry → key ≠ pauseReason →
    entry.data.pauseUpstream ≠ some true
  ttlMs : ∀ r, ch.records.lookup (pauseKey addr) = some r → r.signature = (pauseOf addr).raw →
    r.ttlMs = 5000
  sentAtMs : ∀ r, ch.records.lookup (pauseKey addr) = some r → r.signature = (pauseOf addr).raw →
    r.sentAtMs ≤ ch.clock
  kept : ∀ r, ch.records.lookup (pauseKey addr) = some r → r.signature = (pauseOf addr).raw →
    ∀ entry, ch.active.lookup pauseReason = some entry →
      entry.data.pauseUpstream = some true ∧ entry.expiresAtMs = r.sentAtMs + 5000
  dropped : ∀ r, ch.records.lookup (pauseKey addr) = some r → r.signature = (pauseOf addr).raw →
    ch.active.lookup pauseReason = none → r.sentAtMs + 5000 ≤ ch.clock

section Link

variable {addr : PublisherTrack} {ch : OverrideChannel}

theorem linked_init (clock : ℤ) : Linked addr { clock := clock } where
  others _ _ hent := nomatch hent
  ttlMs _ hr := nomatch hr
  sentAtMs _ hr := nomatch hr
  kept _ hr := nomatch hr
  dropped _ hr := nomatch hr

section

variable (h : Linked addr ch)
include h

theorem Linked.of_records {records : OverrideRecords}
    (hrecs : ∀ r, records.lookup (pauseKey addr) = some r → r.signature = (pauseOf addr).raw →
      ch.records.lookup (pauseKey addr) = some r) : Linked addr { ch with records := records } where
  others := h.others
  ttlMs r hr hsig := h.ttlMs r (hrecs r hr hsig) hsig
  sentAtMs r hr hsig := h.sentAtMs r (hrecs r hr hsig) hsig
  kept r hr hsig := h.kept r (hrecs r hr hsig) hsig
  dropped r hr hsig := h.dropped r (hrecs r hr hsig) hsig

theorem Linked.tick {nowMs : ℤ} (hnow : ch.clock ≤ nowMs) :
    Linked addr { ch with clock := nowMs } :=
  { h with
    sentAtMs := fun r hr hsig => (h.sentAtMs r hr hsig).trans hnow
    dropped := fun r hr hsig hnone => (h.dropped r hr hsig hnone).trans hnow }

theorem Linked.purge :
    Linked addr { ch with active := ch.active.purge ch.clock } where
  others key entry hent := by
    rw [lookup_purge, filter_eq_some_iff] at hent
    exact h.others key entry hent.1
  ttlMs := h.ttlMs
  sentAtMs := h.sentAtMs
  kept r hr hsig entry hent := by
    rw [lookup_purge, filter_eq_some_iff] at hent
    exact h.kept r hr hsig entry hent.1
  dropped r hr hsig hnone := by
    rw [lookup_purge] at hnone
    cases hent : ch.active.lookup pauseReason with
    | none => exact h.dropped r hr hsig hent
    | some entry =>
      -- it was kept until now, so it has expired
      rw [hent, filter_eq_none_iff] at hnone
      have hexp := hnone entry rfl
      rw [← (h.kept r hr hsig entry hent).2]
      simpa using hexp

theorem Linked.set_other {reason : String} (hwhy : reason ≠ pauseReason)
    {entry : ActiveOverride} (hent : entry.data.pauseUpstream ≠ some true) :
    Linked addr { ch with active := ch.active.set reason entry } where
  others key entry' hlook hkey := by
    rw [lookup_set] at hlook
    split at hlook
    · cases hlook
      exact hent
    · exact h.others key entry' hlook hkey
  ttlMs := h.ttlMs
  sentAtMs := h.sentAtMs
  kept r hr hsig entry' hlook := by
    rw [lookup_set, if_neg (Ne.symm hwhy)] at hlook
    exact h.kept r hr hsig entry' hlook
  dropped r hr hsig hnone := by
    rw [lookup_set, if_neg (Ne.symm hwhy)] at hnone
    exact h.dropped r hr hsig hnone

theorem Linked.set_pause :
    Linked addr { ch with
      records := ch.records.insert (pauseKey addr) ⟨(pauseOf addr).raw, ch.clock, 5000⟩
      active := ch.active.set pauseReason ⟨(pauseOf addr).toClient, ch.clock + 5000⟩ } where
  others key entry hlook hkey := by
    rw [lookup_set, if_neg hkey] at hlook
    exact h.others key entry hlook hkey
  ttlMs r hr _ := by
    rw [lookup_insert] at hr
    cases hr
    rfl
  sentAtMs r hr _ := by
    rw [lookup_insert] at hr
    cases hr
    exact le_rfl
  kept r hr _ entry hlook := by
    rw [lookup_insert] at hr
    rw [lookup_set, if_pos rfl] at hlook
    cases hr
    cases hlook
    exact ⟨rfl, rfl⟩
  dropped r _ _ hnone := by
    rw [lookup_set, if_pos rfl] at hnone
    cases hnone

end

def OverrideChannel.note (ch : OverrideChannel) (key : TrackOverrideKey)
    (r : TrackQosOverrideRecord) : OverrideChannel :=
  { ch with records := ch.records.insert key r }

theorem Linked.note_other (h : Linked addr ch) {key : TrackOverrideKey}
    (hkey : key ≠ pauseKey addr) (r : TrackQosOverrideRecord) : Linked addr (ch.note key r) := by
  refine h.of_records fun r' hr' _ => ?_
  rwa [lookup_insert_ne (Ne.symm hkey)] at hr'

theorem sendOverride_eq (addr : PublisherTrack) (roomId : String) (ch : OverrideChannel)
    (t : TargetedOverride) : sendOverride addr roomId ch t =
      if alreadySent ch.records roomId ch.clock t then ch
      else
        { ch.note (overrideKey roomId t) ⟨t.overrideData.raw, ch.clock, t.overrideData.ttlMs⟩ with
          active :=
            if roomId = addr.roomId ∧ t.targetPeerId = addr.peerId then
              ch.active.handleMessage ch.clock addr.trackId t.overrideData.raw
            else ch.active } := by
  unfold sendOverride maybeSendTrackQosOverride
  by_cases hsent : alreadySent ch.records roomId ch.clock t
  · simp [hsent]
  · simp [hsent, OverrideChannel.note]

theorem makeTrackClear_raw_ne (trackId reason : String) :
    (makeTrackClear trackId reason).raw ≠ (makeTrackPause trackId 5000).raw := by
  simp [makeTrackClear, makeTrackPause, trackFields]

variable {state : ProducerDemandState} {roomId peerId trackId : String} {o : QosOverride}

theorem overrideKey_eq_pauseKey_iff (h : o ∈ trackOverrides state trackId) :
    overrideKey roomId ⟨peerId, o⟩ = pauseKey addr ↔
      roomId = addr.roomId ∧ peerId = addr.peerId ∧ trackId = addr.trackId ∧
        resolveOverrideSlot o = .pauseUpstream := by
  simp [overrideKey, pauseKey, trackId_of_mem h]

theorem Linked.send_own (h : Linked addr ch) (ho : o ∈ trackOverrides state addr.trackId)
    (nowMs : ℤ) (hnow : ch.clock = nowMs) :
    Linked addr { ch.note (overrideKey addr.roomId ⟨addr.peerId, o⟩) ⟨o.raw, nowMs, o.ttlMs⟩ with
      active :=
        if o.ttlMs ≠ 0 then
          ActiveOverrides.purge (ch.active.set o.reason ⟨o.toClient, nowMs + 5000⟩) nowMs
        else ch.active } := by
  subst hnow
  by_cases hslot : resolveOverrideSlot o = .pauseUpstream
  · have hkey : overrideKey addr.roomId ⟨addr.peerId, o⟩ = pauseKey addr :=
      (overrideKey_eq_pauseKey_iff ho).mpr ⟨rfl, rfl, rfl, hslot⟩
    rw [hkey]
    rcases of_slot_pauseUpstream ho hslot with rfl | rfl
    · exact h.set_pause.purge
    -- the record is that of the clear, which the client cannot read
    refine h.of_records fun r hr hsig => ?_
    rw [OverrideChannel.note, lookup_insert] at hr
    cases hr
    exact absurd hsig (makeTrackClear_raw_ne _ _)
  · have hkey : overrideKey addr.roomId ⟨addr.peerId, o⟩ ≠ pauseKey addr :=
      fun hkey => hslot ((overrideKey_eq_pauseKey_iff ho).mp hkey).2.2.2
    have hnote := h.note_other hkey ⟨o.raw, ch.clock, o.ttlMs⟩
    split
    next httl =>
      obtain ⟨hwhy, hpause⟩ := of_slot_ne_pauseUpstream ho hslot httl
      have hent : (ActiveOverride.mk o.toClient (ch.clock + 5000)).data.pauseUpstream ≠
        some true := hpause
      exact (hnote.set_other hwhy hent).purge
    · exact hnote

theorem Linked.send (h : Linked addr ch) (htr : addr.trackId ≠ "")
    (ho : o ∈ trackOverrides state trackId) :
    Linked addr (sendOverride addr roomId ch ⟨peerId, o⟩) := by
  rw [sendOverride_eq]
  split
  · exact h
  simp only [handleMessage_of_mem ch.active ch.clock htr ho]
  by_cases hpeer : roomId = addr.roomId ∧ peerId = addr.peerId
  · rw [if_pos hpeer]
    obtain ⟨rfl, rfl⟩ := hpeer
    by_cases hown : trackId = addr.trackId
    · subst hown
      simpa only [true_and] using h.send_own ho ch.clock rfl
    · rw [if_neg fun hand => hown hand.1]
      exact h.note_other (fun hkey => hown ((overrideKey_eq_pauseKey_iff ho).mp hkey).2.2.1) _
  · rw [if_neg hpeer]
    refine h.note_other (fun hkey => hpeer ?_) _
    obtain ⟨hroom, hpeerId, -⟩ := (overrideKey_eq_pauseKey_iff ho).mp hkey
    exact ⟨hroom, hpeerId⟩

theorem clock_sendOverride (addr : PublisherTrack) (roomId : String) (ch : OverrideChannel)
    (t : TargetedOverride) : (sendOverride addr roomId ch t).clock = ch.clock := by
  rw [sendOverride_eq]
  split <;> rfl

theorem lookup_cleanup (records : OverrideRecords) (nowMs : ℤ) (key : TrackOverrideKey) :
    (cleanupExpiredTrackOverrideRecords records nowMs).lookup key =
      (records.lookup key).filter fun r => !r.expired nowMs :=
  lookup_filter _ _ _

theorem Linked.cleanup (h : Linked addr ch) (nowMs : ℤ) :
    Linked addr { ch with records := cleanupExpiredTrackOverrideRecords ch.records nowMs } := by
  refine h.of_records fun r hr _ => ?_
  rw [lookup_cleanup, filter_eq_some_iff] at hr
  exact hr.1

theorem Linked.step (htr : addr.trackId ≠ "") (ch : OverrideChannel) (e : OverrideEvent)
    (h : Linked addr ch) (htime : InTime ch e) : Linked addr (overrideStep addr ch e) := by
  cases e with
  | sample nowMs => exact (h.tick htime).purge
  | pass roomId nowMs states resolveTrack =>
    refine List.foldlRecOn _ _ ((h.tick htime).cleanup nowMs) fun ch' hch' t ht => ?_
    obtain ⟨_, -, trackId, -, ho⟩ := mem_buildOverrides.mp ht
    exact hch'.send htr ho

theorem clock_overrideStep (ch : OverrideChannel) (e : OverrideEvent) :
    (overrideStep addr ch e).clock = e.nowMs := by
  cases e with
  | sample nowMs => rfl
  | pass roomId nowMs states resolveTrack =>
    refine List.foldlRecOn (motive := fun ch' : OverrideChannel => ch'.clock = nowMs) _ _ rfl
      fun ch' hch' t _ => ?_
    rw [clock_sendOverride, hch']

end Link

/-! ### The server does not send the pause again before it has expired -/

def InForce (addr : PublisherTrack) (s : ℤ) (ch : OverrideChannel) : Prop :=
  ch.records.lookup (pauseKey addr) = some ⟨(pauseOf addr).raw, s, 5000⟩

def PauseDue (addr : PublisherTrack) (s : ℤ) (ch : OverrideChannel) : Prop :=
  InForce addr s ch ∧ ch.clock ≤ s + 5000 ∨
    s = ch.clock ∧ ∀ r, ch.records.lookup (pauseKey addr) = some r →
      r.signature = (pauseOf addr).raw → r.expired ch.clock = true

section Force

variable {addr : PublisherTrack} {ch : OverrideChannel} {s : ℤ} {state : ProducerDemandState}
  {roomId peerId trackId : String} {o : QosOverride}

theorem eq_pauseOf_of_paused (hst : state.supplyState = .paused)
    (ho : o ∈ trackOverrides state addr.trackId)
    (hslot : resolveOverrideSlot o = .pauseUpstream) : o = pauseOf addr := by
  rw [trackOverrides, hst] at ho
  rcases mem_pair.mp ho with rfl | rfl
  · cases hslot
  · rfl

theorem overrideKey_cases (ho : o ∈ trackOverrides state trackId)
    (hpau : roomId = addr.roomId → peerId = addr.peerId → trackId = addr.trackId →
      state.supplyState = .paused) :
    overrideKey roomId ⟨peerId, o⟩ = pauseKey addr ∧ o = pauseOf addr ∨
      overrideKey roomId ⟨peerId, o⟩ ≠ pauseKey addr := by
  by_cases hkey : overrideKey roomId ⟨peerId, o⟩ = pauseKey addr
  · obtain ⟨hroom, hpeer, rfl, hslot⟩ := (overrideKey_eq_pauseKey_iff ho).mp hkey
    exact .inl ⟨hkey, eq_pauseOf_of_paused (hpau hroom hpeer rfl) ho hslot⟩
  · exact .inr hkey

theorem lookup_sendOverride_of_ne {t : TargetedOverride}
    (hkey : overrideKey roomId t ≠ pauseKey addr) :
    (sendOverride addr roomId ch t).records.lookup (pauseKey addr) =
      ch.records.lookup (pauseKey addr) := by
  rw [sendOverride_eq]
  split
  · rfl
  · exact lookup_insert_ne (Ne.symm hkey)

theorem expired_eq_false_iff (raw : Json) (nowMs : ℤ) :
    (TrackQosOverrideRecord.mk raw s 5000).expired nowMs = false ↔ nowMs ≤ s + 5000 := by
  have hexp : (TrackQosOverrideRecord.mk raw s 5000).expired nowMs =
      decide (((5000 : ℕ) : ℤ) < nowMs - s) := Bool.true_and _
  rw [hexp, decide_eq_false_iff_not]
  omega

theorem InForce.send (h : InForce addr s ch) (hs : ch.clock ≤ s + 5000)
    (ho : o ∈ trackOverrides state trackId)
    (hpau : roomId = addr.roomId → peerId = addr.peerId → trackId = addr.trackId →
      state.supplyState = .paused) : InForce addr s (sendOverride addr roomId ch ⟨peerId, o⟩) := by
  rcases overrideKey_cases ho hpau with ⟨hkey, rfl⟩ | hkey
  · have hsent : alreadySent ch.records roomId ch.clock ⟨peerId, pauseOf addr⟩ := by
      rw [alreadySent, hkey, h]
      simp [(expired_eq_false_iff (pauseOf addr).raw ch.clock).mpr hs]
    rw [sendOverride_eq, if_pos hsent]
    exact h
  · rw [InForce, lookup_sendOverride_of_ne hkey]
    exact h

theorem PauseDue.send (h : PauseDue addr s ch) (ho : o ∈ trackOverrides state trackId)
    (hpau : roomId = addr.roomId → peerId = addr.peerId → trackId = addr.trackId →
      state.supplyState = .paused) : PauseDue addr s (sendOverride addr roomId ch ⟨peerId, o⟩) ∧
      (overrideKey roomId ⟨peerId, o⟩ = pauseKey addr →
        InForce addr s (sendOverride addr roomId ch ⟨peerId, o⟩)) := by
  rcases h with ⟨hfrc, hs⟩ | ⟨rfl, hdue⟩
  · -- in force already: it is not sent again
    have hfrc' := hfrc.send hs ho hpau
    exact ⟨.inl ⟨hfrc', by rwa [clock_sendOverride]⟩, fun _ => hfrc'⟩
  rcases overrideKey_cases ho hpau with ⟨hkey, rfl⟩ | hkey
  · -- what is recorded in the slot is another override, or has expired
    have hsent : alreadySent ch.records roomId ch.clock ⟨peerId, pauseOf addr⟩ = false := by
      rw [alreadySent, hkey]
      cases hlook : ch.records.lookup (pauseKey addr) with
      | none => rfl
      | some r =>
        by_cases hsig : r.signature = (pauseOf addr).raw
        · simp [hdue r hlook hsig]
        · simp [hsig]
    have hfrc : InForce addr ch.clock (sendOverride addr roomId ch ⟨peerId, pauseOf addr⟩) := by
      rw [sendOverride_eq, hsent, hkey]
      exact lookup_insert _
    refine ⟨.inl ⟨hfrc, ?_⟩, fun _ => hfrc⟩
    rw [clock_sendOverride]
    omega
  · refine ⟨.inr ?_, fun heq => absurd heq hkey⟩
    rw [clock_sendOverride, lookup_sendOverride_of_ne hkey]
    exact ⟨rfl, hdue⟩

variable {producerId : String}

theorem paused_of_mem {nowMs : ℤ} {states : List ProducerDemandState}
    {resolveTrack : String → Option (String × String)}
    (hpau : PausedIn addr producerId (.pass roomId nowMs states resolveTrack))
    {t : TargetedOverride} (ht : t ∈ buildOverrides states resolveTrack nowMs) :
    ∃ state trackId, t.overrideData ∈ trackOverrides state trackId ∧
      (roomId = addr.roomId → t.targetPeerId = addr.peerId → trackId = addr.trackId →
        state.supplyState = .paused) := by
  obtain ⟨state, hst, trackId, hres, ho⟩ := mem_buildOverrides.mp ht
  refine ⟨state, trackId, ho, fun hroom hpeer htrackId => ?_⟩
  exact (hpau hroom).2.2 state hst (by rw [hres, hpeer, htrackId])

theorem InForce.step (h : InForce addr s ch) {e : OverrideEvent}
    (hpau : PausedIn addr producerId e) (hs : e.nowMs ≤ s + 5000) :
    InForce addr s (overrideStep addr ch e) := by
  cases e with
  | sample nowMs => exact h
  | pass roomId nowMs states resolveTrack =>
    have hstr : InForce addr s { ch with
        records := cleanupExpiredTrackOverrideRecords ch.records nowMs, clock := nowMs } := by
      have hlive := (expired_eq_false_iff (pauseOf addr).raw nowMs).mpr hs
      rw [InForce, lookup_cleanup, h]
      simp [hlive]
    refine (List.foldlRecOn
      (motive := fun ch' : OverrideChannel => InForce addr s ch' ∧ ch'.clock = nowMs)
      _ _ ⟨hstr, rfl⟩ fun ch' hch' t ht => ?_).1
    obtain ⟨_, _, ho, hst⟩ := paused_of_mem hpau ht
    exact ⟨hch'.1.send (hch'.2 ▸ hs) ho hst, by rw [clock_sendOverride, hch'.2]⟩

theorem Linked.pauseDue (h : Linked addr ch) (nowMs : ℤ) :
    PauseDue addr (pauseSentAt addr ch nowMs) { ch with
      records := cleanupExpiredTrackOverrideRecords ch.records nowMs, clock := nowMs } := by
  unfold pauseSentAt
  cases hlook : ch.records.lookup (pauseKey addr) with
  | none =>
    refine .inr ⟨rfl, fun r hr => ?_⟩
    rw [lookup_cleanup, hlook] at hr
    cases hr
  | some r =>
    simp only
    split_ifs with hr
    · obtain ⟨raw, sentAtMs, ttlMs⟩ := r
      obtain rfl : raw = (pauseOf addr).raw := hr.1
      obtain rfl : ttlMs = 5000 := h.ttlMs _ hlook rfl
      have hlive : (TrackQosOverrideRecord.mk (pauseOf addr).raw sentAtMs 5000).expired nowMs =
          false := by simpa using hr.2
      refine .inl ⟨?_, ?_⟩
      · rw [InForce, lookup_cleanup, hlook]
        simp [hlive]
      · exact (expired_eq_false_iff _ nowMs).mp hlive
    · refine .inr ⟨rfl, fun r' hr' hsig => ?_⟩
      rw [lookup_cleanup, hlook, filter_eq_some_iff] at hr'
      obtain ⟨heq, hlive⟩ := hr'
      cases heq
      exact absurd ⟨hsig, hlive⟩ hr

theorem PauseDue.foldl (h : PauseDue addr s ch) (ts : List TargetedOverride)
    (hts : ∀ t ∈ ts, ∃ state trackId, t.overrideData ∈ trackOverrides state trackId ∧
      (roomId = addr.roomId → t.targetPeerId = addr.peerId → trackId = addr.trackId →
        state.supplyState = .paused)) : PauseDue addr s (ts.foldl (sendOverride addr roomId) ch) ∧
      (InForce addr s ch ∧ ch.clock ≤ s + 5000 ∨ (∃ t ∈ ts, overrideKey roomId t = pauseKey addr) →
        InForce addr s (ts.foldl (sendOverride addr roomId) ch)) := by
  induction ts generalizing ch with
  | nil => exact ⟨h, fun hor => hor.elim And.left fun ⟨_, ht, _⟩ => nomatch ht⟩
  | cons t ts ih =>
    obtain ⟨state, trackId, ho, hst⟩ := hts t mem_cons_self
    obtain ⟨hdue, hfrc⟩ := h.send ho hst
    obtain ⟨hrest, hlast⟩ := ih hdue fun t' ht' => hts t' (mem_cons_of_mem _ ht')
    refine ⟨hrest, fun hor => hlast ?_⟩
    rcases hor with ⟨hin, hs⟩ | ⟨t', ht', hkey⟩
    · exact .inl ⟨hin.send hs ho hst, by rwa [clock_sendOverride]⟩
    rcases mem_cons.mp ht' with rfl | ht'
    · refine hdue.elim .inl fun hnow => .inl ⟨hfrc hkey, ?_⟩
      omega
    · exact .inr ⟨t', ht', hkey⟩

theorem Linked.inForce_pass (h : Linked addr ch) {nowMs : ℤ}
    {states : List ProducerDemandState} {resolveTrack : String → Option (String × String)}
    (hpau : PausedIn addr producerId (.pass addr.roomId nowMs states resolveTrack)) :
    InForce addr (pauseSentAt addr ch nowMs)
      (overrideStep addr ch (.pass addr.roomId nowMs states resolveTrack)) := by
  refine ((h.pauseDue nowMs).foldl _ fun t ht => paused_of_mem hpau ht).2 (.inr ?_)
  obtain ⟨hres, ⟨state, hst, rfl⟩, hall⟩ := hpau rfl
  have ho : pauseOf addr ∈ trackOverrides state addr.trackId := by
    rw [trackOverrides, hall state hst hres]
    exact mem_cons_of_mem _ mem_cons_self
  exact ⟨⟨addr.peerId, pauseOf addr⟩,
    mem_buildOverrides.mpr ⟨state, hst, addr.trackId, hres, ho⟩, rfl⟩

theorem Linked.le_pauseSentAt (h : Linked addr ch) (nowMs : ℤ) :
    nowMs ≤ pauseSentAt addr ch nowMs + 5000 := by
  rcases h.pauseDue nowMs with ⟨-, hs⟩ | ⟨hs, -⟩
  · exact hs
  rw [hs]
  change nowMs ≤ nowMs + 5000
  omega

theorem Linked.hasPause_iff (h : Linked addr ch) (hfrc : InForce addr s ch) {t : ℤ}
    (ht : ch.clock ≤ t) : ch.active.HasPause t ↔ t < s + 5000 := by
  rw [ActiveOverrides.hasPause_iff]
  constructor
  · rintro ⟨key, entry, hlook, hlive, hpause⟩
    obtain rfl : key = pauseReason := by
      by_contra hkey
      exact h.others key entry hlook hkey hpause
    exact (h.kept _ hfrc rfl entry hlook).2 ▸ hlive
  intro hlive
  cases hlook : ch.active.lookup pauseReason with
  | none =>
    have hdrop : s + 5000 ≤ ch.clock := h.dropped _ hfrc rfl hlook
    omega
  | some entry =>
    obtain ⟨hpause, hexpires⟩ := h.kept _ hfrc rfl entry hlook
    exact ⟨pauseReason, entry, hlook, hexpires ▸ hlive, hpause⟩

theorem InForce.run (htr : addr.trackId ≠ "") (es : List OverrideEvent)
    (hlink : Linked addr ch) (h : InForce addr s ch)
    (htime : StepsMeet (overrideStep addr) InTime ch es)
    (hpau : ∀ e ∈ es, PausedIn addr producerId e) {t : ℤ} (hclk : ch.clock ≤ t)
    (ht : ∀ e ∈ es, e.nowMs ≤ t) (hs : t ≤ s + 5000) :
    Linked addr (runFrom (overrideStep addr) ch es) ∧
      InForce addr s (runFrom (overrideStep addr) ch es) ∧
        (runFrom (overrideStep addr) ch es).clock ≤ t := by
  induction es generalizing ch with
  | nil => exact ⟨hlink, h, hclk⟩
  | cons e es ih =>
    have he := ht e mem_cons_self
    refine ih (Linked.step htr ch e hlink htime.1)
      (h.step (hpau e mem_cons_self) (he.trans hs)) htime.2
      (fun e' he' => hpau e' (mem_cons_of_mem _ he')) ?_
      fun e' he' => ht e' (mem_cons_of_mem _ he')
    rwa [clock_overrideStep]

end Force

/-! ### The pause on the client -/

def activeAt (addr : PublisherTrack) (ch : OverrideChannel) (es : List OverrideEvent) (t : ℤ) :
    ActiveOverrides :=
  (runFrom (overrideStep addr) ch (es.takeWhile fun e => decide (e.nowMs ≤ t))).active

/-- **A track is paused all the time exactly as long as its first pause lives.**  Let server
and client start with nothing and run through any passes and samples `pre`; then comes a
pass that wants the track paused, and then passes that all want so, and samples.  The
client has an unexpired pause at every instant from that pass up to `endMs`, if and only
if `endMs` comes before the pause in force after that pass expires: the server sends it
again only when it has expired already. -/
theorem paused_iff (addr : PublisherTrack) (htr : addr.trackId ≠ "") (clock : ℤ)
    (pre es : List OverrideEvent) (producerId : String) (nowMs endMs : ℤ)
    (states : List ProducerDemandState) (resolveTrack : String → Option (String × String))
    (htime : StepsMeet (overrideStep addr) InTime { clock := clock }
      (pre ++ .pass addr.roomId nowMs states resolveTrack :: es))
    (hpau : ∀ e ∈ .pass addr.roomId nowMs states resolveTrack :: es,
      PausedIn addr producerId e) :
    (∀ t, nowMs ≤ t → t ≤ endMs →
        (activeAt addr (runFrom (overrideStep addr) { clock := clock } pre)
          (.pass addr.roomId nowMs states resolveTrack :: es) t).HasPause t) ↔
      endMs < pauseSentAt addr (runFrom (overrideStep addr) { clock := clock } pre) nowMs +
        5000 := by
  rw [stepsMeet_append] at htime
  obtain ⟨hpre, hpass, hes⟩ := htime
  have hlink : Linked addr (runFrom (overrideStep addr) { clock := clock } pre) :=
    StepsMeet.inv (Linked addr) (Linked.step htr) pre _ hpre (linked_init clock)
  generalize runFrom (overrideStep addr) { clock := clock } pre = ch at hlink hpass hes ⊢
  have hfrc := hlink.inForce_pass (hpau _ mem_cons_self)
  have hlink' := Linked.step htr ch _ hlink hpass
  -- up to the end of the pause's life, the client is paused as long as the pause lives
  have hpause : ∀ t, nowMs ≤ t → t ≤ pauseSentAt addr ch nowMs + 5000 →
      ((activeAt addr ch (.pass addr.roomId nowMs states resolveTrack :: es) t).HasPause t ↔
        t < pauseSentAt addr ch nowMs + 5000) := by
    intro t ht hs
    have hfst : decide ((OverrideEvent.pass addr.roomId nowMs states resolveTrack).nowMs ≤ t) =
        true := decide_eq_true ht
    rw [activeAt, takeWhile_cons, hfst, if_pos rfl, runFrom_cons]
    rw [← takeWhile_append_dropWhile (p := fun e => decide (e.nowMs ≤ t)) (l := es),
      stepsMeet_append] at hes
    obtain ⟨hlink'', hfrc', hclk⟩ := hfrc.run htr _ hlink' hes.1
      (fun e he => hpau e (mem_cons_of_mem _ (takeWhile_subset _ he)))
      (by rw [clock_overrideStep]; exact ht)
      (fun e he => by simpa using mem_takeWhile_imp he) hs
    exact hlink''.hasPause_iff hfrc' hclk
  constructor
  · -- at the very instant of expiry the client has let go, and the server has not sent again
    intro hall
    by_contra hend
    have hexpiry := hlink.le_pauseSentAt nowMs
    exact lt_irrefl _ ((hpause _ hexpiry le_rfl).mp (hall _ hexpiry (not_lt.mp hend)))
  · intro hend t ht htend
    exact (hpause t ht (htend.trans hend.le)).mpr (lt_of_le_of_lt htend hend)

def cameraTrack : PublisherTrack := ⟨"r", "p", "camera"⟩

def pausePass (nowMs : ℤ) : OverrideEvent :=
  .pass "r" nowMs [{ producerId := "v", supplyState := .paused }] fun _ => some ("p", "camera")

theorem pausedIn_pausePass (nowMs : ℤ) : PausedIn cameraTrack "v" (pausePass nowMs) := by
  intro _
  exact ⟨rfl, ⟨_, mem_singleton.mpr rfl, rfl⟩, fun state hst _ => by
    rw [mem_singleton.mp hst]⟩

theorem paused_of_one_pass :
    PausedIn cameraTrack "v" (pausePass 0) ∧
      ∀ t, 0 ≤ t → t ≤ 4999 →
        (activeAt cameraTrack { clock := 0 } [pausePass 0] t).HasPause t :=
  ⟨pausedIn_pausePass 0,
    (paused_iff cameraTrack (by decide) 0 [] [] "v" 0 4999 _ _ ⟨le_rfl, trivial⟩
      (fun e he => mem_singleton.mp he ▸ pausedIn_pausePass 0)).mpr (by decide)⟩

/-- **The pause is let go between two passes.**  Passes at 0, 4900 and 9800 all want the
camera paused; the second one does not send the pause again, because it has not expired
yet, and at 5000 the client has none. -/
theorem not_paused_between_passes :
    (∀ e ∈ [pausePass 0, pausePass 4900, pausePass 9800], PausedIn cameraTrack "v" e) ∧
      StepsMeet (overrideStep cameraTrack) InTime { clock := 0 }
          [pausePass 0, pausePass 4900, pausePass 9800] ∧
        ¬(activeAt cameraTrack { clock := 0 } [pausePass 0, pausePass 4900, pausePass 9800]
          5000).HasPause 5000 := by
  refine ⟨?_, ?_, by decide⟩
  · intro e he
    simp only [mem_cons, not_mem_nil, or_false] at he
    rcases he with rfl | rfl | rfl
    all_goals exact pausedIn_pausePass _
  refine ⟨le_rfl, ?_, ?_, trivial⟩
  · rw [InTime, clock_overrideStep]
    decide
  · rw [InTime, clock_overrideStep]
    decide

end MediasoupCpp
