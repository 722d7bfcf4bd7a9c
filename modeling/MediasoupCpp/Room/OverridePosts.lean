import MediasoupCpp.Room.OverrideLedger
import MediasoupCpp.Room.Residue

/-!
# What the service does to the ledger of a peer

Whatever the service does, for the overrides of one peer it comes to one of a few things: nothing,
forgetting the peer, or, after a report, sending it what its quality and the quality of its room
ask for and cleaning up what has run out.  Here the functions of the service are read as functions
on the ledger of a peer, one by one and then in their order.

Main results: `RoomService.Quiet.of_tends`, `RoomService.quiet_pass`.

Source: `src/RoomServiceQos.cpp`, `src/RoomServiceLifecycle.cpp`, `src/RoomServiceDownlink.cpp`,
`src/RoomServiceMedia.cpp`, `src/RoomStatsQosHelpers.h`.
-/

namespace MediasoupCpp

open List Dict Option

def LedgerSlot.key : LedgerSlot → String → String → String
  | automatic => makePeerKey
  | roomPressure => makeRoomPressureKey

theorem LedgerSlot.key_inj {slot slot' : LedgerSlot} {roomId roomId' peerId peerId' : JoinId} :
    slot.key roomId peerId = slot'.key roomId' peerId' ↔
      slot = slot' ∧ roomId = roomId' ∧ peerId = peerId' := by
  cases slot <;> cases slot'
  · exact (makePeerKey_inj ..).trans (by simp)
  · exact iff_of_false (makePeerKey_ne_makeRoomPressureKey _ _ _ _) nofun
  · exact iff_of_false (makePeerKey_ne_makeRoomPressureKey _ _ _ _).symm nofun
  · exact (makeRoomPressureKey_inj ..).trans (by simp)

structure WatchedPeer where
  roomId : JoinId
  peerId : JoinId
  trackId : String

def QosNotification.override? : QosNotification → Option Json
  | qosOverride data => some data
  | qosConnectionQuality _ => none
  | qosRoomState _ => none

namespace WatchedPeer

variable (p : WatchedPeer)

abbrev Is (roomId peerId : JoinId) : Prop := roomId = p.roomId ∧ peerId = p.peerId

def ownReport (roomId peerId : String) (entry : ReportEntry) :
    Option ReportEntry :=
  if roomId = p.roomId.val ∧ peerId = p.peerId.val then some entry else none

def overrides (sent : List SentNotification) : List Json :=
  sent.filterMap fun n =>
    if n.roomId = p.roomId.val && n.peerId.all (· = p.peerId.val) then n.notification.override?
    else none

theorem overrides_append (sent sent' : List SentNotification) :
    p.overrides (sent ++ sent') = p.overrides sent ++ p.overrides sent' :=
  filterMap_append

theorem overrides_own (data : Json) :
    p.overrides [⟨p.roomId, some p.peerId, .qosOverride data⟩] = [data] := by
  simp [overrides, QosNotification.override?]

theorem overrides_eq_nil {p : WatchedPeer} {n : SentNotification}
    (h : n.notification.override? = none ∨
      ¬(n.roomId = p.roomId.val ∧ n.peerId = some p.peerId.val) ∧ n.peerId.isSome) :
    p.overrides [n] = [] := by
  unfold overrides
  rw [filterMap_eq_nil_iff]
  intro n' hn'
  obtain rfl := mem_singleton.mp hn'
  rcases h with h | ⟨h, hsome⟩
  · rw [h, ite_self]
  rw [if_neg]
  obtain ⟨peerId, hpeer⟩ := isSome_iff_exists.mp hsome
  rw [hpeer] at h ⊢
  simpa using h

end WatchedPeer

open WatchedPeer

namespace RoomService

variable {cfg : ServiceConfig} {s s' s'' : RoomService} {p : WatchedPeer}

def overridesFor (p : WatchedPeer) (s : RoomService) : List Json := p.overrides s.sent

instance instDecidableHasPeer (s : RoomService) (roomId peerId : String) :
    Decidable (s.HasPeer roomId peerId) :=
  inferInstanceAs (Decidable (_ = true))

def ledger (p : WatchedPeer) (nowMs : ℤ) (s : RoomService) (active : ActiveOverrides) : Ledger where
  nowMs := nowMs
  report := getEntry s.qosRegistry p.roomId p.peerId
  record slot := s.autoQosOverrideRecords.lookup (slot.key p.roomId p.peerId)
  active := active

/-! ### Calls that have nothing to do with the overrides of peers -/

/-- No report or record changes, and only the planner sends something to the peer. -/
structure Quiet (p : WatchedPeer) (s s' : RoomService) : Prop where
  qosRegistry : s'.qosRegistry = s.qosRegistry
  records : s'.autoQosOverrideRecords = s.autoQosOverrideRecords
  told : ∃ overrides, s'.overridesFor p = s.overridesFor p ++ overrides ∧
    ∀ data ∈ overrides, FromPlanner data

theorem Quiet.of_sent (hreg : s'.qosRegistry = s.qosRegistry)
    (hrecs : s'.autoQosOverrideRecords = s.autoQosOverrideRecords) (hsent : s'.sent = s.sent) :
    Quiet p s s' where
  qosRegistry := hreg
  records := hrecs
  told := ⟨[], by rw [overridesFor, hsent, append_nil, overridesFor], nofun⟩

theorem Quiet.refl (s : RoomService) : Quiet p s s := .of_sent rfl rfl rfl

theorem Quiet.trans (h : Quiet p s s') (h' : Quiet p s' s'') : Quiet p s s'' := by
  obtain ⟨overrides, htold, hall⟩ := h.told
  obtain ⟨overrides', htold', hall'⟩ := h'.told
  refine ⟨h'.qosRegistry.trans h.qosRegistry, h'.records.trans h.records, overrides ++ overrides',
    ?_, ?_⟩
  · rw [htold', htold, append_assoc]
  intro data hdata
  rcases mem_append.mp hdata with hdata | hdata
  · exact hall data hdata
  · exact hall' data hdata

theorem Quiet.of_tends (h : Tends s s') : Quiet p s s' :=
  .of_sent h.qosRegistry h.autoQosOverrideRecords h.sent

variable {roomId : String}

theorem quiet_notify_other {peerId : String}
    (hoth : ¬(roomId = p.roomId.val ∧ peerId = p.peerId.val)) (n : QosNotification) :
    Quiet p s (s.notify cfg roomId peerId n) := by
  unfold notify
  split
  · refine ⟨rfl, rfl, [], ?_, nofun⟩
    have hnone : p.overrides [⟨roomId, some peerId, n⟩] = [] :=
      overrides_eq_nil (.inr ⟨by simpa using hoth, rfl⟩)
    rw [overridesFor, overrides_append, hnone, overridesFor]
  · exact .refl s

/-! ### The planner -/

theorem quiet_setQosOverride {targetPeerId : String}
    (hoth : ¬(roomId = p.roomId.val ∧ targetPeerId = p.peerId.val)) (callerPeerId : String)
    (overrideData : Json) :
    Quiet p s (s.handle cfg (.setQosOverride roomId callerPeerId targetPeerId overrideData)) := by
  unfold handle
  dsimp only
  split
  · exact .refl s
  rename_i hset
  obtain ⟨_, -, rfl⟩ := eq_notify_of_setQosOverride hset
  exact quiet_notify_other hoth _

theorem quiet_sendTrackQosOverride {nowMs : ℤ} {t : TargetedOverride}
    (ht : FromPlanner t.overrideData.raw) :
    Quiet p s (sendTrackQosOverride cfg roomId nowMs t s) := by
  have hraw : ∀ raw, (maybeSendTrackQosOverride s.trackQosOverrideRecords roomId nowMs t).2 =
      some raw → FromPlanner raw := by
    intro raw h
    unfold maybeSendTrackQosOverride at h
    split at h
    · cases h
    · cases h
      exact ht
  unfold sendTrackQosOverride
  split
  · exact .of_sent rfl rfl rfl
  rename_i raw hsend
  rw [hsend] at hraw
  by_cases hown : roomId = p.roomId.val ∧ t.targetPeerId = p.peerId.val
  · unfold notify
    split
    · refine ⟨rfl, rfl, [raw], ?_, ?_⟩
      · rw [overridesFor, overrides_append, hown.1, hown.2, p.overrides_own, overridesFor]
      intro data hdata
      obtain rfl := mem_singleton.mp hdata
      exact hraw data rfl
    · exact .of_sent rfl rfl rfl
  · refine Quiet.trans ?_ (quiet_notify_other hown _)
    exact .of_sent rfl rfl rfl

theorem quiet_planningWrites {nowMs : ℤ} {write : RoomService → RoomService}
    (hwr : write ∈ s.planningWrites cfg nowMs roomId) (s' : RoomService) :
    Quiet p s' (write s') := by
  unfold planningWrites at hwr
  split at hwr
  · cases hwr
  rcases mem_append.mp hwr with hwr | hwr
  · rcases mem_append.mp hwr with hwr | hwr
    · obtain ⟨_, -, rfl⟩ := mem_map.mp hwr
      exact .of_sent rfl rfl rfl
    rcases mem_pair.mp hwr with rfl | rfl <;> exact .of_sent rfl rfl rfl
  · split at hwr
    · cases hwr
    rcases mem_cons.mp hwr with rfl | hwr
    · exact .of_sent rfl rfl rfl
    obtain ⟨_, ht, rfl⟩ := mem_map.mp hwr
    obtain ⟨state, -, trackId, -, hmem⟩ := mem_buildOverrides.mp ht
    exact quiet_sendTrackQosOverride ⟨state, trackId, _, hmem, rfl⟩

theorem quiet_pass (nowMs : ℤ) (done : Option ℕ) : Quiet p s (s.pass cfg nowMs done) := by
  unfold pass
  split
  · exact .refl s
  rename_i roomId _
  have hwrites : Quiet p s (s.runDownlinkPlanningForRoom cfg nowMs roomId done) := by
    refine Loop.foldl_rel Quiet.refl Quiet.trans ?_
    intro write hwr s' _
    exact quiet_planningWrites (mem_of_mem_done hwr) s'
  exact hwrites.trans (.of_sent rfl rfl rfl)

/-! ### Calls that forget peers -/

theorem ledger_eq_ite {gone : Prop} [Decidable gone]
    (hrep : getEntry s'.qosRegistry p.roomId p.peerId =
      if gone then none else getEntry s.qosRegistry p.roomId p.peerId)
    (hrecs : ∀ slot : LedgerSlot, s'.autoQosOverrideRecords.lookup (slot.key p.roomId p.peerId) =
      if gone then none else s.autoQosOverrideRecords.lookup (slot.key p.roomId p.peerId))
    (nowMs : ℤ) (active : ActiveOverrides) : s'.ledger p nowMs active =
      if gone then { nowMs := nowMs, active := active } else s.ledger p nowMs active := by
  rw [ledger, hrep, funext hrecs]
  by_cases hgone : gone
  · simp only [if_pos hgone]
  · simp only [if_neg hgone]
    rfl

theorem ledger_forgetPeer (roomId peerId : JoinId) (peer : Option ServicePeer) (nowMs : ℤ)
    (active : ActiveOverrides) : (s.forgetPeer roomId peerId peer).ledger p nowMs active =
      if p.roomId = roomId ∧ p.peerId = peerId then { nowMs := nowMs, active := active }
      else s.ledger p nowMs active := by
  obtain ⟨-, -, -, hforg⟩ := @rooms_forgetPeer s roomId peerId peer
  refine ledger_eq_ite ?_ (fun slot => ?_) nowMs active
  · rw [hforg]
    change getEntry (eraseEntry _ _ _) _ _ = _
    rw [getEntry_eraseEntry]
    refine if_congr ?_ rfl rfl
    rw [Subtype.ext_iff, Subtype.ext_iff]
  rw [hforg]
  obtain ⟨hauto, hpres⟩ := lookup_clearPeerAutomaticOverrideRecords s.autoQosOverrideRecords
    roomId p.roomId peerId p.peerId
  cases slot with
  | automatic => exact hauto
  | roomPressure => exact hpres

theorem sent_forgetPeer (roomId peerId : String) (peer : Option ServicePeer) :
    (s.forgetPeer roomId peerId peer).sent = s.sent := by
  cases peer <;> rfl

/-- Nothing is sent, and either nothing is forgotten of the peer, or everything, and then only for
a reason. -/
structure Forgets (p : WatchedPeer) (s s' : RoomService) (reason : Prop) : Prop where
  sent : s'.sent = s.sent
  ledger : (∀ nowMs active, s'.ledger p nowMs active = s.ledger p nowMs active) ∨
    reason ∧ ∀ nowMs active, s'.ledger p nowMs active = { nowMs := nowMs, active := active }

theorem Forgets.of_sent {reason : Prop} (hreg : s'.qosRegistry = s.qosRegistry)
    (hrecs : s'.autoQosOverrideRecords = s.autoQosOverrideRecords) (hsent : s'.sent = s.sent) :
    Forgets p s s' reason :=
  ⟨hsent, .inl fun _ _ => by rw [RoomService.ledger, hreg, hrecs, RoomService.ledger]⟩

theorem Forgets.refl (s : RoomService) (reason : Prop) : Forgets p s s reason :=
  .of_sent rfl rfl rfl

theorem Forgets.imp {reason reason' : Prop} (h : Forgets p s s' reason)
    (himp : reason → reason') : Forgets p s s' reason' :=
  ⟨h.sent, h.ledger.imp_right fun hgone => ⟨himp hgone.1, hgone.2⟩⟩

theorem forgets_join (call : JoinCall) :
    Forgets p s (s.join call).2 (p.roomId = call.roomId ∧ p.peerId = call.peerId) := by
  have henter : Forgets p s ({ s with rooms := touchRoom s.rooms call.roomId }.enterRoom
      call.roomId call.peerId call.newSessionId)
        (p.roomId = call.roomId ∧ p.peerId = call.peerId) := by
    unfold enterRoom
    dsimp only
    split
    · exact .of_sent rfl rfl rfl
    refine ⟨sent_forgetPeer .., ?_⟩
    by_cases hown : p.roomId = call.roomId ∧ p.peerId = call.peerId
    · exact .inr ⟨hown, fun nowMs active => (ledger_forgetPeer ..).trans (if_pos hown)⟩
    · exact .inl fun nowMs active => (ledger_forgetPeer ..).trans (if_neg hown)
  unfold join
  split
  · exact .refl s _
  · exact .refl s _
  split
  · split <;> exact .refl s _
  split
  · exact .refl s _
  split
  · exact .refl s _
  split
  · exact .of_sent rfl rfl rfl
  · exact henter

theorem forgets_leave (roomId peerId : JoinId) : Forgets p s (s.leave roomId peerId)
      (¬(s.leave roomId peerId).HasPeer p.roomId p.peerId) := by
  cases hroom : s.rooms.lookup roomId.val with
  | none =>
    have hsame : s.leave roomId peerId = s := by rw [leave, hroom]
    rw [hsame]
    exact .refl s _
  | some peers =>
    have hforg : Forgets p s ({ s.forgetPeer roomId peerId (peers.lookup peerId.val) with
        rooms := eraseEntry s.rooms roomId peerId })
          ¬(getEntry (eraseEntry s.rooms roomId peerId) p.roomId p.peerId).isSome := by
      refine ⟨sent_forgetPeer .., ?_⟩
      by_cases hown : p.roomId = roomId ∧ p.peerId = peerId
      · refine .inr ⟨?_, fun nowMs active => (ledger_forgetPeer ..).trans (if_pos hown)⟩
        rw [hasPeer_eraseEntry]
        exact fun hpeer => hpeer.2 ⟨congrArg Subtype.val hown.1, congrArg Subtype.val hown.2⟩
      · exact .inl fun nowMs active => (ledger_forgetPeer ..).trans (if_neg hown)
    rw [leave_eq hroom]
    split
    · exact hforg
    · exact ⟨hforg.sent, hforg.ledger⟩

theorem isPrefix_key_iff (slot : LedgerSlot) :
    (roomKeyPrefix roomId).toList <+: (slot.key p.roomId p.peerId).toList ↔
      roomId = p.roomId.val := by
  have hmaker : slot.key ∈ keyMakers := by
    cases slot with
    | automatic => exact mem_cons_self
    | roomPressure => exact mem_cons_of_mem _ mem_cons_self
  obtain ⟨rest, hrest, hslash⟩ := toList_of_mem_keyMakers hmaker p.roomId p.peerId
  rw [toList_roomKeyPrefix, hrest]
  constructor
  · intro hst
    exact String.toList_inj.mp (Separator.eq_of_concat_isPrefix p.roomId.slash_notMem
      (hslash p.peerId.slash_notMem) hst)
  · rintro rfl
    exact ⟨rest, by simp⟩

theorem ledger_destroyRoom (roomId : String) (nowMs : ℤ) (active : ActiveOverrides) :
    (s.destroyRoom roomId).ledger p nowMs active =
      if roomId = p.roomId.val then { nowMs := nowMs, active := active }
      else s.ledger p nowMs active := by
  refine ledger_eq_ite ?_ (fun slot => ?_) nowMs active
  · change getEntry (s.qosRegistry.erase roomId) _ _ = _
    rw [getEntry, lookup_erase_eq]
    by_cases hroom : p.roomId.val = roomId
    · rw [if_pos hroom, if_pos hroom.symm]
      rfl
    · rw [if_neg hroom, if_neg (Ne.symm hroom), getEntry]
  · change (eraseKeysByPrefix _ _).lookup _ = _
    rw [lookup_eraseKeysByPrefix]
    exact if_congr (isPrefix_key_iff slot) rfl rfl

theorem forgets_destroyRooms (roomIds : List String) (s : RoomService) :
    Forgets p s (s.destroyRooms roomIds) (¬(s.destroyRooms roomIds).HasPeer p.roomId p.peerId) := by
  induction roomIds generalizing s with
  | nil => exact .refl s _
  | cons roomId roomIds ih =>
    have hrest := ih (s.destroyRoom roomId)
    refine ⟨hrest.sent, ?_⟩
    rcases hrest.ledger with hsame | hforg
    · by_cases hroom : roomId = p.roomId.val
      · -- the others do not bring the room back
        refine .inr ⟨fun hpeer => ?_, fun nowMs active => ?_⟩
        · have hgone : ∀ (roomIds : List String) (s : RoomService),
              (s.destroyRooms roomIds).HasPeer p.roomId p.peerId → s.HasPeer p.roomId p.peerId := by
            intro roomIds
            induction roomIds with
            | nil => exact fun _ hpeer => hpeer
            | cons roomId roomIds ih =>
              exact fun s hpeer => (hasPeer_destroyRoom.mp (ih (s.destroyRoom roomId) hpeer)).1
          exact (hasPeer_destroyRoom.mp (hgone roomIds (s.destroyRoom roomId) hpeer)).2 hroom.symm
        · exact (hsame nowMs active).trans ((ledger_destroyRoom ..).trans (if_pos hroom))
      · exact .inl fun nowMs active =>
          (hsame nowMs active).trans ((ledger_destroyRoom ..).trans (if_neg hroom))
    · exact .inr hforg

/-! ### Reports -/

def deliver (p : WatchedPeer) (nowMs : ℤ) (overrides : List Json) (active : ActiveOverrides) :
    ActiveOverrides :=
  overrides.foldl (fun active data => active.handleMessage nowMs p.trackId data) active

/-- **What the service does is this for the ledger of the peer**, when what it sends is delivered.
Rooms and reports stay as they are. -/
structure Posts (p : WatchedPeer) (nowMs : ℤ) (s s' : RoomService) (post : Ledger → Ledger) :
    Prop where
  rooms : s'.rooms = s.rooms
  qosRegistry : s'.qosRegistry = s.qosRegistry
  told : ∃ overrides, s'.overridesFor p = s.overridesFor p ++ overrides ∧
    ∀ active, s'.ledger p nowMs (deliver p nowMs overrides active) =
      post (s.ledger p nowMs active)

variable {nowMs : ℤ} {post post' : Ledger → Ledger}

theorem Posts.trans (h : Posts p nowMs s s' post) (h' : Posts p nowMs s' s'' post') :
    Posts p nowMs s s'' (post' ∘ post) := by
  obtain ⟨overrides, htold, hpost⟩ := h.told
  obtain ⟨overrides', htold', hpost'⟩ := h'.told
  refine ⟨h'.rooms.trans h.rooms, h'.qosRegistry.trans h.qosRegistry, overrides ++ overrides', ?_,
    fun active => ?_⟩
  · rw [htold', htold, append_assoc]
  rw [deliver, foldl_append]
  change s''.ledger p nowMs (deliver p nowMs overrides' (deliver p nowMs overrides active)) = _
  rw [hpost', hpost, Function.comp_apply]

theorem Posts.of_same (hrms : s'.rooms = s.rooms) (hreg : s'.qosRegistry = s.qosRegistry)
    (htold : s'.overridesFor p = s.overridesFor p)
    (hrecs : ∀ slot : LedgerSlot, s'.autoQosOverrideRecords.lookup (slot.key p.roomId p.peerId) =
      s.autoQosOverrideRecords.lookup (slot.key p.roomId p.peerId)) : Posts p nowMs s s' id := by
  refine ⟨hrms, hreg, [], by rw [htold, append_nil], fun active => ?_⟩
  ext1
  · rfl
  · change getEntry s'.qosRegistry _ _ = _
    rw [hreg]
    rfl
  · funext slot
    exact hrecs slot
  · rfl

theorem Posts.refl (s : RoomService) : Posts p nowMs s s id :=
  .of_same rfl rfl rfl fun _ => rfl

theorem Posts.congr (h : Posts p nowMs s s' post)
    (heq : ∀ active, post' (s.ledger p nowMs active) = post (s.ledger p nowMs active)) :
    Posts p nowMs s s' post' := by
  obtain ⟨overrides, htold, hpost⟩ := h.told
  exact ⟨h.rooms, h.qosRegistry, overrides, htold, fun active => by rw [heq, hpost]⟩

theorem Posts.andThen (h : Posts p nowMs s s' post) (h' : Posts p nowMs s' s'' id) :
    Posts p nowMs s s'' post :=
  (h.trans h').congr fun _ => rfl

theorem Posts.before (h : Posts p nowMs s s' id) (h' : Posts p nowMs s' s'' post) :
    Posts p nowMs s s'' post :=
  (h.trans h').congr fun _ => rfl

theorem Posts.congr_own {own : Prop} [Decidable own]
    (h : Posts p nowMs s s' fun l => if own then post l else l)
    (heq : own → ∀ active, post' (s.ledger p nowMs active) = post (s.ledger p nowMs active)) :
    Posts p nowMs s s' fun l => if own then post' l else l :=
  h.congr fun active => ite_congr rfl (fun hown => heq hown active) fun _ => rfl

theorem Posts.of_own {own : Prop} [Decidable own]
    (heq : own → ∀ active, post (s.ledger p nowMs active) = s.ledger p nowMs active) :
    Posts p nowMs s s fun l => if own then post l else l :=
  (Posts.refl s).congr fun active => ite_eq_right_iff.mpr fun hown => heq hown active

theorem Posts.foldl {f : RoomService → String → RoomService} {peerIds : List String}
    (hnd : peerIds.Nodup) (h : ∀ peerId ∈ peerIds, ∀ s, Posts p nowMs s (f s peerId) fun l =>
      if peerId = p.peerId.val then post l else l)
    (s : RoomService) : Posts p nowMs s (peerIds.foldl f s) fun l =>
      if p.peerId.val ∈ peerIds then post l else l := by
  induction peerIds generalizing s with
  | nil => exact (Posts.refl s).congr fun _ => if_neg not_mem_nil
  | cons peerId peerIds ih =>
    obtain ⟨hnew, hnd⟩ := nodup_cons.mp hnd
    have hrest := ih hnd (fun q hq => h q (mem_cons_of_mem _ hq)) (f s peerId)
    refine ((h peerId mem_cons_self s).trans hrest).congr fun active => ?_
    by_cases hpeer : peerId = p.peerId.val
    · subst hpeer
      simp [hnew]
    · simp [hpeer, Ne.symm hpeer]

theorem Posts.of_told {roomId peerId : JoinId} (slot : LedgerSlot) (data : Json)
    (record : Option AutoQosOverrideRecord) (hrms : s'.rooms = s.rooms)
    (hreg : s'.qosRegistry = s.qosRegistry)
    (hsent : s'.sent = s.sent ++ [⟨roomId, some peerId, .qosOverride data⟩])
    (hrecs : ∀ key, s'.autoQosOverrideRecords.lookup key =
      if key = slot.key roomId peerId then record else s.autoQosOverrideRecords.lookup key) :
    Posts p nowMs s s' fun l =>
      if p.Is roomId peerId then (l.tell p.trackId data).setRecord slot record else l := by
  by_cases hown : p.Is roomId peerId
  · simp only [if_pos hown]
    obtain ⟨rfl, rfl⟩ := hown
    refine ⟨hrms, hreg, [data], ?_, fun active => ?_⟩
    · rw [overridesFor, hsent, overrides_append, p.overrides_own, overridesFor]
    ext1
    · rfl
    · change getEntry s'.qosRegistry _ _ = _
      rw [hreg]
      rfl
    · funext slot'
      rw [Ledger.record_setRecord]
      exact (hrecs _).trans (if_congr (LedgerSlot.key_inj.trans (by simp)) rfl rfl)
    · rfl
  · simp only [if_neg hown]
    have hnone : p.overrides [⟨roomId, some peerId, .qosOverride data⟩] = [] := by
      refine overrides_eq_nil (.inr ⟨?_, rfl⟩)
      rintro ⟨hroom, hpeer⟩
      exact hown ⟨Subtype.ext hroom, Subtype.ext (some.inj hpeer)⟩
    refine .of_same hrms hreg ?_ fun slot' => (hrecs _).trans (if_neg fun hkey => ?_)
    · rw [overridesFor, hsent, overrides_append, hnone, append_nil, overridesFor]
    · obtain ⟨-, hroom, hpeer⟩ := LedgerSlot.key_inj.mp hkey
      exact hown ⟨hroom.symm, hpeer.symm⟩

theorem notify_eq (hntf : cfg.notify) (roomId peerId : String) (n : QosNotification) :
    s.notify cfg roomId peerId n = { s with sent := s.sent ++ [⟨roomId, some peerId, n⟩] } :=
  if_pos hntf

/-! Overrides are cleared, or sent. -/

section Stats

variable {roomId peerId : JoinId}

theorem posts_clear (hntf : cfg.notify) (slot : LedgerSlot) :
    Posts p nowMs s (s.clearAutomaticQosOverride cfg roomId peerId (slot.key roomId peerId)
      slot.clearReason) fun l => if p.Is roomId peerId then l.clear p.trackId slot else l := by
  unfold clearAutomaticQosOverride
  cases hrec : s.autoQosOverrideRecords.lookup (slot.key roomId peerId) with
  | none =>
    refine .of_own ?_
    rintro ⟨rfl, rfl⟩ active
    rw [Ledger.clear, show (s.ledger p nowMs active).record slot = none from hrec]
  | some record =>
    rw [notify_eq hntf]
    refine Posts.congr_own (.of_told slot (buildPeerOverrideClearPayload slot.clearReason) none rfl
      rfl rfl fun key => lookup_erase_eq ..) ?_
    rintro ⟨rfl, rfl⟩ active
    rw [Ledger.clear, show (s.ledger p nowMs active).record slot = some record from hrec]

theorem posts_send (hntf : cfg.notify) (slot : LedgerSlot) (o : QosOverride) :
    Posts p nowMs s (s.sendAutomaticQosOverride cfg roomId peerId (slot.key roomId peerId) o nowMs)
      fun l => if p.Is roomId peerId then l.send p.trackId slot o else l := by
  unfold sendAutomaticQosOverride
  rw [notify_eq hntf]
  refine Posts.congr_own (.of_told slot o.raw (some ⟨o.raw, nowMs, o.ttlMs⟩) rfl rfl rfl
    fun key => lookup_insert_eq ..) ?_
  exact fun _ _ => rfl

/-! ### What a report sets off -/

theorem posts_notify {roomId peerId : String} {n : QosNotification} (hn : n.override? = none) :
    Posts p nowMs s (s.notify cfg roomId peerId n) id := by
  unfold notify
  split
  · have hnone : p.overrides [⟨roomId, some peerId, n⟩] = [] :=
      overrides_eq_nil (.inl hn)
    refine .of_same rfl rfl ?_ fun _ => rfl
    rw [overridesFor, overrides_append, hnone, append_nil, overridesFor]
  · exact .refl s

theorem posts_maybeNotifyConnectionQuality (roomId peerId : String) (aggregate : PeerQosAggregate) :
    Posts p nowMs s (s.maybeNotifyConnectionQuality cfg roomId peerId aggregate) id := by
  unfold maybeNotifyConnectionQuality
  split
  · exact .refl s
  dsimp only
  split
  · exact .refl s
  have hsent := @posts_notify cfg s p nowMs roomId peerId
    (.qosConnectionQuality (buildConnectionQualityPayload aggregate)) rfl
  refine hsent.andThen ?_
  exact .of_same rfl rfl rfl fun _ => rfl

theorem posts_maybeSendAutomatic (hntf : cfg.notify) {aggregate : PeerQosAggregate}
    (hagg : aggregate = QosAggregator.aggregate (getEntry s.qosRegistry roomId peerId) nowMs) :
    Posts p nowMs s (s.maybeSendAutomaticQosOverride cfg roomId peerId aggregate nowMs) fun l =>
      if p.Is roomId peerId then l.maybeSendAutomatic p.trackId else l := by
  have hledg : p.Is roomId peerId → ∀ active, let l := s.ledger p nowMs active
      buildForAggregate (QosAggregator.aggregate l.report l.nowMs) =
        buildForAggregate aggregate := by
    rintro ⟨rfl, rfl⟩ active
    rw [hagg]
    rfl
  unfold maybeSendAutomaticQosOverride
  dsimp only
  split
  next hbuild =>
    refine (posts_clear hntf .automatic).congr_own fun hown active => ?_
    rw [Ledger.maybeSendAutomatic, hledg hown, hbuild]
  rename_i automatic hbuild
  split
  next hrec =>
    refine .of_own fun hown active => ?_
    rw [Ledger.maybeSendAutomatic, hledg hown, hbuild]
    obtain ⟨rfl, rfl⟩ := hown
    exact if_pos hrec
  next hrec =>
    refine (posts_send hntf .automatic automatic).congr_own fun hown active => ?_
    rw [Ledger.maybeSendAutomatic, hledg hown, hbuild]
    obtain ⟨rfl, rfl⟩ := hown
    exact if_neg hrec

theorem posts_maybeSendRoomPressure (hntf : cfg.notify)
    (roomAutomatic : Option QosOverride) :
    Posts p nowMs s (maybeSendRoomPressureOverride cfg roomId roomAutomatic nowMs s peerId) fun l =>
      if p.Is roomId peerId then l.maybeSendRoomPressure p.trackId roomAutomatic else l := by
  unfold maybeSendRoomPressureOverride
  dsimp only
  split
  · exact posts_clear hntf .roomPressure
  rename_i automatic
  split
  next hdegraded =>
    refine (posts_clear hntf .roomPressure).congr_own ?_
    rintro ⟨rfl, rfl⟩ active
    exact if_pos hdegraded
  rename_i hspar
  split
  next hsame =>
    refine .of_own ?_
    rintro ⟨rfl, rfl⟩ active
    exact (if_neg hspar).trans (if_pos hsame)
  next hnew =>
    refine (posts_send hntf .roomPressure automatic).congr_own ?_
    rintro ⟨rfl, rfl⟩ active
    exact (if_neg hspar).trans (if_neg hnew)

def roomQosAggregate (s : RoomService) (roomId : String) (nowMs : ℤ) : RoomQosAggregate :=
  match s.rooms.lookup roomId with
  | none => {}
  | some peers =>
    QosRoomAggregator.aggregate (peers.keys.filterMap fun peerId =>
      (getEntry s.qosRegistry roomId peerId).map fun entry =>
        QosAggregator.aggregate (some entry) nowMs)

def roomAutomatic (s : RoomService) (roomId : String) (nowMs : ℤ) : Option QosOverride :=
  buildForRoomAggregate (s.roomQosAggregate roomId nowMs)

theorem roomAutomatic_congr (hrms : s'.rooms = s.rooms)
    (hreg : s'.qosRegistry = s.qosRegistry) (roomId : String) (nowMs : ℤ) :
    s'.roomAutomatic roomId nowMs = s.roomAutomatic roomId nowMs := by
  rw [roomAutomatic, roomQosAggregate, hrms, hreg]
  rfl

theorem hasQos_of_report {roomId peerId : String} {entry : ReportEntry}
    (hpeer : s.HasPeer roomId peerId) (hent : getEntry s.qosRegistry roomId peerId = some entry)
    (nowMs : ℤ) : (s.roomQosAggregate roomId nowMs).hasQos := by
  obtain ⟨_, hpeer⟩ := isSome_iff_exists.mp hpeer
  obtain ⟨peers, hroom, hlook⟩ := bind_eq_some_iff.mp hpeer
  have hkey : peerId ∈ peers.keys :=
    AList.mem_keys.mp (mem_of_lookup hlook)
  have hmem : QosAggregator.aggregate (some entry) nowMs ∈ (peers.keys.filterMap fun peerId =>
      (getEntry s.qosRegistry roomId peerId).map fun entry =>
        QosAggregator.aggregate (some entry) nowMs).filter (·.hasSnapshot) := by
    refine mem_filter.mpr ⟨mem_filterMap.mpr ⟨peerId, hkey, ?_⟩, rfl⟩
    rw [hent]
    rfl
  rw [roomQosAggregate, hroom]
  dsimp only
  unfold QosRoomAggregator.aggregate
  rw [if_neg]
  rw [List.isEmpty_iff]
  exact ne_nil_of_mem hmem

theorem posts_maybeSendRoomPressureOverrides (hntf : cfg.notify) (h : s.Inv)
    (roomId : JoinId) (aggregate : RoomQosAggregate) :
    Posts p nowMs s (s.maybeSendRoomPressureOverrides cfg roomId aggregate nowMs) fun l =>
      if roomId = p.roomId ∧ s.HasPeer p.roomId p.peerId then
        l.maybeSendRoomPressure p.trackId (buildForRoomAggregate aggregate) else l := by
  unfold maybeSendRoomPressureOverrides
  cases hroom : s.rooms.lookup roomId.val with
  | none =>
    refine .of_own ?_
    rintro ⟨rfl, hpeer⟩
    exact absurd (mem_of_getEntry hpeer) (AList.lookup_eq_none.mp hroom)
  | some peers =>
    dsimp only
    rw [if_pos hntf]
    refine Posts.congr (@Posts.foldl p nowMs (fun l => if roomId = p.roomId then
      l.maybeSendRoomPressure p.trackId (buildForRoomAggregate aggregate) else l)
        _ _ (AList.keys_nodup peers) (fun peerId hmem s' => ?_) s) fun active => ?_
    · obtain ⟨-, hval⟩ := h.named roomId peerId (hasPeer_of_mem_keys hroom hmem)
      refine (@posts_maybeSendRoomPressure cfg s' p nowMs roomId ⟨peerId, hval⟩ hntf
        _).congr fun active => ?_
      simp only [WatchedPeer.Is, Subtype.ext_iff]
      split <;> split <;> simp_all
    by_cases hown : roomId = p.roomId
    · subst hown
      have hhas : s.HasPeer p.roomId p.peerId ↔ p.peerId.val ∈ peers.keys := by
        rw [HasPeer, getEntry_of_lookup hroom, AList.lookup_isSome, AList.mem_keys]
      simp [hhas]
    · simp [hown]

theorem posts_roomState (roomId : String) (data : Json) (signatures : Dict String Json) :
    Posts p nowMs s { s with
      sent := s.sent ++ [⟨roomId, none, .qosRoomState data⟩]
      lastRoomQosStateSignatures := signatures } id := by
  have hnone : p.overrides [⟨roomId, none, .qosRoomState data⟩] = [] :=
    overrides_eq_nil (.inl rfl)
  refine .of_same rfl rfl ?_ fun _ => rfl
  rw [overridesFor, overrides_append, hnone, append_nil, overridesFor]

theorem posts_maybeBroadcastRoomQosState (hntf : cfg.notify)
    (hcast : cfg.broadcast) (h : s.Inv) (roomId : JoinId)
    (hqos : (s.roomQosAggregate roomId nowMs).hasQos) :
    Posts p nowMs s (s.maybeBroadcastRoomQosState cfg roomId nowMs) fun l =>
      if roomId = p.roomId ∧ s.HasPeer p.roomId p.peerId then
        l.maybeSendRoomPressure p.trackId (s.roomAutomatic roomId nowMs) else l := by
  unfold roomAutomatic maybeBroadcastRoomQosState
  rw [hcast, Bool.not_true, if_neg Bool.false_ne_true]
  unfold roomQosAggregate at hqos ⊢
  cases hroom : s.rooms.lookup roomId.val with
  | none =>
    rw [hroom] at hqos
    cases hqos
  | some peers =>
    rw [hroom] at hqos
    dsimp only at hqos ⊢
    rw [hqos, Bool.not_true, if_neg Bool.false_ne_true]
    split
    · exact posts_maybeSendRoomPressureOverrides hntf h roomId _
    · refine (posts_roomState ..).before (posts_maybeSendRoomPressureOverrides hntf ?_ roomId _)
      exact h.grows (grows_signature (mem_of_lookup hroom) _ _)

/-! Records are cleaned up. -/

theorem handleMessage_expired (active : ActiveOverrides) (nowMs : ℤ) (trackId : String) :
    active.handleMessage nowMs trackId (buildPeerOverrideClearPayload "server_ttl_expired") =
      ∅ := by
  rw [ActiveOverrides.handleMessage, parseQosOverride_clear (by decide)]
  dsimp only
  have httl : (peerClear "server_ttl_expired").ttlMs = 0 := rfl
  rw [ActiveOverrides.handleOverride, if_neg (by simp [peerClear]), if_pos httl]
  apply AList.ext
  simp [ActiveOverrides.purge, Dict.filter, peerClear, clears]

theorem deliver_expired {overrides : List Json}
    (hall : ∀ data ∈ overrides, data = buildPeerOverrideClearPayload "server_ttl_expired")
    (active : ActiveOverrides) :
    deliver p nowMs overrides active = if overrides = [] then active else ∅ := by
  induction overrides generalizing active with
  | nil => rfl
  | cons data overrides ih =>
    obtain ⟨hdata, hrest⟩ := forall_mem_cons.mp hall
    change deliver p nowMs overrides (active.handleMessage nowMs p.trackId data) = ∅
    rw [hdata, handleMessage_expired, ih hrest, ite_self]

theorem Inv.parseRoomPeerKey (h : s.Inv) {key : String} (hkey : key ∈ s.autoQosOverrideRecords) :
    ∃ roomId peerId, MediasoupCpp.parseRoomPeerKey key = some (roomId, peerId) ∧
      (roomId = p.roomId.val ∧ peerId = p.peerId.val ↔
        ∃ slot : LedgerSlot, key = slot.key p.roomId p.peerId) := by
  obtain ⟨make, hmake, roomId, peerId, rfl, hpeer⟩ := h.stores.autoQosOverrideRecords key hkey
  obtain ⟨hroom, hpeer⟩ := h.named roomId peerId hpeer
  obtain ⟨slot, rfl⟩ : ∃ slot : LedgerSlot, make = slot.key := by
    rcases mem_pair.mp hmake with rfl | rfl
    · exact ⟨.automatic, rfl⟩
    · exact ⟨.roomPressure, rfl⟩
  have hkey : ∀ slot' : LedgerSlot, slot.key roomId peerId = slot'.key p.roomId p.peerId ↔
      slot = slot' ∧ (⟨roomId, hroom⟩ : JoinId) = p.roomId ∧
        (⟨peerId, hpeer⟩ : JoinId) = p.peerId :=
    fun slot' => @LedgerSlot.key_inj slot slot' ⟨roomId, hroom⟩ p.roomId ⟨peerId, hpeer⟩ p.peerId
  refine ⟨roomId, peerId, ?_, ?_⟩
  · cases slot with
    | automatic => exact parseRoomPeerKey_makePeerKey ⟨roomId, hroom⟩ ⟨peerId, hpeer⟩
    | roomPressure => exact parseRoomPeerKey_makeRoomPressureKey ⟨roomId, hroom⟩ ⟨peerId, hpeer⟩
  constructor
  · rintro ⟨hroom', hpeer'⟩
    exact ⟨slot, (hkey slot).mpr ⟨rfl, Subtype.ext hroom', Subtype.ext hpeer'⟩⟩
  rintro ⟨slot', hslot'⟩
  obtain ⟨-, hroom', hpeer'⟩ := (hkey slot').mp hslot'
  exact ⟨congrArg Subtype.val hroom', congrArg Subtype.val hpeer'⟩

def expiredClears (s : RoomService) (nowMs : ℤ) : List SentNotification :=
  (s.autoQosOverrideRecords.toPairs.filter fun (_, record) => record.expired nowMs).filterMap
    fun (key, _) => (MediasoupCpp.parseRoomPeerKey key).map fun (roomId, peerId) =>
      ⟨roomId, some peerId, .qosOverride (buildPeerOverrideClearPayload "server_ttl_expired")⟩

theorem Inv.mem_expiredClears (h : s.Inv) {data : Json} :
    data ∈ p.overrides (s.expiredClears nowMs) ↔
      data = buildPeerOverrideClearPayload "server_ttl_expired" ∧
        ∃ (slot : LedgerSlot) (record : AutoQosOverrideRecord),
          s.autoQosOverrideRecords.lookup (slot.key p.roomId p.peerId) = some record ∧
            record.expired nowMs := by
  have hsent : ∀ n, n ∈ s.expiredClears nowMs ↔ ∃ key record,
      s.autoQosOverrideRecords.lookup key = some record ∧ record.expired nowMs ∧
        (MediasoupCpp.parseRoomPeerKey key).map (fun names => (⟨names.1, some names.2,
          .qosOverride (buildPeerOverrideClearPayload "server_ttl_expired")⟩ :
            SentNotification)) = some n := by
    intro n
    simp only [expiredClears, mem_filterMap, mem_filter, Prod.exists, mem_toPairs, and_assoc]
  unfold overrides
  rw [mem_filterMap]
  constructor
  · rintro ⟨n, hn, hdata⟩
    obtain ⟨key, record, hrec, hexp, hpars⟩ := (hsent n).mp hn
    obtain ⟨roomId, peerId, hnms, hown⟩ :=
      @Inv.parseRoomPeerKey s p h key (mem_of_lookup hrec)
    rw [hnms] at hpars
    cases hpars
    split at hdata
    next hpeer =>
      simp only [all_some, Bool.and_eq_true, decide_eq_true_eq] at hpeer
      obtain ⟨slot, rfl⟩ := hown.mp hpeer
      exact ⟨(some.inj hdata).symm, slot, record, hrec, hexp⟩
    · exact absurd hdata (some_ne_none _).symm
  · rintro ⟨rfl, slot, record, hrec, hexp⟩
    obtain ⟨roomId, peerId, hnms, hown⟩ :=
      @Inv.parseRoomPeerKey s p h _ (mem_of_lookup hrec)
    obtain ⟨rfl, rfl⟩ := hown.mpr ⟨slot, rfl⟩
    refine ⟨⟨p.roomId, some p.peerId,
        .qosOverride (buildPeerOverrideClearPayload "server_ttl_expired")⟩,
      (hsent _).mpr ⟨_, record, hrec, hexp, ?_⟩, ?_⟩
    · rw [hnms]
      rfl
    · simp [QosNotification.override?]

theorem posts_cleanupExpiredQosOverrides (hntf : cfg.notify) (h : s.Inv) :
    ∃ due, Posts p nowMs s (s.cleanupExpiredQosOverrides cfg nowMs) fun l => l.cleanup due := by
  by_cases hearly : nowMs - s.lastOverrideCleanupMs < 1000
  · rw [cleanupExpiredQosOverrides, if_pos hearly]
    exact ⟨false, (Posts.refl s).congr fun _ => rfl⟩
  rw [cleanupExpiredQosOverrides, if_neg hearly]
  refine ⟨true, rfl, rfl, p.overrides (s.expiredClears nowMs), ?_, fun active => ?_⟩
  · change p.overrides (if cfg.notify then s.sent ++ s.expiredClears nowMs else s.sent) = _
    rw [if_pos hntf, overrides_append, overridesFor]
  have hall : ∀ data ∈ p.overrides (s.expiredClears nowMs),
      data = buildPeerOverrideClearPayload "server_ttl_expired" :=
    fun data hdata => (h.mem_expiredClears.mp hdata).1
  have hexp : p.overrides (s.expiredClears nowMs) = [] ↔ ¬(s.ledger p nowMs active).HasExpired := by
    rw [Ledger.hasExpired_iff, eq_nil_iff_forall_not_mem]
    simp only [h.mem_expiredClears]
    exact ⟨fun hnone hsome => hnone _ ⟨rfl, hsome⟩, fun hnone data hdata => hnone hdata.2⟩
  ext1
  · rfl
  · rfl
  · funext slot
    exact lookup_filter ..
  · change deliver p nowMs _ active = if (s.ledger p nowMs active).HasExpired then ∅ else active
    rw [deliver_expired hall, if_congr hexp rfl rfl, ite_not]

theorem posts_clientStatsStored (hntf : cfg.notify) (hcast : cfg.broadcast)
    (h : s.Inv) (hpeer : s.HasPeer roomId peerId) {entry : ReportEntry}
    (hent : getEntry s.qosRegistry roomId peerId = some entry) :
    ∃ due, Posts p nowMs s (s.clientStatsStored cfg roomId peerId nowMs) fun l => Ledger.cleanup
        (if roomId = p.roomId ∧ s.HasPeer p.roomId p.peerId then
          (if p.Is roomId peerId then l.maybeSendAutomatic p.trackId
            else l).maybeSendRoomPressure p.trackId (s.roomAutomatic roomId nowMs) else l) due := by
  unfold clientStatsStored
  obtain ⟨aggregate, hagg⟩ : ∃ aggregate,
      aggregate = QosAggregator.aggregate (getEntry s.qosRegistry roomId peerId) nowMs := ⟨_, rfl⟩
  rw [← hagg]
  dsimp only
  -- the quality, the override for it, the room and the records, one after the other
  have hqual := @posts_maybeNotifyConnectionQuality cfg s p nowMs roomId peerId aggregate
  have hgrow := @grows_maybeNotifyConnectionQuality cfg s roomId peerId hpeer aggregate
  generalize s.maybeNotifyConnectionQuality cfg roomId peerId aggregate = s₁ at hqual hgrow ⊢
  rw [← hqual.qosRegistry] at hagg
  have hfst := hqual.before (@posts_maybeSendAutomatic cfg s₁ p nowMs roomId peerId hntf
    aggregate hagg)
  have hgrow' := hgrow.trans (@grows_maybeSendAutomaticQosOverride cfg s₁ roomId peerId
    (hgrow.hasPeer _ _ hpeer) aggregate nowMs)
  generalize s₁.maybeSendAutomaticQosOverride cfg roomId peerId aggregate nowMs = s₂
    at hfst hgrow' ⊢
  have hqos : (s₂.roomQosAggregate roomId nowMs).hasQos :=
    hasQos_of_report (hgrow'.hasPeer _ _ hpeer) (by rwa [hfst.qosRegistry]) nowMs
  have hinv := h.grows hgrow'
  have hroom := @posts_maybeBroadcastRoomQosState cfg s₂ p nowMs hntf hcast hinv roomId hqos
  obtain ⟨due, hcln⟩ := @posts_cleanupExpiredQosOverrides cfg _ p nowMs hntf
    (hinv.grows (@grows_maybeBroadcastRoomQosState cfg s₂ roomId nowMs))
  refine ⟨due, ((hfst.trans hroom).trans hcln).congr fun active => ?_⟩
  have hhas : s₂.HasPeer p.roomId p.peerId ↔ s.HasPeer p.roomId p.peerId := by
    rw [HasPeer, HasPeer, hfst.rooms]
  simp only [Function.comp_apply, hhas, roomAutomatic_congr hfst.rooms hfst.qosRegistry]
  split
  · rfl
  rename_i hin
  rw [if_neg]
  rintro ⟨rfl, rfl⟩
  exact hin ⟨rfl, hpeer⟩

theorem ledger_report (roomId peerId : JoinId) (entry : ReportEntry) (active : ActiveOverrides) :
    (s.withReport roomId peerId entry).ledger p nowMs active =
      if p.Is roomId peerId then { s.ledger p nowMs active with report := some entry }
      else s.ledger p nowMs active := by
  have hrep : getEntry (putEntry s.qosRegistry roomId peerId entry) p.roomId p.peerId =
      if p.Is roomId peerId then some entry else getEntry s.qosRegistry p.roomId p.peerId := by
    rw [getEntry_putEntry]
    refine if_congr ?_ rfl rfl
    rw [WatchedPeer.Is, Subtype.ext_iff, Subtype.ext_iff, eq_comm, and_congr_right_iff]
    exact fun _ => eq_comm
  rw [ledger, withReport]
  dsimp only
  rw [hrep]
  split <;> rfl

theorem ledger_setClientStats (hntf : cfg.notify) (hcast : cfg.broadcast)
    (h : s.Inv) {roomId peerId : String} {stats : ClientReport}
    (hstor : (s.setClientStats cfg roomId peerId stats nowMs).1 = .stored)
    (hs' : s' = (s.setClientStats cfg roomId peerId stats nowMs).2) :
    s.HasPeer roomId peerId ∧ s'.rooms = s.rooms ∧
      ∃ due overrides, s'.overridesFor p = s.overridesFor p ++ overrides ∧ ∀ active,
        s'.ledger p nowMs (deliver p nowMs overrides active) = Ledger.cleanup
          (if roomId = p.roomId.val ∧ s.HasPeer p.roomId p.peerId then
            ((s.ledger p nowMs active).received p.trackId
              (p.ownReport roomId peerId ⟨stats, nowMs⟩)).maybeSendRoomPressure p.trackId
                (s'.roomAutomatic p.roomId nowMs) else s.ledger p nowMs active) due := by
  obtain ⟨hrep, -⟩ | ⟨-, hpeer, hgrow, heq⟩ :=
    setClientStats_cases cfg s roomId peerId stats nowMs
  · exact absurd hstor hrep
  obtain ⟨hroom, hname⟩ := h.named roomId peerId hpeer
  obtain ⟨room, rfl⟩ : ∃ room : JoinId, room.val = roomId := ⟨⟨roomId, hroom⟩, rfl⟩
  obtain ⟨peer, rfl⟩ : ∃ peer : JoinId, peer.val = peerId := ⟨⟨peerId, hname⟩, rfl⟩
  have hent : getEntry (s.withReport room peer ⟨stats, nowMs⟩).qosRegistry room peer =
      some ⟨stats, nowMs⟩ := (getEntry_putEntry ..).trans (if_pos ⟨rfl, rfl⟩)
  obtain ⟨due, hposts⟩ := @posts_clientStatsStored cfg _ p nowMs room peer hntf hcast
    (h.grows hgrow) hpeer _ hent
  rw [← heq, ← hs'] at hposts
  obtain ⟨overrides, htold, hpost⟩ := hposts.told
  refine ⟨hpeer, hposts.rooms, due, overrides, htold, fun active => ?_⟩
  rw [hpost, ledger_report, roomAutomatic_congr hposts.rooms hposts.qosRegistry, ownReport]
  have hown : p.Is room peer ↔ room.val = p.roomId.val ∧ peer.val = p.peerId.val :=
    and_congr Subtype.ext_iff Subtype.ext_iff
  by_cases hin : room.val = p.roomId.val ∧ s.HasPeer p.roomId p.peerId
  · obtain rfl : room = p.roomId := Subtype.ext hin.1
    rw [if_pos hin, if_pos ⟨rfl, hin.2⟩]
    by_cases hpeer' : p.Is p.roomId peer
    · rw [if_pos hpeer', if_pos hpeer', if_pos (hown.mp hpeer')]
      rfl
    · rw [if_neg hpeer', if_neg hpeer', if_neg (mt hown.mpr hpeer')]
      rfl
  · rw [if_neg hin, if_neg fun h' => hin ⟨congrArg Subtype.val h'.1, h'.2⟩, if_neg]
    rintro ⟨rfl, rfl⟩
    exact hin ⟨rfl, hpeer⟩

end Stats

end RoomService

end MediasoupCpp
