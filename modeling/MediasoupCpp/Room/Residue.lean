import MediasoupCpp.Lib.Loop
import MediasoupCpp.Room.Service

/-!
# What is left of a room

What the service keeps of a peer goes when the peer leaves, and what it keeps of a room goes when
the room is destroyed.  But the last peer that leaves takes its room with it without the room
being destroyed: what is kept of the room as such, and not of its peers, stays behind.

Main result: `absent_rooms_leave_nothing_iff`.

Source: `src/RoomServiceLifecycle.cpp`, `src/RoomCleanupHelpers.h`, `src/RoomServiceDownlink.cpp`,
`src/RoomServiceQos.cpp`, `src/RoomServiceMedia.cpp`.
-/

namespace MediasoupCpp

open List Runs Dict AList Option

/-! ### Maps whose keys are made of a room and a peer -/

def Without (has : String → String → Prop) (roomId peerId : String) (r p : String) : Prop :=
  has r p ∧ ¬(r = roomId ∧ p = peerId)

def WithoutRoom (has : String → String → Prop) (roomId : String) (r p : String) : Prop :=
  has r p ∧ r ≠ roomId

def keyMakers : List (String → String → String) := [makePeerKey, makeRoomPressureKey]

theorem toList_of_mem_keyMakers {make : String → String → String} (hmake : make ∈ keyMakers)
    (r p : String) : ∃ rest, (make r p).toList = r.toList ++ '/' :: rest ∧
      ('/' ∉ p.toList → '/' ∉ rest) := by
  simp only [keyMakers, mem_cons, not_mem_nil, or_false] at hmake
  rcases hmake with rfl | rfl
  · exact ⟨p.toList, toList_makePeerKey r p, id⟩
  · exact ⟨_, toList_makeRoomPressureKey r p, fun hp => by simp [hp]⟩

section Keys

variable {υ : Type} {makers : List (String → String → String)} {has has' : String → String → Prop}
  {map map' : Dict String υ}

def KeysOf (makers : List (String → String → String)) (has : String → String → Prop)
    (map : Dict String υ) : Prop :=
  ∀ key ∈ map, ∃ make ∈ makers, ∃ r p, key = make r p ∧ has r p

section

variable (h : KeysOf makers has map)
include h

theorem KeysOf.mono (himp : ∀ r p, has r p → has' r p) : KeysOf makers has' map := by
  intro key hkey
  obtain ⟨make, hmake, r, p, hmade, hrp⟩ := h key hkey
  exact ⟨make, hmake, r, p, hmade, himp r p hrp⟩

theorem KeysOf.of_subset (hsub : ∀ key ∈ map', key ∈ map) : KeysOf makers has map' :=
  fun key hkey => h key (hsub key hkey)

theorem KeysOf.insert {make : String → String → String}
    (hmake : make ∈ makers) {r p : String} (hrp : has r p) (v : υ) :
    KeysOf makers has (map.insert (make r p) v) := by
  intro key hkey
  rcases (mem_insert ..).mp hkey with rfl | hkey
  · exact ⟨make, hmake, r, p, rfl, hrp⟩
  · exact h key hkey

theorem KeysOf.without (hsub : ∀ key ∈ map', key ∈ map)
    {roomId peerId : String} (hgone : ∀ make ∈ makers, make roomId peerId ∉ map') :
    KeysOf makers (Without has roomId peerId) map' := by
  intro key hkey
  obtain ⟨make, hmake, r, p, rfl, hrp⟩ := h key (hsub key hkey)
  refine ⟨make, hmake, r, p, rfl, hrp, ?_⟩
  rintro ⟨rfl, rfl⟩
  exact hgone make hmake hkey

end

theorem KeysOf.erase (h : KeysOf [makePeerKey] has map) (roomId peerId : String) :
    KeysOf [makePeerKey] (Without has roomId peerId) (map.erase (makePeerKey roomId peerId)) := by
  refine h.without (fun key hkey => (mem_erase.mp hkey).2) ?_
  intro make hmake hkey
  rw [mem_singleton.mp hmake] at hkey
  exact (mem_erase.mp hkey).1 rfl

theorem KeysOf.clear (h : KeysOf keyMakers has map) (roomId peerId : String) :
    KeysOf keyMakers (Without has roomId peerId)
      (clearPeerAutomaticOverrideRecords map roomId peerId) := by
  refine h.without (fun key hkey => (mem_erase.mp (mem_erase.mp hkey).2).2) ?_
  intro make hmake hkey
  simp only [keyMakers, mem_cons, not_mem_nil, or_false] at hmake
  rcases hmake with rfl | rfl
  · exact (mem_erase.mp (mem_erase.mp hkey).2).1 rfl
  · exact (mem_erase.mp hkey).1 rfl

theorem mem_eraseKeysByPrefix {start key : String} :
    key ∈ eraseKeysByPrefix map start ↔ key ∈ map ∧ ¬start.toList <+: key.toList := by
  rw [← lookup_isSome, lookup_eraseKeysByPrefix, ← lookup_isSome]
  split <;> simp_all

theorem KeysOf.withoutRoom (h : KeysOf makers has map) (hmak : ∀ make ∈ makers, make ∈ keyMakers)
    (hsub : ∀ key ∈ map', key ∈ map) {roomId : String}
    (hgone : ∀ key ∈ map', ¬(roomKeyPrefix roomId).toList <+: key.toList) :
    KeysOf makers (WithoutRoom has roomId) map' := by
  intro key hkey
  obtain ⟨make, hmake, r, p, rfl, hrp⟩ := h key (hsub key hkey)
  refine ⟨make, hmake, r, p, rfl, hrp, ?_⟩
  rintro rfl
  obtain ⟨rest, hrest, -⟩ := toList_of_mem_keyMakers (hmak make hmake) r p
  refine hgone _ hkey ⟨rest, ?_⟩
  rw [toList_roomKeyPrefix, hrest, append_assoc, singleton_append]

theorem KeysOf.eraseKeysByPrefix (h : KeysOf makers has map)
    (hmak : ∀ make ∈ makers, make ∈ keyMakers) (roomId : String) :
    KeysOf makers (WithoutRoom has roomId)
      (MediasoupCpp.eraseKeysByPrefix map (roomKeyPrefix roomId)) :=
  h.withoutRoom hmak (fun _ hkey => (mem_eraseKeysByPrefix.mp hkey).1)
    fun _ hkey => (mem_eraseKeysByPrefix.mp hkey).2

theorem KeysOf.has_of_isPrefix (h : KeysOf makers has map)
    (hmak : ∀ make ∈ makers, make ∈ keyMakers)
    (hnm : ∀ r p, has r p → isValidJoinId r ∧ isValidJoinId p)
    {key roomId : String} (hkey : key ∈ map)
    (hst : (roomKeyPrefix roomId).toList <+: key.toList) : ∃ p, has roomId p := by
  obtain ⟨make, hmake, r, p, rfl, hrp⟩ := h key hkey
  obtain ⟨hr, hp⟩ := hnm r p hrp
  obtain ⟨_, hrest, hslash⟩ := toList_of_mem_keyMakers (hmak make hmake) r p
  rw [toList_roomKeyPrefix, hrest] at hst
  have heq := Separator.eq_of_concat_isPrefix (JoinId.slash_notMem ⟨r, hr⟩)
    (hslash (JoinId.slash_notMem ⟨p, hp⟩)) hst
  rw [String.toList_inj.mp heq]
  exact ⟨p, hrp⟩

end Keys

theorem mem_keyMakers_of_peerKey : ∀ make ∈ [makePeerKey], make ∈ keyMakers :=
  fun _ hmake => mem_cons.mpr (.inl (mem_singleton.mp hmake))

/-! ### Registries by room and peer -/

section Entries

variable {ε : Type} {has has' : String → String → Prop} {rooms : RoomEntries ε}

structure EntriesOf (has : String → String → Prop) (rooms : RoomEntries ε) : Prop where
  nonempty : ∀ r ∈ rooms, ∃ p, (getEntry rooms r p).isSome
  has : ∀ r p, (getEntry rooms r p).isSome → has r p

theorem EntriesOf.mono (h : EntriesOf has rooms) (himp : ∀ r p, has r p → has' r p) :
    EntriesOf has' rooms :=
  ⟨h.nonempty, fun r p hrp => himp r p (h.has r p hrp)⟩

variable {p r : String}

theorem EntriesOf.has_of_mem (h : EntriesOf has rooms) (hr : r ∈ rooms) : ∃ p, has r p := by
  obtain ⟨p, hp⟩ := h.nonempty r hr
  exact ⟨p, h.has r p hp⟩

theorem EntriesOf.put (h : EntriesOf has rooms) (hrp : has r p) (entry : ε) :
    EntriesOf has (putEntry rooms r p entry) where
  nonempty r' hr' := by
    rcases mem_putEntry.mp hr' with rfl | hr'
    · exact ⟨p, by rw [getEntry_putEntry, if_pos ⟨rfl, rfl⟩]; rfl⟩
    obtain ⟨p', hp'⟩ := h.nonempty r' hr'
    refine ⟨p', ?_⟩
    rw [getEntry_putEntry]
    split
    · rfl
    · exact hp'
  has r' p' hent := by
    rw [getEntry_putEntry] at hent
    split at hent
    next heq =>
      rw [heq.1, heq.2]
      exact hrp
    · exact h.has r' p' hent

theorem upsertEntry_of_taken {rejects : ε → ε → Option String} {entry : ε}
    (h : (upsertEntry rejects rooms r p entry).2 = none) :
    (upsertEntry rejects rooms r p entry).1 = putEntry rooms r p entry := by
  rw [upsertEntry_eq] at h ⊢
  split at h
  · cases h
  · exact putEntry_touchRoom entry

theorem EntriesOf.upsert (h : EntriesOf has rooms) (hrp : has r p)
    (rejects : ε → ε → Option String) (entry : ε) :
    EntriesOf has (upsertEntry rejects rooms r p entry).1 := by
  cases hrep : (upsertEntry rejects rooms r p entry).2 with
  | some reason => rwa [upsertEntry_of_rejected hrep]
  | none =>
    rw [upsertEntry_of_taken hrep]
    exact h.put hrp entry

theorem EntriesOf.eraseEntry (h : EntriesOf has rooms) (roomId peerId : String) :
    EntriesOf (Without has roomId peerId) (MediasoupCpp.eraseEntry rooms roomId peerId) where
  nonempty r hr := by
    unfold MediasoupCpp.eraseEntry at hr ⊢
    split at hr
    · exact h.nonempty r hr
    split_ifs at hr with hemp
    · rw [if_pos hemp]
      obtain ⟨hne, hr⟩ := mem_erase.mp hr
      obtain ⟨p, hp⟩ := h.nonempty r hr
      refine ⟨p, ?_⟩
      rwa [getEntry, lookup_erase_eq, if_neg hne]
    · rw [if_neg hemp]
      by_cases hroom : r = roomId
      · obtain ⟨p, hp⟩ := exists_lookup_of_isEmpty (Bool.not_eq_true _ ▸ hemp)
        refine ⟨p, ?_⟩
        rwa [getEntry, lookup_insert_eq, if_pos hroom]
      · obtain ⟨p, hp⟩ := h.nonempty r (((mem_insert ..).mp hr).resolve_left hroom)
        refine ⟨p, ?_⟩
        rwa [getEntry, lookup_insert_eq, if_neg hroom]
  has r p hent := by
    rw [getEntry_eraseEntry] at hent
    split at hent
    · cases hent
    next hne =>
      exact ⟨h.has r p hent, hne⟩

theorem EntriesOf.eraseRoom (h : EntriesOf has rooms) (roomId : String) :
    EntriesOf (WithoutRoom has roomId) (rooms.erase roomId) := by
  have hlook : ∀ r p, r ≠ roomId →
      getEntry (AList.erase roomId rooms) r p = getEntry rooms r p := by
    intro r p hne
    rw [getEntry, lookup_erase_eq, if_neg hne, getEntry]
  refine ⟨fun r hr => ?_, fun r p hent => ?_⟩
  · obtain ⟨hne, hr⟩ := mem_erase.mp hr
    obtain ⟨p, _⟩ := h.nonempty r hr
    exact ⟨p, by rwa [hlook r p hne]⟩
  · have hne : r ≠ roomId := (mem_erase.mp (mem_of_getEntry hent)).1
    rw [hlook r p hne] at hent
    exact ⟨h.has r p hent, hne⟩

end Entries

/-! ### All that is kept of peers -/

structure PeerStores.Of (has : String → String → Prop) (s : PeerStores) : Prop where
  recorders : KeysOf [makePeerKey] has s.recorders
  recorderTransports : ∀ key ∈ s.recorderTransports, key ∈ s.recorders
  qosRegistry : EntriesOf has s.qosRegistry
  downlinkQosRegistry : EntriesOf has s.downlinkQosRegistry
  subscriberControllers : KeysOf [makePeerKey] has s.subscriberControllers
  autoQosOverrideRecords : KeysOf keyMakers has s.autoQosOverrideRecords
  lastConnectionQualitySignatures : KeysOf [makePeerKey] has s.lastConnectionQualitySignatures
  trackQosOverrideRecords : ∀ key ∈ s.trackQosOverrideRecords, has key.roomId key.peerId

namespace PeerStores

variable {has has' : String → String → Prop} {s : PeerStores}

section

variable (h : s.Of has)
include h

theorem Of.mono (himp : ∀ r p, has r p → has' r p) : s.Of has' where
  recorders := h.recorders.mono himp
  recorderTransports := h.recorderTransports
  qosRegistry := h.qosRegistry.mono himp
  downlinkQosRegistry := h.downlinkQosRegistry.mono himp
  subscriberControllers := h.subscriberControllers.mono himp
  autoQosOverrideRecords := h.autoQosOverrideRecords.mono himp
  lastConnectionQualitySignatures := h.lastConnectionQualitySignatures.mono himp
  trackQosOverrideRecords key hkey := himp _ _ (h.trackQosOverrideRecords key hkey)

theorem Of.recorder {roomId peerId : String} (hpeer : has roomId peerId)
    (set : Bool) :
    Of has { s with recorders := s.recorders.insert (makePeerKey roomId peerId) set } :=
  { h with
    recorders := h.recorders.insert (mem_singleton.mpr rfl) hpeer set
    recorderTransports := fun key hkey =>
      (mem_insert ..).mpr (.inr (h.recorderTransports key hkey)) }

theorem Of.recorderTransport {key : String} (hkey : key ∈ s.recorders)
    (producers : List String) :
    Of has { s with recorderTransports := s.recorderTransports.insert key producers } :=
  { h with
    recorderTransports := fun key' hkey' => by
      rcases (mem_insert ..).mp hkey' with rfl | hkey'
      · exact hkey
      · exact h.recorderTransports key' hkey' }

theorem Of.erasePeer (roomId peerId : String) :
    (s.erasePeer roomId peerId).Of (Without has roomId peerId) where
  recorders := h.recorders.erase roomId peerId
  recorderTransports key hkey := by
    obtain ⟨hne, hkey⟩ := mem_erase.mp hkey
    exact mem_erase.mpr ⟨hne, h.recorderTransports key hkey⟩
  qosRegistry := h.qosRegistry.eraseEntry roomId peerId
  downlinkQosRegistry := h.downlinkQosRegistry.eraseEntry roomId peerId
  subscriberControllers := h.subscriberControllers.erase roomId peerId
  autoQosOverrideRecords := h.autoQosOverrideRecords.clear roomId peerId
  lastConnectionQualitySignatures := h.lastConnectionQualitySignatures.erase roomId peerId
  trackQosOverrideRecords key hkey := by
    obtain ⟨_, _, hkeep⟩ := mem_filter.mp hkey
    refine ⟨h.trackQosOverrideRecords key (mem_of_mem_filter hkey), fun hpeer => ?_⟩
    simp [hpeer] at hkeep

theorem Of.eraseRoom (roomId : String) : (s.eraseRoom roomId).Of (WithoutRoom has roomId) where
  recorders := h.recorders.eraseKeysByPrefix mem_keyMakers_of_peerKey roomId
  recorderTransports key hkey := by
    obtain ⟨_, _, hkeep⟩ := mem_filter.mp hkey
    have hrecorder := h.recorderTransports key (mem_of_mem_filter hkey)
    refine mem_eraseKeysByPrefix.mpr ⟨hrecorder, fun hst => ?_⟩
    rw [List.isPrefixOf_iff_prefix.mpr hst, lookup_isSome.mpr hrecorder] at hkeep
    cases hkeep
  qosRegistry := h.qosRegistry.eraseRoom roomId
  downlinkQosRegistry := h.downlinkQosRegistry.eraseRoom roomId
  subscriberControllers := h.subscriberControllers.eraseKeysByPrefix mem_keyMakers_of_peerKey roomId
  autoQosOverrideRecords :=
    h.autoQosOverrideRecords.eraseKeysByPrefix (fun _ hmake => hmake) roomId
  lastConnectionQualitySignatures :=
    h.lastConnectionQualitySignatures.eraseKeysByPrefix mem_keyMakers_of_peerKey roomId
  trackQosOverrideRecords key hkey := by
    obtain ⟨_, _, hkeep⟩ := mem_filter.mp hkey
    exact ⟨h.trackQosOverrideRecords key (mem_of_mem_filter hkey), by simpa using hkeep⟩

end

end PeerStores

/-! ### The rooms the planner knows -/

namespace Scheduler

variable {interval : ℕ} {s : Scheduler} {r roomId : String}

def Names (s : Scheduler) (r : String) : Prop :=
  r ∈ s.dirtyDownlinkRooms ∨ r ∈ s.pendingDownlinkRooms ∨ r ∈ s.downlinkRoomPlanStates ∨
    ∃ task ∈ s.running, r ∈ task.deferredRooms ∨ task.pass = some r

def PassPlanned (s : Scheduler) : Prop :=
  ∀ task ∈ s.running, ∀ r ∈ task.pass, r ∈ s.downlinkRoomPlanStates

/-- What a step of a task does to the rooms: it makes plan states for rooms the planner knows. -/
structure Works (s s' : Scheduler) : Prop where
  names : ∀ r, s'.Names r → s.Names r
  planStates : ∀ r ∈ s.downlinkRoomPlanStates, r ∈ s'.downlinkRoomPlanStates
  passPlanned : s.PassPlanned → s'.PassPlanned

theorem Works.refl (s : Scheduler) : Works s s := ⟨fun _ h => h, fun _ h => h, fun h => h⟩

theorem names_markDownlinkRoomDirty (h : (s.markDownlinkRoomDirty roomId).Names r) :
    r = roomId ∨ s.Names r := by
  have henq : (s.enqueue roomId).Names r → r = roomId ∨ s.Names r := by
    unfold enqueue
    split
    · exact .inr
    rintro (h | h | h | h)
    · exact (Finset.mem_insert.mp h).imp_right .inl
    · rcases mem_append.mp h with h | h
      · exact .inr (.inr (.inl h))
      · exact .inl (mem_singleton.mp h)
    · exact .inr (.inr (.inr (.inl h)))
    · exact .inr (.inr (.inr (.inr h)))
  unfold markDownlinkRoomDirty at h
  dsimp only at h
  split at h
  · exact henq h
  split at h <;> exact henq h

theorem works_runTask (s : Scheduler) (token : ℕ) (nowMs : ℤ) :
    Works s (s.runTask token nowMs) := by
  unfold runTask
  dsimp only
  split
  · exact ⟨fun _ h => h, fun _ h => h, fun h => h⟩
  split
  · exact ⟨fun _ h => h, fun _ h => h, fun h => h⟩
  refine ⟨fun r h => ?_, fun _ h => h, fun _ => ?_⟩
  · rcases h with h | h | h | ⟨task, ⟨⟩, h | h⟩
    · exact .inl h
    · exact .inr (.inl h)
    · exact .inr (.inr (.inl h))
    · cases h
    · cases h
  · rintro task ⟨⟩ r h
    cases h

variable {task : PlanningTask}

section

variable (hrun : s.running = some task)
include hrun

theorem works_endTask (nowMs : ℤ) : Works s (s.endTask task nowMs) := by
  have hwork : ∀ s' : Scheduler, s'.running = none →
      s'.dirtyDownlinkRooms = s.dirtyDownlinkRooms ∪ task.deferredRooms.toFinset →
      s'.pendingDownlinkRooms = s.pendingDownlinkRooms ++ task.deferredRooms →
      s'.downlinkRoomPlanStates = s.downlinkRoomPlanStates → Works s s' := by
    intro s' hnone hdirty hpend hsts
    refine ⟨fun r h => ?_, fun r h => by rwa [hsts], fun _ task' htask' => ?_⟩
    · -- what was deferred is in the queue now
      have hdef : r ∈ task.deferredRooms → s.Names r := fun h =>
        .inr (.inr (.inr ⟨task, hrun, .inl h⟩))
      rw [Names, hdirty, hpend, hsts, hnone] at h
      rcases h with h | h | h | ⟨task', htask', -⟩
      · rcases Finset.mem_union.mp h with h | h
        · exact .inl h
        · exact hdef (mem_toFinset.mp h)
      · rcases mem_append.mp h with h | h
        · exact .inr (.inl h)
        · exact hdef h
      · exact .inr (.inr (.inl h))
      · cases htask'
    · rw [hnone] at htask'
      cases htask'
  unfold endTask
  dsimp only
  split <;> exact hwork _ rfl rfl rfl rfl

theorem works_takeRoom (hpass : task.pass = none) {rest : List String}
    (hpend : s.pendingDownlinkRooms = roomId :: rest) : Works s (s.takeRoom task roomId rest) := by
  have hroom : s.Names roomId := .inr (.inl (hpend ▸ mem_cons_self))
  have hnms : ∀ s' : Scheduler, (∀ task' ∈ s'.running, ∀ r,
        r ∈ task'.deferredRooms ∨ task'.pass = some r → r ∈ task.deferredRooms ∨ r = roomId) →
      s'.dirtyDownlinkRooms = s.dirtyDownlinkRooms.erase roomId → s'.pendingDownlinkRooms = rest →
      s'.downlinkRoomPlanStates = s.downlinkRoomPlanStates.insert roomId (s.planState roomId) →
      ∀ r, s'.Names r → s.Names r := by
    intro s' htask hdirty hrest hsts r h
    rw [Names, hdirty, hrest, hsts] at h
    rcases h with h | h | h | ⟨task', htask', h⟩
    · exact .inl (Finset.mem_of_mem_erase h)
    · exact .inr (.inl (hpend ▸ mem_cons_of_mem _ h))
    · rcases (mem_insert ..).mp h with rfl | h
      · exact hroom
      · exact .inr (.inr (.inl h))
    · rcases htask task' htask' r h with h | rfl
      · exact .inr (.inr (.inr ⟨task, hrun, .inl h⟩))
      · exact hroom
  have hsts : ∀ r ∈ s.downlinkRoomPlanStates,
      r ∈ s.downlinkRoomPlanStates.insert roomId (s.planState roomId) := fun r h =>
    (mem_insert ..).mpr (.inr h)
  unfold takeRoom
  dsimp only
  split
  · refine ⟨hnms _ ?_ rfl rfl rfl, hsts, fun _ => ?_⟩
    · rintro task' ⟨⟩ r (h | h)
      · rcases mem_append.mp h with h | h
        · exact .inl h
        · exact .inr (mem_singleton.mp h)
      · rw [hpass] at h
        cases h
    · rintro task' ⟨⟩ r h
      rw [hpass] at h
      cases h
  · refine ⟨hnms _ ?_ rfl rfl rfl, hsts, fun _ => ?_⟩
    · rintro task' ⟨⟩ r (h | h)
      · exact .inl h
      · exact .inr (some.inj h).symm
    · rintro task' ⟨⟩ r ⟨⟩
      exact (mem_insert ..).mpr (.inl rfl)

theorem works_endPass (hpass : task.pass = some roomId) (planState : DownlinkRoomPlanState) :
    Works s { s with
      running := some { task with pass := none }
      downlinkRoomPlanStates := s.downlinkRoomPlanStates.insert roomId planState } := by
  refine ⟨fun r h => ?_, fun r h => (mem_insert ..).mpr (.inr h), fun _ => ?_⟩
  · rcases h with h | h | h | ⟨task', ⟨⟩, h | h⟩
    · exact .inl h
    · exact .inr (.inl h)
    · rcases (mem_insert ..).mp h with rfl | h
      · exact .inr (.inr (.inr ⟨task, hrun, .inr hpass⟩))
      · exact .inr (.inr (.inl h))
    · exact .inr (.inr (.inr ⟨task, hrun, .inl h⟩))
    · cases h
  · rintro task' ⟨⟩ r h
    cases h

end

theorem works_step (s : Scheduler) {e : SchedulerEvent} (hmark : ∀ r, e ≠ .mark r)
    (hclean : ∀ r, e ≠ .cleanup r) : Works s (s.step interval e) := by
  have hstep := step_transition interval s e
  generalize s.step interval e = s' at hstep ⊢
  cases hstep with
  | stay e => exact Works.refl s
  | mark r => exact absurd rfl (hmark r)
  | runTask token nowMs hrun => exact works_runTask s token nowMs
  | endTask nowMs hrun hpass hpend => exact works_endTask hrun nowMs
  | takeRoom nowMs hrun hpass hpend => exact works_takeRoom hrun hpass hpend
  | endPass threw hrun hpass => exact works_endPass hrun hpass _
  | cleanup r hrun => exact absurd rfl (hclean r)

theorem names_cleanup (hrun : s.running = none) (h : (s.cleanup roomId).Names r) :
    s.Names r ∧ r ≠ roomId := by
  rcases h with h | h | h | ⟨_, htask, -⟩
  · exact ⟨.inl (Finset.mem_of_mem_erase h), Finset.ne_of_mem_erase h⟩
  · obtain ⟨h, hne⟩ := mem_filter.mp h
    exact ⟨.inr (.inl h), by simpa using hne⟩
  · obtain ⟨hne, h⟩ := mem_erase.mp h
    exact ⟨.inr (.inr (.inl h)), hne⟩
  have hnone : (s.cleanup roomId).running = none := hrun
  rw [hnone] at htask
  cases htask

end Scheduler

open Scheduler

/-! ### What the calls do -/

namespace RoomService

variable {cfg : ServiceConfig} {s s' s'' : RoomService} {roomId peerId : String}

def HasPeer (s : RoomService) (r p : String) : Prop := (getEntry s.rooms r p).isSome = true

/-- Something is kept of the room that is not kept of one of its peers.  (Of a room with a demand
there is also a plan state.) -/
def KeepsRoom (s : RoomService) (r : String) : Prop :=
  r ∈ s.lastRoomQosStateSignatures ∨ s.planner.Names r ∨ r ∈ s.producerOwnerPeerIds

/-- **What all calls do but those that remove peers or rooms.**  No room and no peer goes, and what
comes to be kept is kept of rooms and peers that are there. -/
structure Grows (s s' : RoomService) : Prop where
  rooms : ∀ r ∈ s.rooms, r ∈ s'.rooms
  hasPeer : ∀ r p, s.HasPeer r p → s'.HasPeer r p
  named : ∀ r p, s'.HasPeer r p → s.HasPeer r p ∨ isValidJoinId r = true ∧ isValidJoinId p = true
  stores : s.toPeerStores.Of s.HasPeer → s'.toPeerStores.Of s'.HasPeer
  keeps : ∀ r, s'.KeepsRoom r → s.KeepsRoom r ∨ r ∈ s'.rooms
  running : s'.planner.running = s.planner.running
  planStates : s'.planner.downlinkRoomPlanStates = s.planner.downlinkRoomPlanStates
  demand : ∀ r ∈ s'.producerDemandCache,
    r ∈ s.producerDemandCache ∨ r ∈ s.planner.downlinkRoomPlanStates

theorem Grows.refl (s : RoomService) : Grows s s where
  rooms _ h := h
  hasPeer _ _ h := h
  named _ _ h := .inl h
  stores h := h
  keeps _ h := .inl h
  running := rfl
  planStates := rfl
  demand _ h := .inl h

theorem Grows.trans (h : Grows s s') (h' : Grows s' s'') : Grows s s'' where
  rooms r hr := h'.rooms r (h.rooms r hr)
  hasPeer r p hrp := h'.hasPeer r p (h.hasPeer r p hrp)
  named r p hrp := by
    rcases h'.named r p hrp with hrp | hval
    · exact h.named r p hrp
    · exact .inr hval
  stores hof := h'.stores (h.stores hof)
  keeps r hr := by
    rcases h'.keeps r hr with hr | hr
    · exact (h.keeps r hr).imp_right (h'.rooms r)
    · exact .inr hr
  running := h'.running.trans h.running
  planStates := h'.planStates.trans h.planStates
  demand r hr := by
    rcases h'.demand r hr with hr | hr
    · exact h.demand r hr
    · exact .inr (h.planStates ▸ hr)

theorem Grows.foldl {α : Type} {f : RoomService → α → RoomService} {l : List α}
    (h : ∀ a ∈ l, ∀ s', Grows s s' → Grows s' (f s' a)) : Grows s (l.foldl f s) :=
  Loop.foldl_rel Grows.refl Grows.trans h

theorem Grows.of_stores {stores : PeerStores}
    (h : s.toPeerStores.Of s.HasPeer → stores.Of s.HasPeer) :
    Grows s { s with toPeerStores := stores } :=
  { Grows.refl s with stores := h }

theorem grows_sent (sent : List SentNotification) : Grows s { s with sent := sent } :=
  { Grows.refl s with }

theorem grows_notify (r p : String) (n : QosNotification) : Grows s (s.notify cfg r p n) := by
  unfold notify
  split
  · exact grows_sent _
  · exact Grows.refl s

/-- **What calls about media do.**  No report or record of an override comes or goes, and nothing is
sent. -/
structure Tends (s s' : RoomService) : Prop extends Grows s s' where
  qosRegistry : s'.qosRegistry = s.qosRegistry
  autoQosOverrideRecords : s'.autoQosOverrideRecords = s.autoQosOverrideRecords
  sent : s'.sent = s.sent

theorem Tends.refl (s : RoomService) : Tends s s := ⟨Grows.refl s, rfl, rfl, rfl⟩

theorem Tends.trans (h : Tends s s') (h' : Tends s' s'') : Tends s s'' where
  toGrows := h.toGrows.trans h'.toGrows
  qosRegistry := h'.qosRegistry.trans h.qosRegistry
  autoQosOverrideRecords := h'.autoQosOverrideRecords.trans h.autoQosOverrideRecords
  sent := h'.sent.trans h.sent

theorem Tends.of_stores {stores : PeerStores}
    (h : s.toPeerStores.Of s.HasPeer → stores.Of s.HasPeer)
    (hreg : stores.qosRegistry = s.qosRegistry)
    (hrecs : stores.autoQosOverrideRecords = s.autoQosOverrideRecords) :
    Tends s { s with toPeerStores := stores } :=
  ⟨Grows.of_stores h, hreg, hrecs, rfl⟩

theorem tends_markDownlinkRoomDirty (hroom : roomId ∈ s.rooms) :
    Tends s (s.markDownlinkRoomDirty roomId) := by
  obtain ⟨-, hrun, hsts, -⟩ := s.planner.markDownlinkRoomDirty_frame roomId
  refine ⟨{ Grows.refl s with keeps := fun r h => ?_, running := hrun, planStates := hsts },
    rfl, rfl, rfl⟩
  rcases h with h | h | h
  · exact .inl (.inl h)
  · rcases names_markDownlinkRoomDirty h with rfl | h
    · exact .inr hroom
    · exact .inl (.inr (.inl h))
  · exact .inl (.inr (.inr h))

/-! ### Producers and peers -/

variable {rooms : RoomEntries ServicePeer} {peer : ServicePeer} {p r : String}
  {peers : Dict String ServicePeer} {nowMs : ℤ}

theorem mem_of_mem_cleanupCache {τ : Type} {clean : τ → τ} {isEmpty : τ → Bool}
    {cache : Dict String τ} (h : r ∈ cleanupCache clean isEmpty roomId cache) : r ∈ cache := by
  unfold cleanupCache at h
  split at h
  · exact h
  rename_i hprods
  split at h
  · exact (mem_erase.mp h).2
  rcases (mem_insert ..).mp h with rfl | h
  · exact mem_of_lookup hprods
  · exact h

theorem tends_cleanupPeerProducerCaches (producers producers' : List String) :
    Tends s ((s.cleanupPeerProducerOwnerCache roomId producers).cleanupPeerProducerDemandCache
      roomId producers') := by
  refine ⟨{ Grows.refl s with
    keeps := fun r h => .inl ?_
    demand := fun r h => .inl (mem_of_mem_cleanupCache h) }, rfl, rfl, rfl⟩
  rcases h with h | h | h
  · exact .inl h
  · exact .inr (.inl h)
  · exact .inr (.inr (mem_of_mem_cleanupCache h))

theorem tends_indexPeerProducers (hroom : roomId ∈ s.rooms) (producers : List String) :
    Tends s (s.indexPeerProducers roomId peerId producers) := by
  refine ⟨{ Grows.refl s with keeps := fun r h => ?_ }, rfl, rfl, rfl⟩
  rcases h with h | h | h
  · exact .inl (.inl h)
  · exact .inl (.inr (.inl h))
  rcases (mem_insert ..).mp h with rfl | h
  · exact .inr hroom
  · exact .inl (.inr (.inr h))

theorem hasPeer_putEntry : (getEntry (putEntry rooms roomId peerId peer) r p).isSome ↔
      r = roomId ∧ p = peerId ∨ (getEntry rooms r p).isSome := by
  rw [getEntry_putEntry]
  split <;> simp_all

theorem grows_putEntry (hrms : ∀ r ∈ s.rooms, r ∈ rooms)
    (hents : ∀ r p, getEntry rooms r p = getEntry s.rooms r p)
    (hnm : s.HasPeer roomId peerId ∨
      isValidJoinId roomId ∧ isValidJoinId peerId) (peer : ServicePeer) :
    Grows s { s with rooms := putEntry rooms roomId peerId peer } := by
  have hhas : ∀ r p, s.HasPeer r p → (getEntry (putEntry rooms roomId peerId peer) r p).isSome :=
    fun r p h => hasPeer_putEntry.mpr (.inr (by rwa [hents]))
  refine { Grows.refl s with rooms := fun r h => mem_putEntry.mpr (.inr (hrms r h)),
                             hasPeer := hhas,
                             named := fun r p h => ?_, stores := fun h => h.mono hhas,
                             keeps := fun r h => .inl h }
  rcases hasPeer_putEntry.mp h with ⟨rfl, rfl⟩ | h
  · exact hnm
  · exact .inl (by rwa [HasPeer, ← hents])

theorem hasPeer_of_getEntry (h : getEntry s.rooms roomId peerId = some peer) :
    s.HasPeer roomId peerId := Option.isSome_iff_exists.mpr ⟨peer, h⟩

theorem tends_setPeer (hpeer : s.HasPeer roomId peerId) (peer : ServicePeer) :
    Tends s (s.setPeer roomId peerId peer) :=
  ⟨grows_putEntry (fun _ h => h) (fun _ _ => rfl) (.inl hpeer) peer, rfl, rfl, rfl⟩

theorem tends_withPeer {call : ServicePeer → RoomService}
    (h : ∀ peer, s.HasPeer roomId peerId → Tends s (call peer)) :
    Tends s (s.withPeer roomId peerId call) := by
  unfold withPeer
  split
  · exact Tends.refl s
  next peer hpeer =>
    exact h peer (hasPeer_of_getEntry hpeer)

theorem tends_closeEntries (producers consumers : List String) :
    Tends s (s.closeEntries roomId peerId producers consumers) :=
  tends_withPeer fun _ hpeer => tends_setPeer hpeer _

theorem tends_replaceTransport (producing : Bool) (producers consumers : List String) :
    Tends s (s.replaceTransport roomId peerId producing producers consumers) := by
  refine tends_withPeer fun _ _ => ?_
  have hcl := @tends_closeEntries s roomId peerId producers consumers
  split
  · exact hcl.trans (tends_cleanupPeerProducerCaches [] [])
  · exact hcl

theorem tends_trackPeerProducer (producerId : String) :
    Tends s (trackPeerProducer roomId peerId s producerId) :=
  tends_withPeer fun _ hpeer => tends_setPeer hpeer _

/-! ### Recorders -/

theorem tends_recordProducer (key producerId : String) (consumed : Bool) :
    Tends s (s.recordProducer key producerId consumed) := by
  unfold recordProducer
  split
  · exact Tends.refl s
  rename_i hprods
  split
  · refine Tends.of_stores (fun h => h.recorderTransport ?_ _) rfl rfl
    exact h.recorderTransports key (mem_of_lookup hprods)
  · exact Tends.refl s

theorem tends_autoRecord (hpeer : s.HasPeer roomId peerId) (producerId : String)
    (start : RecorderStart) (consumed : Bool) :
    Tends s (s.autoRecord cfg roomId peerId producerId start consumed) := by
  have hstart : Tends s { s with
      recorders := s.recorders.insert (makePeerKey roomId peerId) true
      recorderTransports := s.recorderTransports.insert (makePeerKey roomId peerId) [] } :=
    Tends.of_stores (fun h => (h.recorder hpeer true).recorderTransport
      ((mem_insert ..).mpr (.inl rfl)) []) rfl rfl
  unfold autoRecord
  split
  · exact Tends.refl s
  dsimp only
  split
  · exact tends_recordProducer _ producerId consumed
  cases start with
  | failed => exact Tends.of_stores (fun h => h.recorder hpeer false) rfl rfl
  | noTransport => exact Tends.of_stores (fun h => h.recorder hpeer true) rfl rfl
  | notConnected => exact hstart
  | ready => exact hstart.trans (tends_recordProducer _ producerId consumed)

theorem tends_produce (made : Option String) (start : RecorderStart) (consumed : Bool) :
    Tends s (s.produce cfg roomId peerId made start consumed) := by
  unfold produce
  split
  · exact Tends.refl s
  rename_i producerId
  refine tends_withPeer fun peer hpeer => ?_
  have htr := @tends_trackPeerProducer s roomId peerId producerId
  refine htr.trans ((tends_indexPeerProducers (htr.rooms _ (mem_of_getEntry hpeer)) _).trans
    (tends_autoRecord ?_ producerId start consumed))
  exact htr.hasPeer _ _ hpeer

theorem tends_plainPublish (closing made : List String) (completed : Bool) :
    Tends s (s.plainPublish roomId peerId closing made completed) := by
  refine tends_withPeer fun _ _ => ?_
  have hrepl := @tends_replaceTransport s roomId peerId true closing []
  have hmade : Tends s (made.foldl (trackPeerProducer roomId peerId)
      (s.replaceTransport roomId peerId true closing [])) :=
    hrepl.trans (Loop.foldl_rel Tends.refl Tends.trans
      fun producerId _ _ _ => tends_trackPeerProducer producerId)
  split
  · exact hmade.trans (tends_withPeer fun peer hpeer =>
      tends_indexPeerProducers (mem_of_getEntry hpeer) _)
  · exact hmade

theorem tends_changeConsumer (consumerId : String) :
    Tends s (s.changeConsumer roomId peerId consumerId) := by
  refine tends_withPeer fun peer hpeer => ?_
  split
  · exact Tends.refl s
  · refine Tends.of_stores (fun h => { h with subscriberControllers := ?_ }) rfl rfl
    exact h.subscriberControllers.insert (mem_singleton.mpr rfl) hpeer _

/-! ### Reports -/

theorem grows_maybeNotifyConnectionQuality (hpeer : s.HasPeer roomId peerId)
    (aggregate : PeerQosAggregate) :
    Grows s (s.maybeNotifyConnectionQuality cfg roomId peerId aggregate) := by
  unfold maybeNotifyConnectionQuality
  split
  · exact Grows.refl s
  dsimp only
  split
  · exact Grows.refl s
  have hntf := @grows_notify cfg s roomId peerId
    (.qosConnectionQuality (buildConnectionQualityPayload aggregate))
  refine hntf.trans (Grows.of_stores fun h =>
    { h with lastConnectionQualitySignatures := ?_ })
  exact h.lastConnectionQualitySignatures.insert (mem_singleton.mpr rfl)
    (hntf.hasPeer _ _ hpeer) _

theorem grows_clearAutomaticQosOverride (key reason : String) :
    Grows s (s.clearAutomaticQosOverride cfg roomId peerId key reason) := by
  unfold clearAutomaticQosOverride
  split
  · exact Grows.refl s
  exact (grows_notify ..).trans (Grows.of_stores fun h =>
    { h with autoQosOverrideRecords :=
        h.autoQosOverrideRecords.of_subset fun _ hkey => (mem_erase.mp hkey).2 })

section

variable (hpeer : s.HasPeer roomId peerId)
include hpeer

theorem grows_sendAutomaticQosOverride {make : String → String → String}
    (hmake : make ∈ keyMakers) (overrideData : QosOverride) (nowMs : ℤ) :
    Grows s (s.sendAutomaticQosOverride cfg roomId peerId (make roomId peerId) overrideData
      nowMs) := by
  have hntf := @grows_notify cfg s roomId peerId (.qosOverride overrideData.raw)
  exact hntf.trans (Grows.of_stores fun h =>
    { h with autoQosOverrideRecords :=
        h.autoQosOverrideRecords.insert hmake (hntf.hasPeer _ _ hpeer) _ })

theorem grows_maybeSendAutomaticQosOverride (aggregate : PeerQosAggregate) (nowMs : ℤ) :
    Grows s (s.maybeSendAutomaticQosOverride cfg roomId peerId aggregate nowMs) := by
  unfold maybeSendAutomaticQosOverride
  dsimp only
  split
  · exact grows_clearAutomaticQosOverride ..
  split
  · exact Grows.refl s
  · exact grows_sendAutomaticQosOverride hpeer mem_cons_self _ nowMs

theorem grows_maybeSendRoomPressureOverride (roomAutomatic : Option QosOverride) (nowMs : ℤ) :
    Grows s (maybeSendRoomPressureOverride cfg roomId roomAutomatic nowMs s peerId) := by
  unfold maybeSendRoomPressureOverride
  dsimp only
  split
  · exact grows_clearAutomaticQosOverride ..
  split
  · exact grows_clearAutomaticQosOverride ..
  split
  · exact Grows.refl s
  · exact grows_sendAutomaticQosOverride hpeer
      (mem_cons_of_mem _ (mem_singleton.mpr rfl)) _ nowMs

end

theorem hasPeer_of_mem_keys
    (hroom : s.rooms.lookup roomId = some peers) (hpeer : peerId ∈ peers.keys) :
    s.HasPeer roomId peerId := by
  rw [HasPeer, getEntry_of_lookup hroom]
  exact lookup_isSome.mpr (mem_keys.mpr hpeer)

theorem grows_maybeSendRoomPressureOverrides (aggregate : RoomQosAggregate) (nowMs : ℤ) :
    Grows s (s.maybeSendRoomPressureOverrides cfg roomId aggregate nowMs) := by
  unfold maybeSendRoomPressureOverrides
  split
  · exact Grows.refl s
  rename_i hroom
  split
  · exact Grows.foldl fun p hp s' hs' =>
      grows_maybeSendRoomPressureOverride (hs'.hasPeer _ _ (hasPeer_of_mem_keys hroom hp)) _ nowMs
  · exact Grows.refl s

theorem grows_signature (hroom : roomId ∈ s.rooms) (signature : Json)
    (sent : List SentNotification) :
    Grows s { s with
      sent := sent
      lastRoomQosStateSignatures := s.lastRoomQosStateSignatures.insert roomId signature } := by
  refine { Grows.refl s with keeps := fun r h => ?_ }
  rcases h with h | h | h
  · rcases (mem_insert ..).mp h with rfl | h
    · exact .inr hroom
    · exact .inl (.inl h)
  · exact .inl (.inr (.inl h))
  · exact .inl (.inr (.inr h))

theorem grows_maybeBroadcastRoomQosState (nowMs : ℤ) :
    Grows s (s.maybeBroadcastRoomQosState cfg roomId nowMs) := by
  unfold maybeBroadcastRoomQosState
  split
  · exact Grows.refl s
  split
  · exact Grows.refl s
  rename_i hroom
  dsimp only
  split
  · refine { Grows.refl s with keeps := fun r h => .inl ?_ }
    rcases h with h | h | h
    · exact .inl (mem_erase.mp h).2
    · exact .inr (.inl h)
    · exact .inr (.inr h)
  · refine Grows.trans ?_ (grows_maybeSendRoomPressureOverrides _ nowMs)
    split
    · exact Grows.refl s
    · exact grows_signature (mem_of_lookup hroom) _ _

theorem grows_cleanupExpiredQosOverrides (nowMs : ℤ) :
    Grows s (s.cleanupExpiredQosOverrides cfg nowMs) := by
  unfold cleanupExpiredQosOverrides
  split
  · exact Grows.refl s
  exact { Grows.refl s with
    stores := fun h =>
      { h with autoQosOverrideRecords :=
          h.autoQosOverrideRecords.of_subset fun _ => mem_of_mem_filter } }

theorem grows_clientStatsStored (hpeer : s.HasPeer roomId peerId) (nowMs : ℤ) :
    Grows s (s.clientStatsStored cfg roomId peerId nowMs) := by
  unfold clientStatsStored
  have hqual := @grows_maybeNotifyConnectionQuality cfg s roomId peerId hpeer
    (QosAggregator.aggregate (getEntry s.qosRegistry roomId peerId) nowMs)
  exact hqual.trans ((grows_maybeSendAutomaticQosOverride (hqual.hasPeer _ _ hpeer) _
    nowMs).trans ((grows_maybeBroadcastRoomQosState nowMs).trans
      (grows_cleanupExpiredQosOverrides nowMs)))

def withReport (s : RoomService) (roomId peerId : String) (entry : ReportEntry) : RoomService :=
  { s with qosRegistry := putEntry s.qosRegistry roomId peerId entry }

theorem hasPeer_of_lookup
    (hroom : s.rooms.lookup roomId = some peers) (hpeer : peers.lookup peerId = some peer) :
    s.HasPeer roomId peerId := by
  rw [HasPeer, getEntry_of_lookup hroom, hpeer]
  rfl

theorem setClientStats_cases (cfg : ServiceConfig) (s : RoomService) (roomId peerId : String)
    (stats : ClientReport) (nowMs : ℤ) :
    let result := s.setClientStats cfg roomId peerId stats nowMs
    let reported := s.withReport roomId peerId ⟨stats, nowMs⟩
    (result.1 ≠ .stored ∧ result.2 = s) ∨
    (result.1 = .stored ∧ s.HasPeer roomId peerId ∧ Grows s reported ∧
      result.2 = reported.clientStatsStored cfg roomId peerId nowMs) := by
  unfold setClientStats
  dsimp only
  split
  · exact .inl ⟨nofun, rfl⟩
  rename_i hroom
  split
  · exact .inl ⟨nofun, rfl⟩
  rename_i hlook
  have hpeer := hasPeer_of_lookup hroom hlook
  split
  next registry reason hrep =>
    have hsame := upsertEntry_of_rejected (congrArg Prod.snd hrep)
    rw [hrep] at hsame
    refine .inl ⟨nofun, ?_⟩
    rw [show registry = s.qosRegistry from hsame]
  rename_i registry hrep
  have hput := upsertEntry_of_taken (congrArg Prod.snd hrep)
  rw [hrep] at hput
  rw [show registry = _ from hput]
  refine .inr ⟨rfl, hpeer, Grows.of_stores fun hstor => ?_, rfl⟩
  exact { hstor with qosRegistry := hstor.qosRegistry.put hpeer _ }

theorem grows_setClientStats (stats : ClientReport) (nowMs : ℤ) :
    Grows s (s.setClientStats cfg roomId peerId stats nowMs).2 := by
  obtain ⟨-, hsame⟩ | ⟨-, hpeer, hput, heq⟩ := setClientStats_cases cfg s roomId peerId stats nowMs
  · rw [hsame]
    exact Grows.refl s
  · rw [heq]
    exact hput.trans (grows_clientStatsStored (hput.hasPeer _ _ hpeer) nowMs)

theorem tends_setDownlinkClientStats (stats : DownlinkSnapshot) (nowMs : ℤ) :
    Tends s (s.setDownlinkClientStats roomId peerId stats nowMs).2 := by
  unfold setDownlinkClientStats
  split
  · exact Tends.refl s
  rename_i hroom
  split
  · exact Tends.refl s
  rename_i peer hlook
  have hpeer := hasPeer_of_lookup hroom hlook
  split
  · exact Tends.refl s
  have hups : Tends s { s with downlinkQosRegistry :=
      (DownlinkQosRegistry.upsertInPlace s.downlinkQosRegistry roomId peerId
        ⟨filterConsistentDownlinkSubscriptions peer.consumers stats, nowMs⟩).1 } :=
    Tends.of_stores (fun h =>
      { h with downlinkQosRegistry := h.downlinkQosRegistry.upsert hpeer _ _ }) rfl rfl
  split
  next hrep =>
    rw [hrep] at hups
    exact hups
  rename_i hrep
  rw [hrep] at hups
  exact hups.trans (tends_markDownlinkRoomDirty (hups.rooms _ (mem_of_getEntry hpeer)))

/-! ### Planning passes -/

theorem hasPeer_of_resolveTrack (h : s.toPeerStores.Of s.HasPeer) {producerId trackId : String}
    (htr : s.resolveTrack roomId producerId = some (peerId, trackId)) :
    s.HasPeer roomId peerId := by
  obtain ⟨owner, -, howner⟩ := bind_eq_some_iff.mp htr
  obtain ⟨entry, hent, hfnd⟩ := bind_eq_some_iff.mp howner
  obtain ⟨_, -, heq⟩ := map_eq_some_iff.mp hfnd
  obtain ⟨rfl, -⟩ := Prod.mk.inj heq
  exact h.qosRegistry.has roomId owner (isSome_iff_exists.mpr ⟨entry, hent⟩)

theorem grows_sendTrackQosOverride {t : TargetedOverride} (hpeer : s.HasPeer roomId t.targetPeerId)
    (nowMs : ℤ) : Grows s (sendTrackQosOverride cfg roomId nowMs t s) := by
  have hrecs : Grows s { s with trackQosOverrideRecords :=
      (maybeSendTrackQosOverride s.trackQosOverrideRecords roomId nowMs t).1 } := by
    refine Grows.of_stores fun h => { h with trackQosOverrideRecords := fun key hkey => ?_ }
    unfold maybeSendTrackQosOverride at hkey
    split at hkey
    · exact h.trackQosOverrideRecords key hkey
    rcases (mem_insert ..).mp hkey with rfl | hkey
    · exact hpeer
    · exact h.trackQosOverrideRecords key hkey
  unfold sendTrackQosOverride
  split
  next hsend =>
    rw [hsend] at hrecs
    exact hrecs
  next hsend =>
    rw [hsend] at hrecs
    exact hrecs.trans (grows_notify ..)

theorem grows_supplyPlanWrites (h : s.toPeerStores.Of s.HasPeer)
    {demandStates : List ProducerDemandState} {write : RoomService → RoomService}
    (hwr : write ∈ s.supplyPlanWrites cfg roomId nowMs demandStates) (hs' : Grows s s') :
    Grows s' (write s') := by
  rcases mem_cons.mp hwr with rfl | hwr
  · exact Grows.of_stores fun h' =>
      { h' with trackQosOverrideRecords := fun key hkey =>
          h'.trackQosOverrideRecords key (mem_of_mem_filter hkey) }
  · obtain ⟨_, ht, rfl⟩ := mem_map.mp hwr
    obtain ⟨_, -, _, htr, -⟩ := mem_buildOverrides.mp ht
    exact grows_sendTrackQosOverride (hs'.hasPeer _ _ (hasPeer_of_resolveTrack h htr)) nowMs

theorem grows_demand (hplan : roomId ∈ s.planner.downlinkRoomPlanStates) (demand : DemandMap) :
    Grows s { s with producerDemandCache := s.producerDemandCache.insert roomId demand } := by
  refine { Grows.refl s with demand := fun r h => ?_ }
  rcases (mem_insert ..).mp h with rfl | h
  · exact .inr hplan
  · exact .inl h

theorem mem_keys_of_mem_fedPeers
    (h : peerId ∈ (s.downlinkRoom roomId peers).fedPeers nowMs) : peerId ∈ peers.keys := by
  rw [DownlinkRoom.fedPeers_eq] at h
  have hmem := AList.lookup_isSome.mpr (AList.mem_keys.mpr (mem_filter.mp h).1)
  rw [downlinkRoom, lookup_mapValues, isSome_map] at hmem
  exact AList.mem_keys.mp (AList.lookup_isSome.mp hmem)

theorem grows_planningWrites (h : s.toPeerStores.Of s.HasPeer)
    (hplan : roomId ∈ s.planner.downlinkRoomPlanStates)
    {write : RoomService → RoomService} (hwr : write ∈ s.planningWrites cfg nowMs roomId)
    (hs' : Grows s s') : Grows s' (write s') := by
  have hplan' : roomId ∈ s'.planner.downlinkRoomPlanStates := by rwa [hs'.planStates]
  unfold planningWrites at hwr
  split at hwr
  · cases hwr
  rename_i hroom
  rcases mem_append.mp hwr with hwr | hwr
  · rcases mem_append.mp hwr with hwr | hwr
    · obtain ⟨_, hp, rfl⟩ := mem_map.mp hwr
      have hpeer := hs'.hasPeer _ _ (hasPeer_of_mem_keys hroom (mem_keys_of_mem_fedPeers hp))
      exact Grows.of_stores fun h' =>
        { h' with subscriberControllers :=
            h'.subscriberControllers.insert (mem_singleton.mpr rfl) hpeer _ }
    · rcases mem_cons.mp hwr with rfl | hwr
      · exact grows_demand hplan' _
      · rw [mem_singleton.mp hwr]
        exact grows_demand hplan' _
  · split at hwr
    · cases hwr
    · exact grows_supplyPlanWrites h hwr hs'

theorem mem_of_mem_done {α : Type*} {a : α} {l : List α} {done : Option ℕ}
    (h : a ∈ done.elim l l.take) : a ∈ l := by
  cases done with
  | none => exact h
  | some n => exact mem_of_mem_take h

theorem grows_runDownlinkPlanningForRoom (h : s.toPeerStores.Of s.HasPeer)
    (hplan : roomId ∈ s.planner.downlinkRoomPlanStates) (nowMs : ℤ) (done : Option ℕ) :
    Grows s (s.runDownlinkPlanningForRoom cfg nowMs roomId done) := by
  refine Grows.foldl fun write hwr s' hs' => ?_
  exact grows_planningWrites h hplan (mem_of_mem_done hwr) hs'

/-! ### Joins -/

theorem grows_forgetPeer (peer : Option ServicePeer) :
    Grows s (s.forgetPeer roomId peerId peer) := by
  have herase : Grows s { s with toPeerStores := s.toPeerStores.erasePeer roomId peerId } :=
    Grows.of_stores fun h => (h.erasePeer roomId peerId).mono fun _ _ hrp => hrp.1
  unfold forgetPeer
  split
  · exact herase
  · exact herase.trans (tends_cleanupPeerProducerCaches _ _).toGrows

theorem mem_touchRoom {ε : Type} {rooms : RoomEntries ε} :
    r ∈ touchRoom rooms roomId ↔ r = roomId ∨ r ∈ rooms := by
  unfold touchRoom
  split
  next hroom =>
    exact ⟨.inr, fun h => h.elim (fun heq => heq ▸ hroom) id⟩
  · exact mem_insert ..

theorem grows_enterRoom (hrms : ∀ r ∈ s.rooms, r ∈ rooms)
    (hents : ∀ r p, getEntry rooms r p = getEntry s.rooms r p) (roomId peerId : JoinId)
    (newSessionId : ℕ) :
    Grows s ({ s with rooms := rooms }.enterRoom roomId peerId newSessionId) := by
  have hput := @grows_putEntry s roomId peerId rooms hrms hents
    (.inr ⟨roomId.property, peerId.property⟩) { sessionId := newSessionId }
  unfold enterRoom
  dsimp only
  split
  · exact hput
  rename_i oldPeer hold
  have hforg := hput.trans (@grows_forgetPeer _ roomId peerId (some oldPeer))
  refine hforg.trans (tends_markDownlinkRoomDirty (hforg.rooms _ ?_)).toGrows
  exact mem_of_getEntry (p := peerId) (by rw [← hents, hold]; rfl)

theorem grows_join (call : JoinCall) : Grows s (s.join call).2 := by
  have hrms : ∀ r ∈ s.rooms, r ∈ touchRoom s.rooms call.roomId.val := fun r h =>
    mem_touchRoom.mpr (.inr h)
  have hents : ∀ r p, getEntry (touchRoom s.rooms call.roomId.val) r p =
      getEntry s.rooms r p := fun r p => getEntry_touchRoom r p
  unfold join
  split
  · exact Grows.refl s
  · exact Grows.refl s
  split
  · split <;> exact Grows.refl s
  split
  · exact Grows.refl s
  split
  · exact Grows.refl s
  split
  · -- a room without a peer
    have hhas : ∀ r p, s.HasPeer r p ↔
        (getEntry (touchRoom s.rooms call.roomId.val) r p).isSome := by
      intro r p
      rw [HasPeer, hents]
    exact { Grows.refl s with
      rooms := hrms
      hasPeer := fun r p h => (hhas r p).mp h
      named := fun r p h => .inl ((hhas r p).mpr h)
      stores := fun h => h.mono fun r p hrp => (hhas r p).mp hrp
      keeps := fun r h => .inl h }
  · exact grows_enterRoom hrms hents call.roomId call.peerId call.newSessionId

/-! ### What every step keeps -/

/-- What is kept of peers is kept of peers that are there, and a room with a demand has a plan
state. -/
structure Inv (s : RoomService) : Prop where
  named : ∀ r p, s.HasPeer r p → isValidJoinId r = true ∧ isValidJoinId p = true
  stores : s.toPeerStores.Of s.HasPeer
  planned : ∀ r ∈ s.producerDemandCache, r ∈ s.planner.downlinkRoomPlanStates
  passPlanned : s.planner.PassPlanned

def Kept (s : RoomService) : Prop := ∀ r, s.KeepsRoom r → r ∈ s.rooms

theorem Inv.grows (h : s.Inv) (hgrow : Grows s s') : s'.Inv where
  named r p hrp := (hgrow.named r p hrp).elim (h.named r p) id
  stores := hgrow.stores h.stores
  planned r hr := by
    rw [hgrow.planStates]
    exact (hgrow.demand r hr).elim (h.planned r) id
  passPlanned task htask r hr := by
    rw [hgrow.planStates]
    exact h.passPlanned task (by rwa [← hgrow.running]) r hr

theorem Kept.grows (h : s.Kept) (hgrow : Grows s s') : s'.Kept :=
  fun r hr => (hgrow.keeps r hr).elim (fun hr => hgrow.rooms r (h r hr)) id

theorem Inv.works (h : s.Inv) {planner : Scheduler} (hwork : s.planner.Works planner) :
    Inv { s with planner := planner } where
  named := h.named
  stores := h.stores
  planned r hr := hwork.planStates r (h.planned r hr)
  passPlanned := hwork.passPlanned h.passPlanned

theorem Kept.works (h : s.Kept) {planner : Scheduler} (hwork : s.planner.Works planner) :
    Kept { s with planner := planner } := by
  intro r hr
  rcases hr with hr | hr | hr
  · exact h r (.inl hr)
  · exact h r (.inr (.inl (hwork.names r hr)))
  · exact h r (.inr (.inr hr))

/-! ### Leaving -/

def Empties (s : RoomService) (roomId peerId : String) : Prop :=
  ∃ peers, s.rooms.lookup roomId = some peers ∧ (peers.erase peerId).entries.isEmpty = true

structure Spent (s : RoomService) (roomId peerId : String) : Prop where
  signature : roomId ∉ s.lastRoomQosStateSignatures
  dirty : roomId ∉ s.planner.dirtyDownlinkRooms
  pending : roomId ∉ s.planner.pendingDownlinkRooms
  planState : roomId ∉ s.planner.downlinkRoomPlanStates
  owners : ∀ owners ∈ s.producerOwnerPeerIds.lookup roomId,
    ∃ peer ∈ getEntry s.rooms roomId peerId, ∀ producerId ∈ owners, producerId ∈ peer.producers

theorem rooms_forgetPeer (peer : Option ServicePeer) :
    let s' := s.forgetPeer roomId peerId peer
    s'.rooms = s.rooms ∧ s'.planner = s.planner ∧
      s'.lastRoomQosStateSignatures = s.lastRoomQosStateSignatures ∧
      s'.toPeerStores = s.toPeerStores.erasePeer roomId peerId := by
  unfold forgetPeer
  dsimp only
  split <;> exact ⟨rfl, rfl, rfl, rfl⟩

theorem leave_eq (hroom : s.rooms.lookup roomId = some peers) : s.leave roomId peerId =
      if (peers.erase peerId).entries.isEmpty then
        { s.forgetPeer roomId peerId (peers.lookup peerId) with
          rooms := eraseEntry s.rooms roomId peerId }
      else
        { s.forgetPeer roomId peerId (peers.lookup peerId) with
          rooms := eraseEntry s.rooms roomId peerId }.markDownlinkRoomDirty roomId := by
  unfold leave eraseEntry
  rw [hroom]
  dsimp only
  rw [(rooms_forgetPeer _).1]
  split <;> rfl

theorem hasPeer_eraseEntry : (getEntry (eraseEntry s.rooms roomId peerId) r p).isSome ↔
      Without s.HasPeer roomId peerId r p := by
  rw [getEntry_eraseEntry, Without, HasPeer]
  split <;> simp_all

theorem Inv.takeOut (h : s.Inv) (peer : Option ServicePeer) :
    Inv { s.forgetPeer roomId peerId peer with rooms := eraseEntry s.rooms roomId peerId } := by
  obtain ⟨-, hplanner, -, hstor⟩ := @rooms_forgetPeer s roomId peerId peer
  refine ⟨fun r p hrp => h.named r p (hasPeer_eraseEntry.mp hrp).1, ?_, fun r hr => ?_, ?_⟩
  · change PeerStores.Of _ (s.forgetPeer roomId peerId peer).toPeerStores
    rw [hstor]
    exact (h.stores.erasePeer roomId peerId).mono fun r p hrp => hasPeer_eraseEntry.mpr hrp
  · change r ∈ (s.forgetPeer roomId peerId peer).planner.downlinkRoomPlanStates
    rw [hplanner]
    exact ((grows_forgetPeer peer).demand r hr).elim (h.planned r) id
  · rw [hplanner]
    exact h.passPlanned

theorem mem_eraseEntry_of_notEmpty (hroom : s.rooms.lookup roomId = some peers)
    (hemp : (peers.erase peerId).entries.isEmpty = false) :
    roomId ∈ eraseEntry s.rooms roomId peerId := by
  unfold eraseEntry
  rw [hroom]
  dsimp only
  rw [hemp]
  exact (mem_insert ..).mpr (.inl rfl)

theorem Inv.leave (h : s.Inv) (roomId peerId : String) : (s.leave roomId peerId).Inv := by
  cases hroom : s.rooms.lookup roomId with
  | none =>
    unfold RoomService.leave
    rw [hroom]
    exact h
  | some peers =>
    rw [leave_eq hroom]
    split
    · exact h.takeOut _
    rename_i hemp
    refine (h.takeOut _).grows (tends_markDownlinkRoomDirty ?_).toGrows
    exact mem_eraseEntry_of_notEmpty hroom (Bool.not_eq_true _ ▸ hemp)

theorem mem_eraseEntry_of_ne (hr : r ∈ s.rooms) (hne : r ≠ roomId) :
    r ∈ eraseEntry s.rooms roomId peerId := by
  unfold eraseEntry
  split
  · exact hr
  split
  · exact mem_erase.mpr ⟨hne, hr⟩
  · exact (mem_insert ..).mpr (.inr hr)

theorem isEmpty_cleanupIndexedProducers_iff {producers : List String}
    {owners : Dict String String} : (cleanupIndexedProducers producers owners).entries.isEmpty ↔
      ∀ producerId ∈ owners, producerId ∈ producers := by
  constructor
  · intro hnil producerId hmem
    by_contra hnot
    obtain ⟨owner, howner⟩ := isSome_iff_exists.mp (lookup_isSome.mpr hmem)
    have hfilt := lookup_of_isEmpty hnil producerId
    rw [cleanupIndexedProducers, lookup_filter, howner] at hfilt
    simp [hnot] at hfilt
  · intro hall
    by_contra hnot
    obtain ⟨producerId, hsome⟩ := exists_lookup_of_isEmpty (Bool.not_eq_true _ ▸ hnot)
    obtain ⟨owner, howner, hkeep⟩ := mem_filter.mp (lookup_isSome.mp hsome)
    simp [hall producerId (mem_of_lookup howner)] at hkeep

theorem mem_owners_forgetPeer (hroom : s.rooms.lookup roomId = some peers) :
    roomId ∉ (s.forgetPeer roomId peerId (peers.lookup peerId)).producerOwnerPeerIds ↔
      ∀ owners ∈ s.producerOwnerPeerIds.lookup roomId, ∃ peer ∈ getEntry s.rooms roomId peerId,
          ∀ producerId ∈ owners, producerId ∈ peer.producers := by
  rw [getEntry_of_lookup hroom]
  cases hpeer : peers.lookup peerId with
  | none =>
    rw [← lookup_eq_none]
    constructor
    · intro hnone owners hown
      rw [show s.producerOwnerPeerIds.lookup roomId = none from hnone] at hown
      cases hown
    intro hown
    change s.producerOwnerPeerIds.lookup roomId = none
    cases hlook : s.producerOwnerPeerIds.lookup roomId with
    | none => rfl
    | some owners =>
      obtain ⟨peer, hnone, -⟩ := hown owners hlook
      cases hnone
  | some peer =>
    change roomId ∉ cleanupCache (cleanupIndexedProducers peer.producers) (·.entries.isEmpty)
      roomId s.producerOwnerPeerIds ↔ _
    unfold cleanupCache
    cases hlook : s.producerOwnerPeerIds.lookup roomId with
    | none => simp [lookup_eq_none.mp hlook]
    | some owners =>
      dsimp only
      split_ifs with hnil
      · refine ⟨fun _ owners' hown => ?_, fun _ hmem => (mem_erase.mp hmem).1 rfl⟩
        cases hown
        exact ⟨peer, rfl, isEmpty_cleanupIndexedProducers_iff.mp hnil⟩
      refine ⟨fun hgone => absurd ((mem_insert ..).mpr (.inl rfl)) hgone, fun hown => ?_⟩
      obtain ⟨_, hpeer', hall⟩ := hown owners rfl
      cases hpeer'
      exact absurd (isEmpty_cleanupIndexedProducers_iff.mpr hall) hnil

theorem keepsRoom_leave_iff (hroom : s.rooms.lookup roomId = some peers)
    (hemp : (peers.erase peerId).entries.isEmpty) (hrun : s.planner.running = none) :
    ¬(s.leave roomId peerId).KeepsRoom roomId ↔ s.Spent roomId peerId := by
  obtain ⟨-, hplanner, hsigs, -⟩ :=
    @rooms_forgetPeer s roomId peerId (peers.lookup peerId)
  rw [leave_eq hroom, if_pos hemp, KeepsRoom]
  rw [hplanner, hsigs, not_or, not_or, mem_owners_forgetPeer hroom, Scheduler.Names, hrun]
  constructor
  · rintro ⟨hsig, hnms, hown⟩
    rw [not_or, not_or, not_or] at hnms
    exact ⟨hsig, hnms.1, hnms.2.1, hnms.2.2.1, hown⟩
  intro h
  refine ⟨h.signature, ?_, h.owners⟩
  rintro (hdirty | hpend | hstt | ⟨_, htask, -⟩)
  · exact h.dirty hdirty
  · exact h.pending hpend
  · exact h.planState hstt
  · cases htask

theorem Kept.leave (h : s.Kept) (hrun : s.planner.running = none) {roomId peerId : String}
    (hspent : s.Empties roomId peerId → s.Spent roomId peerId) : (s.leave roomId peerId).Kept := by
  cases hroom : s.rooms.lookup roomId with
  | none =>
    unfold RoomService.leave
    rw [hroom]
    exact h
  | some peers =>
    -- forgetting the peer takes no room away, and keeps nothing of a new one
    have hforg := @grows_forgetPeer s roomId peerId (peers.lookup peerId)
    have hsame := (@rooms_forgetPeer s roomId peerId (peers.lookup peerId)).1
    have hkept : ∀ r, (s.forgetPeer roomId peerId (peers.lookup peerId)).KeepsRoom r →
        r ∈ s.rooms := by
      intro r hr
      rw [← hsame]
      exact h.grows hforg r hr
    cases hemp : (peers.erase peerId).entries.isEmpty with
    | true =>
      have hgone := (keepsRoom_leave_iff hroom hemp hrun).mpr (hspent ⟨peers, hroom, hemp⟩)
      rw [leave_eq hroom, if_pos hemp] at hgone ⊢
      intro r hr
      refine mem_eraseEntry_of_ne (hkept r hr) ?_
      rintro rfl
      exact hgone hr
    | false =>
      have hmem := mem_eraseEntry_of_notEmpty hroom hemp
      rw [leave_eq hroom, if_neg (by rw [hemp]; exact Bool.false_ne_true)]
      refine Kept.grows (fun r hr => ?_) (tends_markDownlinkRoomDirty hmem).toGrows
      by_cases hr' : r = roomId
      · rw [hr']
        exact hmem
      · exact mem_eraseEntry_of_ne (hkept r hr) hr'

/-! ### Destroying rooms -/

theorem hasPeer_destroyRoom :
    (s.destroyRoom roomId).HasPeer r p ↔ WithoutRoom s.HasPeer roomId r p := by
  change (getEntry (AList.erase roomId s.rooms) r p).isSome ↔ _
  rw [getEntry, lookup_erase_eq, WithoutRoom, HasPeer, getEntry]
  split <;> simp_all

theorem Inv.destroyRoom (h : s.Inv) (hrun : s.planner.running = none) (roomId : String) :
    (s.destroyRoom roomId).Inv where
  named r p hrp := h.named r p (hasPeer_destroyRoom.mp hrp).1
  stores := (h.stores.eraseRoom roomId).mono fun _ _ hrp => hasPeer_destroyRoom.mpr hrp
  planned r hr := by
    obtain ⟨hne, hr⟩ := mem_erase.mp hr
    exact mem_erase.mpr ⟨hne, h.planned r hr⟩
  passPlanned task htask := by
    have hnone : (s.destroyRoom roomId).planner.running = none := hrun
    rw [hnone] at htask
    cases htask

theorem Kept.destroyRoom (h : s.Kept) (hrun : s.planner.running = none) (roomId : String) :
    (s.destroyRoom roomId).Kept := by
  intro r hr
  have hkept : s.KeepsRoom r ∧ r ≠ roomId := by
    rcases hr with hr | hr | hr
    · obtain ⟨hne, hr⟩ := mem_erase.mp hr
      exact ⟨.inl hr, hne⟩
    · obtain ⟨hr, hne⟩ := names_cleanup hrun hr
      exact ⟨.inr (.inl hr), hne⟩
    · obtain ⟨hne, hr⟩ := mem_erase.mp hr
      exact ⟨.inr (.inr hr), hne⟩
  exact mem_erase.mpr ⟨hkept.2, h r hkept.1⟩

theorem Inv.destroyRooms (h : s.Inv) (hrun : s.planner.running = none)
    (roomIds : List String) : (s.destroyRooms roomIds).Inv := by
  induction roomIds generalizing s with
  | nil => exact h
  | cons roomId roomIds ih => exact ih (h.destroyRoom hrun roomId) hrun

theorem Kept.destroyRooms (h : s.Kept) (hrun : s.planner.running = none)
    (roomIds : List String) : (s.destroyRooms roomIds).Kept := by
  induction roomIds generalizing s with
  | nil => exact h
  | cons roomId roomIds ih => exact ih (h.destroyRoom hrun roomId) hrun

/-! ### Steps -/

def leaver (s : RoomService) : ServiceCall → Option (String × String)
  | .leave roomId peerId => some (roomId, peerId)
  | .leaveIfSessionMatches roomId peerId expectedSessionId =>
    if s.sessionMatches roomId peerId expectedSessionId then some (roomId, peerId) else none
  | _ => none

def LeavesClean (s : RoomService) : ServiceEvent → Prop
  | .call c => s.planner.running = none → ∀ leaver ∈ s.leaver c,
    s.Empties leaver.1 leaver.2 → s.Spent leaver.1 leaver.2
  | _ => True

def tending : ServiceCall → Bool
  | .setDownlinkClientStats .. | .produce .. | .plainPublish .. | .createTransport .. | .closed ..
  | .consume .. | .changeConsumer .. => true
  | _ => false

theorem tends_handle {c : ServiceCall} (h : tending c) : Tends s (s.handle cfg c) := by
  cases c with
  | setDownlinkClientStats roomId peerId stats nowMs =>
    exact tends_setDownlinkClientStats stats nowMs
  | produce roomId peerId made start consumed => exact tends_produce made start consumed
  | plainPublish roomId peerId closing made completed =>
    exact tends_plainPublish closing made completed
  | createTransport roomId peerId producing producers consumers =>
    exact tends_replaceTransport producing producers consumers
  | closed roomId peerId producers consumers => exact tends_closeEntries producers consumers
  | consume roomId peerId consumerId producerId =>
    exact tends_withPeer fun _ hpeer => tends_setPeer hpeer _
  | changeConsumer roomId peerId consumerId => exact tends_changeConsumer consumerId
  | _ => cases h

theorem handle_cases (cfg : ServiceConfig) (s : RoomService) (c : ServiceCall) :
    s.leaver c = none ∧ Grows s (s.handle cfg c) ∨
      (∃ roomId peerId, s.leaver c = some (roomId, peerId) ∧
        s.handle cfg c = s.leave roomId peerId) ∨
      s.leaver c = none ∧ ∃ roomIds, s.handle cfg c = s.destroyRooms roomIds := by
  cases c with
  | join call => exact .inl ⟨rfl, grows_join call⟩
  | leave roomId peerId => exact .inr (.inl ⟨roomId, peerId, rfl, rfl⟩)
  | leaveIfSessionMatches roomId peerId expectedSessionId =>
    by_cases hmat : s.sessionMatches roomId peerId expectedSessionId
    · exact .inr (.inl ⟨roomId, peerId, if_pos hmat, if_pos hmat⟩)
    have hsame : s.handle cfg (.leaveIfSessionMatches roomId peerId expectedSessionId) = s :=
      if_neg hmat
    exact .inl ⟨if_neg hmat, hsame.symm ▸ Grows.refl s⟩
  | checkRoomHealth | cleanIdleRooms | closeAllRooms => exact .inr (.inr ⟨rfl, _, rfl⟩)
  | setClientStats roomId peerId stats nowMs => exact .inl ⟨rfl, grows_setClientStats stats nowMs⟩
  | setQosOverride roomId callerPeerId targetPeerId overrideData =>
    refine .inl ⟨rfl, ?_⟩
    unfold handle
    dsimp only
    split
    · exact Grows.refl s
    rename_i hpassed
    obtain ⟨_, -, rfl⟩ := eq_notify_of_setQosOverride hpassed
    exact grows_notify ..
  | _ => exact .inl ⟨rfl, (tends_handle rfl).toGrows⟩

theorem step_cases (h : s.Inv) (e : ServiceEvent) :
    (∃ s' planner, Grows s s' ∧ s'.planner.Works planner ∧
      s.step cfg e = { s' with planner := planner }) ∨
    s.planner.running = none ∧ ∃ c, e = .call c ∧
      ((∃ roomId peerId, s.leaver c = some (roomId, peerId) ∧
        s.step cfg e = s.leave roomId peerId) ∨
      ∃ roomIds, s.step cfg e = s.destroyRooms roomIds) := by
  cases e with
  | call c =>
    by_cases hrun : s.planner.running = none
    · have hstep : s.step cfg (.call c) = s.handle cfg c := if_pos hrun
      rw [hstep]
      obtain ⟨-, hgrow⟩ | hleave | ⟨-, hdestroy⟩ := handle_cases cfg s c
      · exact .inl ⟨_, _, hgrow, .refl _, rfl⟩
      · exact .inr ⟨hrun, c, rfl, .inl hleave⟩
      · exact .inr ⟨hrun, c, rfl, .inr hdestroy⟩
    · exact .inl ⟨s, _, .refl s, .refl _, if_neg hrun⟩
  | runTask | next => exact .inl ⟨s, _, .refl s, works_step _ (by simp) (by simp), rfl⟩
  | pass nowMs done =>
    change (∃ s' planner, _ ∧ _ ∧ s.pass cfg nowMs done = _) ∨ _
    unfold pass
    split
    · exact .inl ⟨s, _, .refl s, .refl _, rfl⟩
    rename_i roomId hpass
    obtain ⟨task, htask, hpass⟩ := bind_eq_some_iff.mp hpass
    exact .inl ⟨_, _, grows_runDownlinkPlanningForRoom h.stores
      (h.passPlanned task htask roomId hpass) nowMs done,
      works_step _ (by simp) (by simp), rfl⟩

theorem Inv.step (h : s.Inv) (e : ServiceEvent) : (s.step cfg e).Inv := by
  obtain ⟨_, _, hgrow, hwork, heq⟩ |
    ⟨hrun, _, -, ⟨roomId, peerId, -, heq⟩ | ⟨roomIds, heq⟩⟩ := @step_cases cfg s h e
  · rw [heq]
    exact (h.grows hgrow).works hwork
  · rw [heq]
    exact h.leave roomId peerId
  · rw [heq]
    exact h.destroyRooms hrun roomIds

theorem Kept.step (h : s.Kept) (hinv : s.Inv) {e : ServiceEvent} (hcln : s.LeavesClean e) :
    (s.step cfg e).Kept := by
  obtain ⟨_, _, hgrow, hwork, heq⟩ |
    ⟨hrun, _, rfl, ⟨_, _, hleav, heq⟩ | ⟨roomIds, heq⟩⟩ := @step_cases cfg s hinv e
  · rw [heq]
    exact (h.grows hgrow).works hwork
  · rw [heq]
    exact h.leave hrun (hcln hrun _ hleav)
  · rw [heq]
    exact h.destroyRooms hrun roomIds

/-! ### Nothing is left -/

def KeyOfRoom (roomId key : String) : Prop := (roomKeyPrefix roomId).toList <+: key.toList

structure NoResidue (s : RoomService) (roomId : String) : Prop where
  qosRegistry : roomId ∉ s.qosRegistry
  downlinkQosRegistry : roomId ∉ s.downlinkQosRegistry
  subscriberControllers : ∀ key ∈ s.subscriberControllers, ¬KeyOfRoom roomId key
  autoQosOverrideRecords : ∀ key ∈ s.autoQosOverrideRecords, ¬KeyOfRoom roomId key
  trackQosOverrideRecords : ∀ key ∈ s.trackQosOverrideRecords, key.roomId ≠ roomId
  lastConnectionQualitySignatures : ∀ key ∈ s.lastConnectionQualitySignatures,
    ¬KeyOfRoom roomId key
  lastRoomQosStateSignatures : roomId ∉ s.lastRoomQosStateSignatures
  dirtyDownlinkRooms : roomId ∉ s.planner.dirtyDownlinkRooms
  pendingDownlinkRooms : roomId ∉ s.planner.pendingDownlinkRooms
  downlinkRoomPlanStates : roomId ∉ s.planner.downlinkRoomPlanStates
  producerDemandCache : roomId ∉ s.producerDemandCache
  producerOwnerPeerIds : roomId ∉ s.producerOwnerPeerIds
  recorders : ∀ key ∈ s.recorders, ¬KeyOfRoom roomId key
  recorderTransports : ∀ key ∈ s.recorderTransports, ¬KeyOfRoom roomId key

theorem hasRoom_eq_false : s.hasRoom roomId = false ↔ roomId ∉ s.rooms := by
  rw [hasRoom, ← lookup_isSome, Bool.not_eq_true]

theorem Inv.noResidue (h : s.Inv) (hkept : s.Kept) (hroom : roomId ∉ s.rooms) :
    s.NoResidue roomId := by
  have hpeer : ¬∃ p, s.HasPeer roomId p := fun ⟨p, hp⟩ => hroom (mem_of_getEntry hp)
  have hgone : ¬s.KeepsRoom roomId := fun hkeeps => hroom (hkept roomId hkeeps)
  have hplanState : roomId ∉ s.planner.downlinkRoomPlanStates := fun hmem =>
    hgone (.inr (.inl (.inr (.inr (.inl hmem)))))
  have hrecorders : ∀ key ∈ s.recorders, ¬KeyOfRoom roomId key := fun key hkey hst =>
    hpeer (h.stores.recorders.has_of_isPrefix mem_keyMakers_of_peerKey h.named hkey hst)
  exact
    { qosRegistry := fun hmem => hpeer (h.stores.qosRegistry.has_of_mem hmem)
      downlinkQosRegistry := fun hmem => hpeer (h.stores.downlinkQosRegistry.has_of_mem hmem)
      subscriberControllers := fun key hkey hst => hpeer
        (h.stores.subscriberControllers.has_of_isPrefix mem_keyMakers_of_peerKey h.named hkey hst)
      autoQosOverrideRecords := fun key hkey hst => hpeer
        (h.stores.autoQosOverrideRecords.has_of_isPrefix (fun _ hmake => hmake) h.named hkey hst)
      trackQosOverrideRecords := fun key hkey heq =>
        hpeer ⟨key.peerId, heq ▸ h.stores.trackQosOverrideRecords key hkey⟩
      lastConnectionQualitySignatures := fun key hkey hst => hpeer
        (h.stores.lastConnectionQualitySignatures.has_of_isPrefix mem_keyMakers_of_peerKey h.named
          hkey hst)
      lastRoomQosStateSignatures := fun hmem => hgone (.inl hmem)
      dirtyDownlinkRooms := fun hmem => hgone (.inr (.inl (.inl hmem)))
      pendingDownlinkRooms := fun hmem => hgone (.inr (.inl (.inr (.inl hmem))))
      downlinkRoomPlanStates := hplanState
      producerDemandCache := fun hmem => hplanState (h.planned roomId hmem)
      producerOwnerPeerIds := fun hmem => hgone (.inr (.inr hmem))
      recorders := hrecorders
      recorderTransports := fun key hkey => hrecorders key (h.stores.recorderTransports key hkey) }

theorem NoResidue.not_keepsRoom (h : s.NoResidue roomId) (hrun : s.planner.running = none) :
    ¬s.KeepsRoom roomId := by
  rintro (hmem | hnms | hmem)
  · exact h.lastRoomQosStateSignatures hmem
  · rcases hnms with hmem | hmem | hmem | ⟨_, htask, -⟩
    · exact h.dirtyDownlinkRooms hmem
    · exact h.pendingDownlinkRooms hmem
    · exact h.downlinkRoomPlanStates hmem
    · rw [hrun] at htask
      cases htask
  · exact h.producerOwnerPeerIds hmem

def AbsentRoomsForgotten (s : RoomService) : Prop :=
  s.planner.running = none → ∀ roomId, s.hasRoom roomId = false → s.NoResidue roomId

theorem running_leave : (s.leave roomId peerId).planner.running = s.planner.running := by
  cases hroom : s.rooms.lookup roomId with
  | none =>
    unfold leave
    rw [hroom]
  | some peers =>
    have hplanner := (@rooms_forgetPeer s roomId peerId (peers.lookup peerId)).2.1
    rw [leave_eq hroom]
    split
    · exact congrArg running hplanner
    · exact (markDownlinkRoomDirty_frame _ roomId).2.1.trans
        (congrArg running hplanner)

theorem leavesClean_of_forgotten {e : ServiceEvent} (h : (s.step cfg e).AbsentRoomsForgotten) :
    s.LeavesClean e := by
  cases e with
  | call c =>
    rintro hrun ⟨roomId, peerId⟩ hleav ⟨_, hroom, hemp⟩
    have hleave : s.step cfg (.call c) = s.leave roomId peerId := by
      obtain ⟨hnone, -⟩ | ⟨_, _, hsome, heq⟩ | ⟨hnone, -⟩ := handle_cases cfg s c
      · rw [hnone] at hleav
        cases hleav
      · rw [hsome] at hleav
        cases hleav
        exact (if_pos hrun).trans heq
      · rw [hnone] at hleav
        cases hleav
    rw [hleave] at h
    have hstop : (s.leave roomId peerId).planner.running = none :=
      running_leave.trans hrun
    have habsent : (s.leave roomId peerId).hasRoom roomId = false := by
      rw [hasRoom_eq_false, leave_eq hroom, if_pos hemp]
      intro hmem
      unfold eraseEntry at hmem
      rw [hroom] at hmem
      dsimp only at hmem
      rw [if_pos hemp] at hmem
      exact (mem_erase.mp hmem).1 rfl
    exact (keepsRoom_leave_iff hroom hemp hrun).mp
      ((h hstop roomId habsent).not_keepsRoom hstop)
  | runTask | next | pass => trivial

theorem Inv.init : Inv {} := by
  have empty {κ υ : Type} [DecidableEq κ] {P : κ → Prop} : ∀ key ∈ (∅ : Dict κ υ), P key :=
    fun _ h => absurd h (notMem_empty _)
  exact {
    named := fun r p h => by cases h
    stores := {
      recorders := empty
      recorderTransports := empty
      qosRegistry := ⟨empty, fun _ _ h => by cases h⟩
      downlinkQosRegistry := ⟨empty, fun _ _ h => by cases h⟩
      subscriberControllers := empty
      autoQosOverrideRecords := empty
      lastConnectionQualitySignatures := empty
      trackQosOverrideRecords := empty }
    planned := empty
    passPlanned := fun task h => by cases h }

theorem Kept.init : Kept {} := by
  rintro _ (h | h | h)
  · exact absurd h (notMem_empty _)
  · rcases h with h | h | h | ⟨_, htask, -⟩
    · cases h
    · cases h
    · exact absurd h (notMem_empty _)
    · cases htask
  · exact absurd h (notMem_empty _)

end RoomService

def joinReportLeave : List ServiceEvent :=
  [.call (.join { roomId := ⟨"room", by decide⟩, peerId := ⟨"alice", by decide⟩ }),
    .call (.setClientStats "room" "alice" { seq := 1, tracks := [], peerQuality := .good } 1000),
    .call (.leave "room" "alice")]

/-- The room is gone with its last peer, but the quality it was told to have is still kept. -/
theorem leave_keeps_room_state :
    let s := RoomService.reach { allocator := roughAllocator } joinReportLeave
    s.planner.running = none ∧ s.hasRoom "room" = false ∧ ¬s.NoResidue "room" :=
  ⟨by decide +kernel, by decide +kernel, fun h => h.lastRoomQosStateSignatures (by decide +kernel)⟩

/-- **Nothing is left of the rooms that are gone, in every state of a run outside of planning
tasks, exactly if every leave that empties a room finds nothing of the room but what goes with the
peer**: the room's quality was not told, it is not in the planning queue and was never planned
for, and the index of owners names producers of the leaving peer only. -/
theorem absent_rooms_leave_nothing_iff (cfg : ServiceConfig) (es : List ServiceEvent) :
    (∀ n, (RoomService.reach cfg (es.take n)).planner.running = none →
      ∀ roomId, (RoomService.reach cfg (es.take n)).hasRoom roomId = false →
        (RoomService.reach cfg (es.take n)).NoResidue roomId) ↔
      StepsMeet (RoomService.step cfg) RoomService.LeavesClean {} es := by
  refine @forall_take_iff_of_stronger _ _ (RoomService.step cfg) RoomService.LeavesClean
    RoomService.AbsentRoomsForgotten (fun s => s.Inv ∧ s.Kept) ?_ ?_ ?_ es {}
    ⟨RoomService.Inv.init, RoomService.Kept.init⟩
  · intro s hs _ roomId hroom
    exact hs.1.noResidue hs.2 (RoomService.hasRoom_eq_false.mp hroom)
  · intro s e hs hcln
    exact ⟨hs.1.step e, hs.2.step hs.1 hcln⟩
  · intro s e _ hforg
    exact RoomService.leavesClean_of_forgotten hforg

end MediasoupCpp
