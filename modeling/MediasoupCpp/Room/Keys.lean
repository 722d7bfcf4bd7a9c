import MediasoupCpp.Lib.Separator
import MediasoupCpp.Qos.OverrideDelivery
import MediasoupCpp.Signaling.Dispatch

/-!
# Composite keys

The room service keeps most of its maps by texts that join a room and a peer, and for the track
overrides also a track and a slot, with slashes.  Rooms and peers get their names from a join,
which lets letters, digits, underscores and hyphens through, so the first two slashes of a key are
separators; a track may have any id, but a slot has no slash, so the last one is a separator too.

Main result: `composite_keys_faithful`.

Source: `src/RoomStatsQosHelpers.h`, `src/RoomCleanupHelpers.h`, `src/RoomDownlinkHelpers.h`,
`src/SignalingRequestDispatcher.h`.
-/

namespace MediasoupCpp

open Separator

/-! ### The keys -/

def makePeerKey (roomId peerId : String) : String := roomId ++ "/" ++ peerId

def makeRoomPressureKey (roomId peerId : String) : String := makePeerKey roomId peerId ++ "#room"

def makeTrackOverrideKey (roomId peerId trackId slot : String) : String :=
  makePeerKey roomId peerId ++ "/" ++ trackId ++ "/" ++ slot

def OverrideSlot.name : OverrideSlot → String
  | .pauseUpstream => "pauseUpstream"
  | .resumeUpstream => "resumeUpstream"
  | .maxLevelClamp => "maxLevelClamp"

def TrackOverrideKey.text (key : TrackOverrideKey) : String :=
  makeTrackOverrideKey key.roomId key.peerId key.trackId key.slot.name

def parseRoomPeerKey (key : String) : Option (String × String) :=
  match key.toList.findIdx? (· == '/') with
  | none => none
  | some slash =>
    let roomId := key.toList.take slash
    let rest := key.toList.drop (slash + 1)
    -- `hash - slash - 1` characters, or all that are left
    match (key.toList.drop slash).findIdx? (· == '#') with
    | none => some (String.ofList roomId, String.ofList rest)
    | some hash => some (String.ofList roomId, String.ofList (rest.take (hash - 1)))

/-! ### Erasing -/

section Erase

variable {υ : Type}

def eraseKeysByPrefix (map : Dict String υ) (start : String) : Dict String υ :=
  map.filter fun key _ => !start.toList.isPrefixOf key.toList

def roomKeyPrefix (roomId : String) : String := roomId ++ "/"

def peerKeyPrefix (roomId peerId : String) : String := makePeerKey roomId peerId ++ "/"

def clearPeerAutomaticOverrideRecords (records : Dict String υ) (roomId peerId : String) :
    Dict String υ :=
  (records.erase (makePeerKey roomId peerId)).erase (makeRoomPressureKey roomId peerId)

theorem lookup_eraseKeysByPrefix (map : Dict String υ) (start key : String) :
    (eraseKeysByPrefix map start).lookup key =
      if start.toList <+: key.toList then none else map.lookup key := by
  rw [eraseKeysByPrefix, Dict.lookup_filter]
  by_cases hst : start.toList <+: key.toList
  · simp [hst]
  have hbool : start.toList.isPrefixOf key.toList = false := by
    rw [← Bool.not_eq_true, List.isPrefixOf_iff_prefix]
    exact hst
  rw [if_neg hst, hbool]
  cases map.lookup key with
  | none => rfl
  | some value => rfl

end Erase

/-! ### Names -/

abbrev JoinId : Type := { name : String // isValidJoinId name = true }

theorem JoinId.notMem {c : Char} (name : JoinId)
    (hc : (('A' ≤ c && c ≤ 'Z') || ('a' ≤ c && c ≤ 'z') || ('0' ≤ c && c ≤ '9') || c == '_' ||
      c == '-') = false) : c ∉ name.val.toList := by
  have hval := name.property
  simp only [isValidJoinId, Bool.and_eq_true, List.all_eq_true] at hval
  intro hmem
  exact absurd (hval.2 c hmem) (by rw [hc]; exact Bool.false_ne_true)

theorem JoinId.slash_notMem (name : JoinId) : '/' ∉ name.val.toList := name.notMem (by decide)

theorem JoinId.hash_notMem (name : JoinId) : '#' ∉ name.val.toList := name.notMem (by decide)

theorem JoinId.toList_inj {name name' : JoinId} :
    name.val.toList = name'.val.toList ↔ name = name' := by
  rw [String.toList_inj, Subtype.ext_iff]

theorem OverrideSlot.slash_notMem (slot : OverrideSlot) : '/' ∉ slot.name.toList := by
  cases slot <;> decide

theorem OverrideSlot.name_inj {slot slot' : OverrideSlot} :
    slot.name = slot'.name ↔ slot = slot' := by
  cases slot <;> cases slot' <;> decide

/-! ### The characters of a key -/

variable (roomId peerId : String)

theorem toList_makePeerKey :
    (makePeerKey roomId peerId).toList = roomId.toList ++ '/' :: peerId.toList := by
  simp [makePeerKey]

theorem toList_makeRoomPressureKey : (makeRoomPressureKey roomId peerId).toList =
      roomId.toList ++ '/' :: (peerId.toList ++ '#' :: "room".toList) := by
  simp [makeRoomPressureKey, toList_makePeerKey]

theorem toList_makeTrackOverrideKey (roomId peerId trackId slot : String) :
    (makeTrackOverrideKey roomId peerId trackId slot).toList = roomId.toList ++ '/' ::
        (peerId.toList ++ '/' :: (trackId.toList ++ '/' :: slot.toList)) := by
  simp [makeTrackOverrideKey, toList_makePeerKey]

theorem toList_roomKeyPrefix (roomId : String) :
    (roomKeyPrefix roomId).toList = roomId.toList ++ ['/'] := by
  simp [roomKeyPrefix]

theorem toList_peerKeyPrefix :
    (peerKeyPrefix roomId peerId).toList = roomId.toList ++ '/' :: (peerId.toList ++ ['/']) := by
  simp [peerKeyPrefix, toList_makePeerKey]

/-! ### Keys of one map -/

section Inj

variable (roomId roomId' peerId peerId' : JoinId)

theorem makePeerKey_inj : makePeerKey roomId peerId = makePeerKey roomId' peerId' ↔
      roomId = roomId' ∧ peerId = peerId' := by
  rw [← String.toList_inj, toList_makePeerKey, toList_makePeerKey,
    append_cons_inj_left roomId.slash_notMem roomId'.slash_notMem, JoinId.toList_inj,
    JoinId.toList_inj]

theorem makeRoomPressureKey_inj :
    makeRoomPressureKey roomId peerId = makeRoomPressureKey roomId' peerId' ↔
      roomId = roomId' ∧ peerId = peerId' := by
  rw [← String.toList_inj, toList_makeRoomPressureKey, toList_makeRoomPressureKey,
    append_cons_inj_left roomId.slash_notMem roomId'.slash_notMem, JoinId.toList_inj,
    List.append_cancel_right_eq, JoinId.toList_inj]

theorem makePeerKey_ne_makeRoomPressureKey :
    makePeerKey roomId peerId ≠ makeRoomPressureKey roomId' peerId' := by
  intro heq
  have hmem : '#' ∈ (makeRoomPressureKey roomId' peerId').toList := by
    simp [toList_makeRoomPressureKey]
  rw [← heq, toList_makePeerKey] at hmem
  simp [roomId.hash_notMem, peerId.hash_notMem] at hmem

theorem makeTrackOverrideKey_inj (trackId trackId' : String) (slot slot' : OverrideSlot) :
    makeTrackOverrideKey roomId peerId trackId slot.name =
        makeTrackOverrideKey roomId' peerId' trackId' slot'.name ↔
      roomId = roomId' ∧ peerId = peerId' ∧ trackId = trackId' ∧ slot = slot' := by
  rw [← String.toList_inj, toList_makeTrackOverrideKey, toList_makeTrackOverrideKey,
    append_cons_inj_left roomId.slash_notMem roomId'.slash_notMem,
    append_cons_inj_left peerId.slash_notMem peerId'.slash_notMem,
    append_cons_inj_right slot.slash_notMem slot'.slash_notMem, JoinId.toList_inj,
    JoinId.toList_inj, String.toList_inj, String.toList_inj, OverrideSlot.name_inj]

end Inj

theorem TrackOverrideKey.text_inj {key key' : TrackOverrideKey}
    (hroom : isValidJoinId key.roomId) (hpeer : isValidJoinId key.peerId)
    (hroom' : isValidJoinId key'.roomId) (hpeer' : isValidJoinId key'.peerId) :
    key.text = key'.text ↔ key = key' := by
  have hinj := makeTrackOverrideKey_inj ⟨_, hroom⟩ ⟨_, hroom'⟩ ⟨_, hpeer⟩ ⟨_, hpeer'⟩ key.trackId
    key'.trackId key.slot key'.slot
  obtain ⟨roomId, peerId, trackId, slot⟩ := key
  obtain ⟨_, _, _, _⟩ := key'
  rw [TrackOverrideKey.text, TrackOverrideKey.text, hinj]
  simp [Subtype.ext_iff]

/-! ### Taking a key apart -/

theorem parseRoomPeerKey_of_toList {key : String} {roomId : JoinId} {rest : List Char}
    (hkey : key.toList = roomId.val.toList ++ '/' :: rest) : parseRoomPeerKey key =
      match rest.findIdx? (· == '#') with
      | none => some (roomId.val, String.ofList rest)
      | some hash => some (roomId.val, String.ofList (rest.take hash)) := by
  have hfst : (roomId.val.toList ++ '/' :: rest).take roomId.val.toList.length =
      roomId.val.toList := List.take_left
  have hslash : (roomId.val.toList ++ '/' :: rest).drop roomId.val.toList.length = '/' :: rest :=
    List.drop_left
  have hrest : (roomId.val.toList ++ '/' :: rest).drop (roomId.val.toList.length + 1) = rest := by
    rw [← List.drop_drop, hslash, List.drop_one, List.tail_cons]
  unfold parseRoomPeerKey
  rw [hkey, findIdx?_append_cons roomId.slash_notMem]
  dsimp only
  rw [hfst, hslash, hrest, String.ofList_toList, List.findIdx?_cons]
  cases rest.findIdx? (· == '#') with
  | none => rfl
  | some hash => rfl

theorem parseRoomPeerKey_makePeerKey (roomId peerId : JoinId) :
    parseRoomPeerKey (makePeerKey roomId peerId) = some (roomId.val, peerId.val) := by
  rw [parseRoomPeerKey_of_toList (toList_makePeerKey _ _), findIdx?_eq_none peerId.hash_notMem]
  rw [String.ofList_toList]

theorem parseRoomPeerKey_makeRoomPressureKey (roomId peerId : JoinId) :
    parseRoomPeerKey (makeRoomPressureKey roomId peerId) = some (roomId.val, peerId.val) := by
  rw [parseRoomPeerKey_of_toList (toList_makeRoomPressureKey _ _),
    findIdx?_append_cons peerId.hash_notMem]
  dsimp only
  rw [List.take_left, String.ofList_toList]

/-! ### What erasing erases -/

section Erase

variable {υ : Type} (map : Dict String υ)

theorem lookup_eraseKeysByPrefix_room (roomId roomId' : JoinId) {key : String} {rest : List Char}
    (hkey : key.toList = roomId'.val.toList ++ '/' :: rest) :
    (eraseKeysByPrefix map (roomKeyPrefix roomId)).lookup key =
      if roomId' = roomId then none else map.lookup key := by
  rw [lookup_eraseKeysByPrefix, toList_roomKeyPrefix, hkey]
  refine if_congr ?_ rfl rfl
  rw [concat_isPrefix_iff roomId.slash_notMem roomId'.slash_notMem, JoinId.toList_inj, eq_comm]

theorem lookup_eraseKeysByPrefix_peer (roomId roomId' peerId peerId' : JoinId)
    (trackId slot : String) : (eraseKeysByPrefix map (peerKeyPrefix roomId peerId)).lookup
        (makeTrackOverrideKey roomId' peerId' trackId slot) =
      if roomId' = roomId ∧ peerId' = peerId then none
      else map.lookup (makeTrackOverrideKey roomId' peerId' trackId slot) := by
  rw [lookup_eraseKeysByPrefix, toList_peerKeyPrefix, toList_makeTrackOverrideKey]
  refine if_congr ?_ rfl rfl
  constructor
  · rintro ⟨_, hrest⟩
    rw [List.append_assoc, List.cons_append, List.append_assoc, List.singleton_append] at hrest
    obtain ⟨hroom, htail⟩ :=
      (append_cons_inj_left roomId.slash_notMem roomId'.slash_notMem).mp hrest
    obtain ⟨hpeer, -⟩ :=
      (append_cons_inj_left peerId.slash_notMem peerId'.slash_notMem).mp htail
    exact ⟨(JoinId.toList_inj.mp hroom).symm, (JoinId.toList_inj.mp hpeer).symm⟩
  · rintro ⟨rfl, rfl⟩
    exact ⟨trackId.toList ++ '/' :: slot.toList, by simp⟩

theorem lookup_erase_makePeerKey (roomId roomId' peerId peerId' : JoinId) :
    (map.erase (makePeerKey roomId peerId)).lookup (makePeerKey roomId' peerId') =
      if roomId' = roomId ∧ peerId' = peerId then none
      else map.lookup (makePeerKey roomId' peerId') := by
  rw [Dict.lookup_erase_eq]
  exact if_congr (makePeerKey_inj ..) rfl rfl

theorem lookup_clearPeerAutomaticOverrideRecords (records : Dict String υ)
    (roomId roomId' peerId peerId' : JoinId) :
    (clearPeerAutomaticOverrideRecords records roomId peerId).lookup (makePeerKey roomId' peerId') =
        (if roomId' = roomId ∧ peerId' = peerId then none
        else records.lookup (makePeerKey roomId' peerId')) ∧
      (clearPeerAutomaticOverrideRecords records roomId peerId).lookup
          (makeRoomPressureKey roomId' peerId') = (if roomId' = roomId ∧ peerId' = peerId then none
        else records.lookup (makeRoomPressureKey roomId' peerId')) := by
  unfold clearPeerAutomaticOverrideRecords
  constructor
  · rw [Dict.lookup_erase_eq, if_neg (makePeerKey_ne_makeRoomPressureKey _ _ _ _),
      lookup_erase_makePeerKey]
  rw [Dict.lookup_erase_eq, Dict.lookup_erase_eq,
    if_neg (makePeerKey_ne_makeRoomPressureKey _ _ _ _).symm]
  exact if_congr (makeRoomPressureKey_inj ..) rfl rfl

end Erase

/-- **The texts stand for their parts.**  Keys of one map are the same only if their parts are:
peers and their room pressure share a map, the track overrides have one of their own.  A key of
a peer or of its room pressure can be taken apart.  Erasing by the beginning of the keys of a
room removes the entries of that room and leaves the others; so does, of a peer, erasing its
key, its automatic overrides, or by the beginning of its track keys. -/
theorem composite_keys_faithful :
    (∀ roomId roomId' peerId peerId' : JoinId,
      (makePeerKey roomId peerId = makePeerKey roomId' peerId' ↔
        roomId = roomId' ∧ peerId = peerId') ∧
      (makeRoomPressureKey roomId peerId = makeRoomPressureKey roomId' peerId' ↔
        roomId = roomId' ∧ peerId = peerId') ∧
      makePeerKey roomId peerId ≠ makeRoomPressureKey roomId' peerId' ∧
      ∀ (trackId trackId' : String) (o o' : QosOverride),
        makeTrackOverrideKey roomId peerId trackId (resolveOverrideSlot o).name =
            makeTrackOverrideKey roomId' peerId' trackId' (resolveOverrideSlot o').name ↔
          roomId = roomId' ∧ peerId = peerId' ∧ trackId = trackId' ∧
            resolveOverrideSlot o = resolveOverrideSlot o') ∧
    (∀ roomId peerId : JoinId,
      parseRoomPeerKey (makePeerKey roomId peerId) = some (roomId.val, peerId.val) ∧
      parseRoomPeerKey (makeRoomPressureKey roomId peerId) = some (roomId.val, peerId.val)) ∧
    (∀ (υ : Type) (map : Dict String υ) (roomId roomId' peerId' : JoinId) (key : String),
      (key = makePeerKey roomId' peerId' ∨ key = makeRoomPressureKey roomId' peerId' ∨
        ∃ trackId slot, key = makeTrackOverrideKey roomId' peerId' trackId slot) →
      (eraseKeysByPrefix map (roomKeyPrefix roomId)).lookup key =
        if roomId' = roomId then none else map.lookup key) ∧
    (∀ (υ : Type) (map : Dict String υ) (roomId roomId' peerId peerId' : JoinId),
      (map.erase (makePeerKey roomId peerId)).lookup (makePeerKey roomId' peerId') =
        (if roomId' = roomId ∧ peerId' = peerId then none
        else map.lookup (makePeerKey roomId' peerId')) ∧
      (∀ key, key = makePeerKey roomId' peerId' ∨ key = makeRoomPressureKey roomId' peerId' →
        (clearPeerAutomaticOverrideRecords map roomId peerId).lookup key =
          if roomId' = roomId ∧ peerId' = peerId then none else map.lookup key) ∧
      ∀ trackId slot,
        (eraseKeysByPrefix map (peerKeyPrefix roomId peerId)).lookup
            (makeTrackOverrideKey roomId' peerId' trackId slot) =
          if roomId' = roomId ∧ peerId' = peerId then none
          else map.lookup (makeTrackOverrideKey roomId' peerId' trackId slot)) := by
  refine ⟨fun roomId roomId' peerId peerId' => ?_, fun roomId peerId => ?_,
    fun υ map roomId roomId' peerId' key hkey => ?_,
    fun υ map roomId roomId' peerId peerId' => ?_⟩
  · exact ⟨makePeerKey_inj .., makeRoomPressureKey_inj ..,
      makePeerKey_ne_makeRoomPressureKey _ _ _ _,
      fun trackId trackId' o o' => makeTrackOverrideKey_inj ..⟩
  · exact ⟨parseRoomPeerKey_makePeerKey .., parseRoomPeerKey_makeRoomPressureKey ..⟩
  · rcases hkey with rfl | rfl | ⟨trackId, slot, rfl⟩
    · exact lookup_eraseKeysByPrefix_room map roomId roomId' (toList_makePeerKey ..)
    · exact lookup_eraseKeysByPrefix_room map roomId roomId' (toList_makeRoomPressureKey ..)
    · exact lookup_eraseKeysByPrefix_room map roomId roomId' (toList_makeTrackOverrideKey ..)
  refine ⟨lookup_erase_makePeerKey .., ?_, fun trackId slot =>
    lookup_eraseKeysByPrefix_peer ..⟩
  rintro key (rfl | rfl)
  · exact (lookup_clearPeerAutomaticOverrideRecords ..).1
  · exact (lookup_clearPeerAutomaticOverrideRecords ..).2

/-- Two rooms, the name of one of them the beginning of the other's. -/
theorem composite_keys_faithful_two_rooms :
    let map : Dict String ℕ := (AList.insert "room/alice#room" 1 ∅).insert "room2/alice#room" 2
    (eraseKeysByPrefix map (roomKeyPrefix "room")).lookup (makeRoomPressureKey "room" "alice") =
        none ∧
      (eraseKeysByPrefix map (roomKeyPrefix "room")).lookup (makeRoomPressureKey "room2" "alice") =
        some 2 :=
  ⟨composite_keys_faithful.2.2.1 ℕ _ ⟨"room", by decide⟩ ⟨"room", by decide⟩ ⟨"alice", by decide⟩ _
      (.inr (.inl rfl)),
    composite_keys_faithful.2.2.1 ℕ _ ⟨"room", by decide⟩ ⟨"room2", by decide⟩
      ⟨"alice", by decide⟩ _ (.inr (.inl rfl))⟩

end MediasoupCpp
