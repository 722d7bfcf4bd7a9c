import Mathlib.Tactic.Linarith
import MediasoupCpp.Lib.Except
import MediasoupCpp.Lib.Json

/-!
# Track overrides from the server to a publisher

The server asks a publisher to clamp, pause or resume a track by an override, a JSON object that
is built in C++ and read in two places: by the publisher's client in JavaScript, which drops what
it cannot read, and by the server's own validator.  The two parsers were written independently of
each other and of the builder.

Main result: `buildOverrides_understood_iff`.

Source: `src/qos/PublisherSupplyController.cpp`, `src/qos/QosValidator.cpp`, `src/qos/QosTypes.h`,
`src/qos/QosContract.h`, `src/client/lib/qos/protocol.js`.
-/

namespace MediasoupCpp

open Json (ensure)

/-! ### Overrides -/

def kOverrideSchema : String := "mediasoup.qos.override.v1"

inductive OverrideScope
  | peer
  | track
  deriving DecidableEq

def OverrideScope.ofString (s : String) : Option OverrideScope :=
  if s = "peer" then some .peer else if s = "track" then some .track else none

/-- An override on the server.  A field with a flag that says whether it is set is an
option. -/
structure QosOverride where
  scope : OverrideScope
  trackId : Option String := none
  maxLevelClamp : Option ℕ := none
  forceAudioOnly : Option Bool := none
  disableRecovery : Option Bool := none
  pauseUpstream : Option Bool := none
  resumeUpstream : Option Bool := none
  ttlMs : ℕ
  reason : String
  raw : Json

variable (trackId : String)

def trackFields (field : String × Json) (ttlMs : ℕ) (reason : String) :
    List (String × Json) :=
  [("schema", .str kOverrideSchema), ("scope", .str "track"), ("trackId", .str trackId),
    field, ("ttlMs", .int ttlMs), ("reason", .str reason)]

def makeTrackClamp (maxLevelClamp ttlMs : ℕ) (reason : String) :
    QosOverride where
  scope := .track
  trackId := some trackId
  maxLevelClamp := some maxLevelClamp
  ttlMs := ttlMs
  reason := reason
  raw := .obj (trackFields trackId ("maxLevelClamp", .int maxLevelClamp) ttlMs reason)

def makeTrackClear (trackId reason : String) : QosOverride where
  scope := .track
  trackId := some trackId
  ttlMs := 0
  reason := reason
  raw := .obj (trackFields trackId ("maxLevelClamp", .null) 0 reason)

def makeTrackPause (ttlMs : ℕ) : QosOverride where
  scope := .track
  trackId := some trackId
  pauseUpstream := some true
  ttlMs := ttlMs
  reason := "downlink_v3_zero_demand_pause"
  raw := .obj (trackFields trackId ("pauseUpstream", .bool true) ttlMs
    "downlink_v3_zero_demand_pause")

def makeTrackResume (ttlMs : ℕ) : QosOverride where
  scope := .track
  trackId := some trackId
  resumeUpstream := some true
  ttlMs := ttlMs
  reason := "downlink_v3_demand_resumed"
  raw := .obj (trackFields trackId ("resumeUpstream", .bool true) ttlMs
    "downlink_v3_demand_resumed")

/-! ### What the demand asks for -/

inductive ProducerSupplyState
  | active
  | lowClamped
  | zeroDemandHold
  | paused
  | resumeWarmup
  deriving DecidableEq

def kUnsetDemandTimeMs : ℤ := -1

structure ProducerDemandState where
  producerId : String
  maxSpatialLayer : UInt8 := 0
  visibleSubscriberCount : ℕ := 0
  supplyState : ProducerSupplyState := .active
  publisherPeerId : String := ""
  maxTemporalLayer : UInt8 := 0
  highPrioritySubscriberCount : ℕ := 0
  /-- Since when nobody has seen the producer; `0` while somebody does. -/
  zeroDemandSinceMs : ℤ := 0
  holdUntilMs : ℤ := 0
  lastNonZeroDemandAtMs : ℤ := kUnsetDemandTimeMs
  pauseEligibleAtMs : ℤ := kUnsetDemandTimeMs
  resumeEligibleAtMs : ℤ := kUnsetDemandTimeMs
  lastPauseSentAtMs : ℤ := kUnsetDemandTimeMs
  lastResumeSentAtMs : ℤ := kUnsetDemandTimeMs
  deriving DecidableEq

structure TargetedOverride where
  targetPeerId : String
  overrideData : QosOverride

def shouldClamp (state : ProducerDemandState) : Bool :=
  0 < state.visibleSubscriberCount && state.maxSpatialLayer < 2

def trackOverrides (state : ProducerDemandState) (trackId : String) : List QosOverride :=
  match state.supplyState with
  | .paused =>
    [makeTrackClear trackId "downlink_v3_demand_resumed", makeTrackPause trackId 5000]
  | .resumeWarmup =>
    [makeTrackClear trackId "downlink_v3_zero_demand_pause", makeTrackResume trackId 5000]
  | .zeroDemandHold => [makeTrackClamp trackId 0 5000 "downlink_v2_zero_demand_hold"]
  | .lowClamped =>
    if shouldClamp state then
      [makeTrackClamp trackId state.maxSpatialLayer.toNat 5000 "downlink_v2_room_demand"]
    else []
  | .active => [makeTrackClear trackId "downlink_v2_demand_restored"]

/-- The overrides for the producers of a room; `resolveTrack` gives the peer and the track
of a producer.  (The time that is passed along is not used.) -/
def buildOverrides (states : List ProducerDemandState)
    (resolveTrack : String → Option (String × String)) (_nowMs : ℤ) : List TargetedOverride :=
  states.flatMap fun state =>
    match resolveTrack state.producerId with
    | none => []
    | some (peerId, trackId) => (trackOverrides state trackId).map (TargetedOverride.mk peerId)

theorem mem_buildOverrides {states : List ProducerDemandState}
    {resolveTrack : String → Option (String × String)} {nowMs : ℤ} {t : TargetedOverride} :
    t ∈ buildOverrides states resolveTrack nowMs ↔
      ∃ state ∈ states, ∃ trackId, resolveTrack state.producerId = some (t.targetPeerId, trackId) ∧
        t.overrideData ∈ trackOverrides state trackId := by
  simp only [buildOverrides, List.mem_flatMap]
  refine exists_congr fun state => and_congr_right fun _ => ?_
  split
  next hnone =>
    simp [hnone]
  rename_i trackId hsome
  rw [hsome]
  constructor
  · intro h
    obtain ⟨_, ho, rfl⟩ := List.mem_map.mp h
    exact ⟨trackId, rfl, ho⟩
  · rintro ⟨_, heq, ho⟩
    cases heq
    exact List.mem_map.mpr ⟨_, ho, rfl⟩

/-! ### The server's parser -/

def trackIdMissing (object : List (String × Json)) : Bool :=
  match object.lookup "trackId" with
  | none | some .null => true
  | some _ => false

namespace QosValidator

def isNonNegativeInteger : Json → Bool
  | .int i => 0 ≤ i.bmod (2 ^ 64)
  | _ => false

variable (object : List (String × Json))

def requireStringField (key : String) : Except String String :=
  match object.lookup key with
  | some (.str s) =>
    if s ≠ "" then .ok s else .error ("missing or invalid string field: " ++ key)
  | _ => .error ("missing or invalid string field: " ++ key)

def requireNonNegativeIntegerField (key : String) :
    Except String ℕ :=
  match object.lookup key with
  | some (.int i) =>
    if isNonNegativeInteger (.int i) then .ok (i % 2 ^ 32).toNat
    else .error ("missing or invalid non-negative integer field: " ++ key)
  | _ => .error ("missing or invalid non-negative integer field: " ++ key)

def trackIdField : Except String (Option String) :=
  match object.lookup "trackId" with
  | none | some .null => .ok none
  | some (.str s) => if s ≠ "" then .ok (some s) else .error "invalid trackId"
  | some _ => .error "invalid trackId"

def maxLevelClampField : Except String (Option ℕ) :=
  match object.lookup "maxLevelClamp" with
  | none => .ok none
  | some (.int i) =>
    if isNonNegativeInteger (.int i) then .ok (some (i % 2 ^ 32).toNat)
    else .error "invalid maxLevelClamp"
  | some _ => .error "invalid maxLevelClamp"

def optionalBoolField (key : String) :
    Except String (Option Bool) :=
  match object.lookup key with
  | none => .ok none
  | some (.bool b) => .ok (some b)
  | some _ => .error ("invalid " ++ key)

def parseOverride (payload : Json) : Except String QosOverride := do
  let .obj object := payload | throw "payload must be an object"
  let schema ← requireStringField object "schema"
  ensure (schema = kOverrideSchema) "invalid schema"
  let scope ← requireStringField object "scope"
  let ttlMs ← requireNonNegativeIntegerField object "ttlMs"
  let reason ← requireStringField object "reason"
  let some scope := OverrideScope.ofString scope | throw "invalid scope"
  ensure (¬(scope = .track ∧ trackIdMissing object)) "track scope requires trackId"
  let trackId ← trackIdField object
  let maxLevelClamp ← maxLevelClampField object
  let forceAudioOnly ← optionalBoolField object "forceAudioOnly"
  let disableRecovery ← optionalBoolField object "disableRecovery"
  let pauseUpstream ← optionalBoolField object "pauseUpstream"
  let resumeUpstream ← optionalBoolField object "resumeUpstream"
  ensure (¬(pauseUpstream = some true ∧ resumeUpstream = some true))
    "pauseUpstream and resumeUpstream are mutually exclusive"
  return { scope, trackId, maxLevelClamp, forceAudioOnly, disableRecovery, pauseUpstream,
           resumeUpstream, ttlMs, reason, raw := payload }

end QosValidator

/-! ### The client's parser -/

structure ClientOverride where
  scope : OverrideScope
  trackId : Option (Option String)
  maxLevelClamp : Option ℕ
  forceAudioOnly : Option Bool
  disableRecovery : Option Bool
  pauseUpstream : Option Bool
  resumeUpstream : Option Bool
  ttlMs : ℕ
  reason : String
  deriving DecidableEq

namespace ClientParser

variable (value : Option Json) (path : String)

def asString : Except String String :=
  match value with
  | some (.str s) => .ok s
  | _ => .error (path ++ " must be a string")

def asNonEmptyString : Except String String := do
  let s ← asString value path
  ensure (s ≠ "") (path ++ " must be a non-empty string")
  return s

def asBoolean : Except String Bool :=
  match value with
  | some (.bool b) => .ok b
  | _ => .error (path ++ " must be a boolean")

def asFiniteNumber : Except String ℚ :=
  match value.bind Json.number with
  | some n => .ok n
  | none => .error (path ++ " must be a finite number")

def asInt : Except String ℤ := do
  let n ← asFiniteNumber value path
  ensure (n.den = 1) (path ++ " must be an integer")
  return n.num

def asNonNegativeInt : Except String ℕ := do
  let n ← asInt value path
  ensure (0 ≤ n) (path ++ " must be >= 0")
  return n.toNat

def optionalField {α : Type} (read : Option Json → String → Except String α)
    (obj : List (String × Json)) (key path : String) : Except String (Option α) :=
  match obj.lookup key with
  | none => .ok none
  | some value => some <$> read (some value) (path ++ "." ++ key)

def optionalNonNegativeInt : List (String × Json) → String → String → Except String (Option ℕ) :=
  optionalField asNonNegativeInt

def optionalBoolean : List (String × Json) → String → String → Except String (Option Bool) :=
  optionalField asBoolean

def asScope : Except String OverrideScope := do
  let s ← asString value path
  let some scope := OverrideScope.ofString s | throw (path ++ " must be one of: peer, track")
  return scope

def trackIdField (obj : List (String × Json)) : Except String (Option (Option String)) :=
  match obj.lookup "trackId" with
  | none => .ok none
  | some .null => .ok (some none)
  | some value => (fun s => some (some s)) <$> asNonEmptyString (some value) "qosOverride.trackId"

end ClientParser

open ClientParser

open ClientParser in
def parseQosOverride (payload : Json) : Except String ClientOverride := do
  let .obj obj := payload | throw "qosOverride must be an object"
  let schema ← asString (obj.lookup "schema") "qosOverride.schema"
  ensure (schema = kOverrideSchema)
    ("qosOverride.schema must be '" ++ kOverrideSchema ++ "', got '" ++ schema ++ "'")
  let scope ← asScope (obj.lookup "scope") "qosOverride.scope"
  ensure (¬(scope = .track ∧ trackIdMissing obj))
    "qosOverride.trackId is required when scope is track"
  let trackId ← trackIdField obj
  let maxLevelClamp ← optionalNonNegativeInt obj "maxLevelClamp" "qosOverride"
  let forceAudioOnly ← optionalBoolean obj "forceAudioOnly" "qosOverride"
  let disableRecovery ← optionalBoolean obj "disableRecovery" "qosOverride"
  let pauseUpstream ← optionalBoolean obj "pauseUpstream" "qosOverride"
  let resumeUpstream ← optionalBoolean obj "resumeUpstream" "qosOverride"
  ensure (¬(pauseUpstream = some true ∧ resumeUpstream = some true))
    "qosOverride.pauseUpstream and qosOverride.resumeUpstream are mutually exclusive"
  let ttlMs ← asNonNegativeInt (obj.lookup "ttlMs") "qosOverride.ttlMs"
  let reason ← asNonEmptyString (obj.lookup "reason") "qosOverride.reason"
  return { scope, trackId, maxLevelClamp, forceAudioOnly, disableRecovery, pauseUpstream,
           resumeUpstream, ttlMs, reason }

/-! ### The parsers on track overrides -/

structure IsTrackObject (object : List (String × Json)) (trackId : String) (ttlMs : ℕ)
    (reason : String) : Prop where
  schemaField : object.lookup "schema" = some (.str kOverrideSchema)
  scopeField : object.lookup "scope" = some (.str "track")
  trackIdField : object.lookup "trackId" = some (.str trackId)
  ttlMsField : object.lookup "ttlMs" = some (.int ttlMs)
  reasonField : object.lookup "reason" = some (.str reason)
  trackId_ne : trackId ≠ ""
  reason_ne : reason ≠ ""

section TrackObject

variable {object : List (String × Json)} {trackId reason : String} {ttlMs : ℕ}

theorem IsTrackObject.not_trackIdMissing (h : IsTrackObject object trackId ttlMs reason) :
    trackIdMissing object = false := by
  rw [trackIdMissing, h.trackIdField]

namespace QosValidator

variable {n : ℕ}

theorem isNonNegativeInteger_natCast (hn : n < 2 ^ 32) : isNonNegativeInteger (.int n) := by
  have hbmod : (n : ℤ).bmod (2 ^ 64) = n := Int.bmod_eq_of_le (by omega) (by omega)
  rw [isNonNegativeInteger, hbmod]
  exact decide_eq_true (Int.natCast_nonneg n)

theorem toNat_emod_natCast (hn : n < 2 ^ 32) : ((n : ℤ) % 2 ^ 32).toNat = n := by
  omega

theorem requireStringField_eq {key s : String} (h : object.lookup key = some (.str s))
    (hs : s ≠ "") : requireStringField object key = .ok s := by
  rw [requireStringField, h]
  exact if_pos hs

theorem requireNonNegativeIntegerField_eq {key : String}
    (h : object.lookup key = some (.int n)) (hn : n < 2 ^ 32) :
    requireNonNegativeIntegerField object key = .ok n := by
  simp only [requireNonNegativeIntegerField, h, isNonNegativeInteger_natCast hn, if_true,
    toNat_emod_natCast hn]

theorem trackIdField_eq (h : object.lookup "trackId" = some (.str trackId)) (hs : trackId ≠ "") :
    trackIdField object = .ok (some trackId) := by
  rw [trackIdField, h]
  exact if_pos hs

theorem maxLevelClampField_eq (h : object.lookup "maxLevelClamp" = some (.int n))
    (hn : n < 2 ^ 32) : maxLevelClampField object = .ok (some n) := by
  simp only [maxLevelClampField, h, isNonNegativeInteger_natCast hn, if_true, toNat_emod_natCast hn]

theorem parseOverride_track (h : IsTrackObject object trackId ttlMs reason)
    (httl : ttlMs < 2 ^ 32) : parseOverride (.obj object) = do
      let maxLevelClamp ← maxLevelClampField object
      let forceAudioOnly ← optionalBoolField object "forceAudioOnly"
      let disableRecovery ← optionalBoolField object "disableRecovery"
      let pauseUpstream ← optionalBoolField object "pauseUpstream"
      let resumeUpstream ← optionalBoolField object "resumeUpstream"
      ensure (¬(pauseUpstream = some true ∧ resumeUpstream = some true))
        "pauseUpstream and resumeUpstream are mutually exclusive"
      return { scope := .track, trackId := some trackId, maxLevelClamp, forceAudioOnly,
               disableRecovery, pauseUpstream, resumeUpstream, ttlMs, reason,
               raw := .obj object } := by
  have hsc : OverrideScope.ofString "track" = some .track := rfl
  simp only [parseOverride, requireStringField_eq h.schemaField (by decide),
    requireStringField_eq h.scopeField (by decide), requireStringField_eq h.reasonField h.reason_ne,
    requireNonNegativeIntegerField_eq h.ttlMsField httl, hsc, h.not_trackIdMissing,
    trackIdField_eq h.trackIdField h.trackId_ne, Bool.false_eq_true, and_false, not_false_eq_true,
    Json.ensure_of_pos, Json.ok_bind]

end QosValidator

namespace ClientParser

theorem asString_str (s path : String) : asString (some (.str s)) path = .ok s := rfl

theorem asNonEmptyString_str {s : String} (hs : s ≠ "") (path : String) :
    asNonEmptyString (some (.str s)) path = .ok s := by
  simp only [asNonEmptyString, asString_str, Json.ensure_of_pos hs, Json.ok_bind]
  rfl

theorem asNonNegativeInt_natCast (n : ℕ) (path : String) :
    asNonNegativeInt (some (.int n)) path = .ok n := by
  have hnumber : asFiniteNumber (some (.int n)) path = .ok (n : ℚ) := by
    simp [asFiniteNumber, Json.number]
  simp only [asNonNegativeInt, asInt, hnumber, Json.ok_bind, Rat.den_natCast, Rat.num_natCast,
    Json.ensure_of_pos, Int.natCast_nonneg, Int.toNat_natCast, pure, Except.pure]

theorem trackIdField_eq (h : object.lookup "trackId" = some (.str trackId)) (hs : trackId ≠ "") :
    trackIdField object = .ok (some (some trackId)) := by
  simp only [trackIdField, h, asNonEmptyString_str hs]
  rfl

theorem optionalNonNegativeInt_eq {key path : String} {n : ℕ}
    (h : object.lookup key = some (.int n)) :
    optionalNonNegativeInt object key path = .ok (some n) := by
  simp only [optionalNonNegativeInt, optionalField, h, asNonNegativeInt_natCast]
  rfl

theorem parseQosOverride_track (h : IsTrackObject object trackId ttlMs reason) :
    parseQosOverride (.obj object) = do
      let maxLevelClamp ← optionalNonNegativeInt object "maxLevelClamp" "qosOverride"
      let forceAudioOnly ← optionalBoolean object "forceAudioOnly" "qosOverride"
      let disableRecovery ← optionalBoolean object "disableRecovery" "qosOverride"
      let pauseUpstream ← optionalBoolean object "pauseUpstream" "qosOverride"
      let resumeUpstream ← optionalBoolean object "resumeUpstream" "qosOverride"
      ensure (¬(pauseUpstream = some true ∧ resumeUpstream = some true))
        "qosOverride.pauseUpstream and qosOverride.resumeUpstream are mutually exclusive"
      return { scope := .track, trackId := some (some trackId), maxLevelClamp, forceAudioOnly,
               disableRecovery, pauseUpstream, resumeUpstream, ttlMs, reason } := by
  have hsc : asScope (some (.str "track")) "qosOverride.scope" = .ok .track := rfl
  simp only [parseQosOverride, h.schemaField, asString_str, h.scopeField, hsc,
    h.not_trackIdMissing, trackIdField_eq h.trackIdField h.trackId_ne, h.ttlMsField,
    asNonNegativeInt_natCast, h.reasonField, asNonEmptyString_str h.reason_ne, Bool.false_eq_true,
    and_false, not_false_eq_true, Json.ensure_of_pos, Json.ok_bind]

end ClientParser

end TrackObject

/-! ### What the parsers make of the overrides that are sent -/

def QosOverride.toClient (o : QosOverride) : ClientOverride where
  scope := o.scope
  trackId := o.trackId.map some
  maxLevelClamp := o.maxLevelClamp
  forceAudioOnly := o.forceAudioOnly
  disableRecovery := o.disableRecovery
  pauseUpstream := o.pauseUpstream
  resumeUpstream := o.resumeUpstream
  ttlMs := o.ttlMs
  reason := o.reason

def ClientOverride.Agrees (c o : ClientOverride) : Prop :=
  c.scope = o.scope ∧ c.trackId = o.trackId ∧ c.maxLevelClamp = o.maxLevelClamp ∧
    c.pauseUpstream = o.pauseUpstream ∧ c.resumeUpstream = o.resumeUpstream ∧
      c.ttlMs = o.ttlMs ∧ c.reason = o.reason

def QosOverride.Understood (o : QosOverride) : Prop :=
  (∃ c, parseQosOverride o.raw = .ok c ∧ c.Agrees o.toClient) ∧
    ∃ p, QosValidator.parseOverride o.raw = .ok p ∧ p.toClient.Agrees o.toClient

theorem ClientOverride.Agrees.refl (c : ClientOverride) : c.Agrees c :=
  ⟨rfl, rfl, rfl, rfl, rfl, rfl, rfl⟩

theorem QosOverride.understood_of_eq {o : QosOverride}
    (hclient : parseQosOverride o.raw = .ok o.toClient)
    (hserv : QosValidator.parseOverride o.raw = .ok o) : o.Understood :=
  ⟨⟨_, hclient, .refl _⟩, ⟨_, hserv, .refl _⟩⟩

/-! ### What the server forwards -/

def IntsBelow (payload : Json) : Prop :=
  ∀ key i, payload.field? key = some (.int i) → -2 ^ 63 ≤ i ∧ i < 2 ^ 32

section Forwarded

variable {object : List (String × Json)} {key path : String}

open QosValidator in
theorem lookup_of_requireStringField {s : String} (h : requireStringField object key = .ok s) :
    object.lookup key = some (.str s) ∧ s ≠ "" := by
  unfold requireStringField at h
  split at h
  next hs' =>
    split at h
    next hne =>
      cases h
      exact ⟨hs', hne⟩
    · cases h
  · cases h

open QosValidator in
section

variable (hints : IntsBelow (.obj object))
include hints

theorem exists_natCast_of_isNonNegativeInteger {i : ℤ}
    (hkey : object.lookup key = some (.int i)) (h : isNonNegativeInteger (.int i)) :
    ∃ n : ℕ, i = n ∧ (i % 2 ^ 32).toNat = n := by
  have hbd := hints key i hkey
  have hnn : 0 ≤ i.bmod (2 ^ 64) := of_decide_eq_true h
  rw [Int.bmod_eq_of_le (by omega) (by omega)] at hnn
  exact ⟨i.toNat, by omega, by omega⟩

open QosValidator ClientParser in
theorem asNonNegativeInt_of_server {n : ℕ}
    (h : requireNonNegativeIntegerField object key = .ok n) :
    asNonNegativeInt (object.lookup key) path = .ok n := by
  unfold requireNonNegativeIntegerField at h
  split at h
  next hi =>
    split at h
    next hnn =>
      cases h
      obtain ⟨n, rfl, hn⟩ := exists_natCast_of_isNonNegativeInteger hints hi hnn
      rw [hi, hn, asNonNegativeInt_natCast]
    · cases h
  · cases h

open QosValidator ClientParser in
theorem optionalNonNegativeInt_of_server {clamp : Option ℕ}
    (h : maxLevelClampField object = .ok clamp) :
    optionalNonNegativeInt object "maxLevelClamp" path = .ok clamp := by
  unfold maxLevelClampField at h
  split at h
  next hnone =>
    cases h
    rw [optionalNonNegativeInt, optionalField, hnone]
  next hi =>
    split at h
    next hnn =>
      cases h
      obtain ⟨_, rfl, hn⟩ := exists_natCast_of_isNonNegativeInteger hints hi hnn
      rw [hn, optionalNonNegativeInt_eq hi]
    · cases h
  · cases h

end

open QosValidator ClientParser in
theorem optionalBoolean_of_server {b : Option Bool} (h : optionalBoolField object key = .ok b) :
    optionalBoolean object key path = .ok b := by
  unfold optionalBoolField at h
  rw [optionalBoolean, optionalField]
  split at h
  next hnone =>
    rw [hnone]
    exact h
  next hb' =>
    rw [hb']
    exact h
  · cases h

theorem trackIdField_of_server {t : Option String} (h : QosValidator.trackIdField object = .ok t) :
    ∃ t', ClientParser.trackIdField object = .ok t' ∧ t'.join = t := by
  unfold QosValidator.trackIdField at h
  split at h
  next hnone =>
    cases h
    exact ⟨none, by rw [trackIdField, hnone], rfl⟩
  next hnull =>
    cases h
    exact ⟨some none, by rw [trackIdField, hnull], rfl⟩
  next s hs =>
    split at h
    next hne =>
      cases h
      exact ⟨some (some s), trackIdField_eq hs hne, rfl⟩
    · cases h
  · cases h

end Forwarded

theorem parseQosOverride_of_parseOverride {payload : Json} {o : QosOverride}
    (h : QosValidator.parseOverride payload = .ok o) (hints : IntsBelow payload) :
    o.raw = payload ∧ ∃ t, parseQosOverride payload = .ok { o.toClient with trackId := t } ∧
      t.join = o.trackId := by
  unfold QosValidator.parseOverride at h
  split at h
  next object =>
    simp only [Except.bind_eq_ok, Json.ensure_eq_ok] at h
    obtain ⟨_, hschema, -, rfl, _, hsc, _, httl, _, hwhy, h⟩ := h
    split at h
    next hofString =>
      simp only [Except.bind_eq_ok, Json.ensure_eq_ok] at h
      obtain ⟨-, hmissing, trackId, htr, _, hcl, _, haud, _, hrec,
        pause, hpau, resume, hres, -, hboth, h⟩ := h
      cases h
      obtain ⟨t, ht, hjoin⟩ := trackIdField_of_server htr
      have hschema := lookup_of_requireStringField hschema
      have hsc := lookup_of_requireStringField hsc
      have hwhy := lookup_of_requireStringField hwhy
      refine ⟨rfl, t, ?_, hjoin⟩
      simp only [parseQosOverride, hschema.1, hsc.1, hwhy.1, asString_str,
        asScope, hofString, ht, optionalNonNegativeInt_of_server hints hcl,
        optionalBoolean_of_server haud, optionalBoolean_of_server hrec,
        optionalBoolean_of_server hpau, optionalBoolean_of_server hres,
        asNonNegativeInt_of_server hints httl, asNonEmptyString_str hwhy.2,
        Json.ensure_of_pos hmissing, Json.ensure_of_pos hboth, Json.ensure_of_pos, Json.ok_bind,
        pure, Except.pure, QosOverride.toClient]
    · cases h
  · cases h

/-! ### What the server sends -/

section Sent

variable {trackId reason : String} {ttlMs : ℕ}

section

variable (htr : trackId ≠ "")
include htr

theorem isTrackObject_trackFields (hwhy : reason ≠ "") {key : String}
    (hkey : key = "maxLevelClamp" ∨ key = "pauseUpstream" ∨ key = "resumeUpstream") (value : Json)
    (ttlMs : ℕ) :
    IsTrackObject (trackFields trackId (key, value) ttlMs reason) trackId ttlMs reason := by
  rcases hkey with rfl | rfl | rfl
  all_goals exact ⟨rfl, rfl, rfl, rfl, rfl, htr, hwhy⟩

theorem parseQosOverride_makeTrackClamp (hwhy : reason ≠ "")
    (n ttlMs : ℕ) : parseQosOverride (makeTrackClamp trackId n ttlMs reason).raw =
      .ok (makeTrackClamp trackId n ttlMs reason).toClient := by
  rw [makeTrackClamp, parseQosOverride_track
    (isTrackObject_trackFields htr hwhy (.inl rfl) (.int n) ttlMs),
    optionalNonNegativeInt_eq rfl]
  rfl

theorem parseQosOverride_makeTrackPause (ttlMs : ℕ) :
    parseQosOverride (makeTrackPause trackId ttlMs).raw =
      .ok (makeTrackPause trackId ttlMs).toClient := by
  rw [makeTrackPause, parseQosOverride_track
    (isTrackObject_trackFields htr (by decide) (.inr (.inl rfl)) (.bool true) ttlMs)]
  rfl

theorem parseQosOverride_makeTrackResume (ttlMs : ℕ) :
    parseQosOverride (makeTrackResume trackId ttlMs).raw =
      .ok (makeTrackResume trackId ttlMs).toClient := by
  rw [makeTrackResume, parseQosOverride_track
    (isTrackObject_trackFields htr (by decide) (.inr (.inr rfl)) (.bool true) ttlMs)]
  rfl

theorem understood_makeTrackClamp (hwhy : reason ≠ "")
    (httl : ttlMs < 2 ^ 32) {n : ℕ} (hn : n < 2 ^ 32) :
    (makeTrackClamp trackId n ttlMs reason).Understood := by
  refine QosOverride.understood_of_eq (parseQosOverride_makeTrackClamp htr hwhy n ttlMs) ?_
  rw [makeTrackClamp, QosValidator.parseOverride_track
    (isTrackObject_trackFields htr hwhy (.inl rfl) (.int n) ttlMs) httl,
    QosValidator.maxLevelClampField_eq rfl hn]
  rfl

theorem parseQosOverride_makeTrackClear (hwhy : reason ≠ "") :
    parseQosOverride (makeTrackClear trackId reason).raw =
      .error "qosOverride.maxLevelClamp must be a finite number" := by
  rw [makeTrackClear, parseQosOverride_track
    (isTrackObject_trackFields htr hwhy (.inl rfl) .null 0)]
  rfl

theorem parseOverride_makeTrackClear (hwhy : reason ≠ "") :
    QosValidator.parseOverride (makeTrackClear trackId reason).raw =
      .error "invalid maxLevelClamp" := by
  rw [makeTrackClear, QosValidator.parseOverride_track
    (isTrackObject_trackFields htr hwhy (.inl rfl) .null 0) (by norm_num)]
  rfl

theorem not_understood_makeTrackClear (hwhy : reason ≠ "") :
    ¬(makeTrackClear trackId reason).Understood := by
  rintro ⟨⟨_, hc, -⟩, -⟩
  rw [parseQosOverride_makeTrackClear htr hwhy] at hc
  cases hc

end

theorem trackOverrides_understood_iff (state : ProducerDemandState) (htr : trackId ≠ "") :
    (∀ o ∈ trackOverrides state trackId, o.Understood) ↔
      state.supplyState = .zeroDemandHold ∨ state.supplyState = .lowClamped := by
  unfold trackOverrides
  cases hst : state.supplyState with
  | paused | resumeWarmup =>
    simpa using fun h => absurd h (not_understood_makeTrackClear htr (by decide))
  | active =>
    simpa using not_understood_makeTrackClear htr (by decide)
  | zeroDemandHold =>
    simpa using understood_makeTrackClamp htr (by decide) (by norm_num) (by norm_num)
  | lowClamped =>
    have hlay : state.maxSpatialLayer.toNat < 2 ^ 32 :=
      lt_trans state.maxSpatialLayer.toNat_lt (by norm_num)
    simp only [reduceCtorEq, or_true, iff_true]
    split
    · simpa using understood_makeTrackClamp htr (by decide) (by norm_num) hlay
    · simp

end Sent

/-- **Everything the server sends is understood exactly when only clamps are sent.**  The
overrides for the producers of a room are all accepted and read back by the client and by
the server's own validator if and only if every producer whose peer and track are known
is held at zero demand or clamped: a producer that is active, paused or resuming gets a
clear, which both parsers reject. -/
theorem buildOverrides_understood_iff (states : List ProducerDemandState)
    (resolveTrack : String → Option (String × String)) (nowMs : ℤ)
    (hresolve : ∀ producerId peerId trackId,
      resolveTrack producerId = some (peerId, trackId) → trackId ≠ "") :
    (∀ t ∈ buildOverrides states resolveTrack nowMs, t.overrideData.Understood) ↔
      ∀ state ∈ states, (resolveTrack state.producerId).isSome = true →
        state.supplyState = .zeroDemandHold ∨ state.supplyState = .lowClamped := by
  constructor
  · intro h state hst hsome
    obtain ⟨⟨peerId, trackId⟩, hres⟩ := Option.isSome_iff_exists.mp hsome
    refine (trackOverrides_understood_iff state (hresolve _ _ _ hres)).mp fun o ho => ?_
    exact h ⟨peerId, o⟩ (mem_buildOverrides.mpr ⟨state, hst, trackId, hres, ho⟩)
  · intro h t ht
    obtain ⟨state, hst, trackId, hres, ho⟩ := mem_buildOverrides.mp ht
    have honly := h state hst (by rw [hres]; rfl)
    exact (trackOverrides_understood_iff state (hresolve _ _ _ hres)).mpr honly _ ho

def cameraOf : String → Option (String × String) := fun _ => some ("p", "camera")

theorem buildOverrides_understood_hold :
    (buildOverrides [{ producerId := "v", supplyState := .zeroDemandHold }] cameraOf 0).length = 1 ∧
      ∀ t ∈ buildOverrides [{ producerId := "v", supplyState := .zeroDemandHold }] cameraOf 0,
        t.overrideData.Understood :=
  ⟨rfl, (buildOverrides_understood_iff _ cameraOf 0
    (fun _ _ _ h => by obtain ⟨-, rfl⟩ := Prod.mk.inj (Option.some.inj h); decide)).mpr
    (by decide)⟩

/-- **An active producer's clear is not understood.** -/
theorem not_understood_active :
    ∃ t ∈ buildOverrides [{ producerId := "v", supplyState := .active }] cameraOf 0,
      parseQosOverride t.overrideData.raw =
          .error "qosOverride.maxLevelClamp must be a finite number" ∧
        QosValidator.parseOverride t.overrideData.raw = .error "invalid maxLevelClamp" ∧
          ¬t.overrideData.Understood :=
  ⟨_, List.mem_singleton.mpr rfl, parseQosOverride_makeTrackClear (by decide) (by decide),
    parseOverride_makeTrackClear (by decide) (by decide),
    not_understood_makeTrackClear (by decide) (by decide)⟩

end MediasoupCpp
