import MediasoupCpp.Qos.PublisherController

/-!
# Policies for the controllers of a session

A policy is read by the server, which forwards it, and by the client, which hands it to its
controllers one after the other.  The first controller that throws ends the delivery; the
exception is caught behind the loop.

Main result: `policy_applied_iff`.

Source: `src/client/lib/qos/adapters/signalChannel.js`, `src/client/lib/qos/protocol.js`,
`src/client/lib/qos/controller.js`, `src/client/lib/qos/sampler.js`, `src/qos/QosValidator.cpp`.
-/

namespace MediasoupCpp

open Json (ensure)

/-! ### The parsers -/

def kPolicySchema : String := "mediasoup.qos.policy.v1"

/-- What the server reads of a policy.  What it sends on is the payload itself. -/
structure ServerPolicy where
  sampleIntervalMs : ℕ
  snapshotIntervalMs : ℕ
  allowAudioOnly : Bool
  allowVideoPause : Bool
  cameraProfile : String
  screenShareProfile : String
  audioProfile : String
  raw : Json

namespace QosValidator

def requireBoolField (object : List (String × Json)) (key : String) : Except String Bool :=
  match object.lookup key with
  | some (.bool b) => .ok b
  | _ => .error ("missing or invalid bool field: " ++ key)

def requireObjectField (object : List (String × Json)) (key : String) :
    Except String (List (String × Json)) :=
  match object.lookup key with
  | some (.obj fields) => .ok fields
  | _ => .error ("missing or invalid object field: " ++ key)

def parsePolicy (payload : Json) : Except String ServerPolicy := do
  let .obj object := payload | throw "payload must be an object"
  let schema ← requireStringField object "schema"
  ensure (schema = kPolicySchema) "invalid schema"
  let sampleIntervalMs ← requireNonNegativeIntegerField object "sampleIntervalMs"
  let snapshotIntervalMs ← requireNonNegativeIntegerField object "snapshotIntervalMs"
  let allowAudioOnly ← requireBoolField object "allowAudioOnly"
  let allowVideoPause ← requireBoolField object "allowVideoPause"
  let profiles ← requireObjectField object "profiles"
  let cameraProfile ← requireStringField profiles "camera"
  let screenShareProfile ← requireStringField profiles "screenShare"
  let audioProfile ← requireStringField profiles "audio"
  return { sampleIntervalMs, snapshotIntervalMs, allowAudioOnly, allowVideoPause, cameraProfile,
           screenShareProfile, audioProfile, raw := payload }

end QosValidator

def profileNames (camera screenShare audio : String) : QosSource → String
  | .camera => camera
  | .screenShare => screenShare
  | .audio => audio

open ClientParser in
def parseQosPolicy (payload : Json) : Except String QosPolicy := do
  let .obj obj := payload | throw "qosPolicy must be an object"
  let schema ← asString (obj.lookup "schema") "qosPolicy.schema"
  ensure (schema = kPolicySchema)
    ("qosPolicy.schema must be '" ++ kPolicySchema ++ "', got '" ++ schema ++ "'")
  let sampleIntervalMs ←
    asNonNegativeInt (obj.lookup "sampleIntervalMs") "qosPolicy.sampleIntervalMs"
  let snapshotIntervalMs ←
    asNonNegativeInt (obj.lookup "snapshotIntervalMs") "qosPolicy.snapshotIntervalMs"
  let allowAudioOnly ← asBoolean (obj.lookup "allowAudioOnly") "qosPolicy.allowAudioOnly"
  let allowVideoPause ← asBoolean (obj.lookup "allowVideoPause") "qosPolicy.allowVideoPause"
  let some (.obj profilesObj) := obj.lookup "profiles"
    | throw "qosPolicy.profiles must be an object"
  let camera ← asNonEmptyString (profilesObj.lookup "camera") "qosPolicy.profiles.camera"
  let screenShare ←
    asNonEmptyString (profilesObj.lookup "screenShare") "qosPolicy.profiles.screenShare"
  let audio ← asNonEmptyString (profilesObj.lookup "audio") "qosPolicy.profiles.audio"
  return { sampleIntervalMs, snapshotIntervalMs, allowAudioOnly, allowVideoPause,
           profiles := some (profileNames camera screenShare audio) }

/-! ### The delivery -/

/-- A controller and the interval of its sampler, which does not take another one. -/
structure SampledControl where
  control : PublisherControl
  intervalMs : ℤ
  intervalMs_pos : 0 < intervalMs

variable (c : SampledControl)

/-- The controller takes its part of the policy before its sampler takes the interval, which throws
if it is not positive. -/
def SampledControl.handlePolicy (policy : QosPolicy) : SampledControl × Bool :=
  if h : 0 < policy.sampleIntervalMs then
    (⟨c.control.handlePolicy policy, policy.sampleIntervalMs, h⟩, false)
  else ({ c with control := c.control.handlePolicy policy }, true)

/-- The controllers of a session take the policy one after the other; those after one that throws
do not see it. -/
def deliverPolicy (policy : QosPolicy) : List SampledControl → List SampledControl
  | [] => []
  | c :: controls =>
    match c.handlePolicy policy with
    | (c, true) => c :: controls
    | (c, false) => c :: deliverPolicy policy controls

def handlePolicyMessage (payload : Json) (controls : List SampledControl) : List SampledControl :=
  match parseQosPolicy payload with
  | .error _ => controls
  | .ok policy => deliverPolicy policy controls

/-- The controller has all that the policy asks for, the named profile included. -/
structure SampledControl.HasPolicy (before c : SampledControl) (policy : QosPolicy) : Prop where
  sampleIntervalMs : c.control.sampleIntervalMs = policy.sampleIntervalMs
  snapshotIntervalMs : c.control.snapshotIntervalMs = policy.snapshotIntervalMs
  allowAudioOnly : c.control.allowAudioOnly = policy.allowAudioOnly
  allowVideoPause : c.control.allowVideoPause = policy.allowVideoPause
  intervalMs : c.intervalMs = policy.sampleIntervalMs
  profile : ∀ names ∈ policy.profiles,
    names before.control.profile.source = before.control.profile.name ∧
        c.control.profile = before.control.profile ∨
      resolveProfileByName before.control.profile.source (names before.control.profile.source) =
        some c.control.profile

/-- The profile the policy names for the source is the current one or one that there is. -/
def SampledControl.Knows (policy : QosPolicy) : Prop :=
  ∀ names ∈ policy.profiles, names c.control.profile.source = c.control.profile.name ∨
    (resolveProfileByName c.control.profile.source (names c.control.profile.source)).isSome

variable {policy : QosPolicy}

theorem SampledControl.hasPolicy_handlePolicy_iff (hpos : 0 < policy.sampleIntervalMs) :
    c.HasPolicy (c.handlePolicy policy).1 policy ↔ c.Knows policy := by
  rw [handlePolicy, dif_pos hpos, Knows]
  cases hnms : policy.profiles with
  | none =>
    refine iff_of_true ?_ (by simp)
    simp only [PublisherControl.handlePolicy, if_neg (not_le.mpr hpos), hnms]
    exact ⟨rfl, rfl, rfl, rfl, rfl, by simp [hnms]⟩
  | some names =>
    simp only [PublisherControl.handlePolicy, if_neg (not_le.mpr hpos), hnms, Option.mem_some_iff,
      forall_eq']
    by_cases hsame : names c.control.profile.source = c.control.profile.name
    · rw [if_pos (.inr hsame)]
      refine iff_of_true ⟨rfl, rfl, rfl, rfl, rfl, ?_⟩ (.inl hsame)
      simp [hnms, hsame]
    cases hres : resolveProfileByName c.control.profile.source
        (names c.control.profile.source) with
    | none =>
      refine iff_of_false (fun h => ?_) (by simp [hsame])
      simpa [hsame, hres] using h.profile names hnms
    | some resolved =>
      -- a name that resolves is not empty
      have hne : names c.control.profile.source ≠ "" := by
        intro hemp
        rw [hemp] at hres
        cases hsource : c.control.profile.source <;> rw [hsource] at hres <;> cases hres
      rw [if_neg (by simp [hsame, hne])]
      refine iff_of_true ⟨rfl, rfl, rfl, rfl, rfl, ?_⟩ (.inr (by simp))
      simp [hnms, hres]

theorem forall₂_hasPolicy_deliverPolicy_iff
    (hpos : 0 < policy.sampleIntervalMs) (controls : List SampledControl) :
    List.Forall₂ (fun before c => before.HasPolicy c policy) controls
        (deliverPolicy policy controls) ↔ ∀ c ∈ controls, c.Knows policy := by
  induction controls with
  | nil => simp [deliverPolicy]
  | cons c controls ih =>
    have hstep : deliverPolicy policy (c :: controls) =
        (c.handlePolicy policy).1 :: deliverPolicy policy controls := by
      rw [deliverPolicy, SampledControl.handlePolicy, dif_pos hpos]
    rw [hstep, List.forall₂_cons, ih, c.hasPolicy_handlePolicy_iff hpos, List.forall_mem_cons]

def conservativePolicy (sampleIntervalMs : ℤ) : Json :=
  .obj [("schema", .str kPolicySchema), ("sampleIntervalMs", .int sampleIntervalMs),
    ("snapshotIntervalMs", .int 3000), ("allowAudioOnly", .bool false),
    ("allowVideoPause", .bool true),
    ("profiles", .obj [("camera", .str "conservative"), ("screenShare", .str "default"),
      ("audio", .str "default")])]

def freshCamera : SampledControl where
  control := .create { profile := getDefaultCameraProfile, trackId := "camera" } 0
  intervalMs := 1000
  intervalMs_pos := by decide

/-- Both parsers take the interval zero.  The first controller throws when it has taken a part of
the policy, and the second one gets nothing of it. -/
theorem zero_interval_partly_applied :
    (∃ policy, QosValidator.parsePolicy (conservativePolicy 0) = .ok policy) ∧
      (∃ policy, parseQosPolicy (conservativePolicy 0) = .ok policy ∧
        (freshCamera.handlePolicy policy).2 = true) ∧
      ∃ c, handlePolicyMessage (conservativePolicy 0) [freshCamera, freshCamera] =
          [c, freshCamera] ∧
        c.control.snapshotIntervalMs = 3000 ∧ c.control.allowAudioOnly = false ∧
        c.intervalMs = 1000 ∧ c.control.profile.name = "default-camera" :=
  ⟨⟨_, rfl⟩, ⟨_, rfl, rfl⟩, _, rfl, rfl, rfl, rfl, rfl⟩

/-- **A policy is applied by all controllers, and none throws, exactly when its sample interval is
positive and they know the profiles it names.** -/
theorem policy_applied_iff {payload : Json}
    (h : parseQosPolicy payload = .ok policy) (controls : List SampledControl) :
    (∀ c ∈ controls, (c.handlePolicy policy).2 = false) ∧
        List.Forall₂ (fun before c => before.HasPolicy c policy) controls
          (handlePolicyMessage payload controls) ↔
      controls = [] ∨ 0 < policy.sampleIntervalMs ∧ ∀ c ∈ controls, c.Knows policy := by
  have hmsg : handlePolicyMessage payload controls = deliverPolicy policy controls := by
    rw [handlePolicyMessage, h]
  rw [hmsg]
  by_cases hpos : 0 < policy.sampleIntervalMs
  · have hqt : ∀ c ∈ controls, (c.handlePolicy policy).2 = false := fun c _ => by
      rw [SampledControl.handlePolicy, dif_pos hpos]
    rw [forall₂_hasPolicy_deliverPolicy_iff hpos, and_iff_right hqt, and_iff_right hpos]
    refine ⟨.inr, ?_⟩
    rintro (rfl | hknows)
    · simp
    · exact hknows
  · cases controls with
    | nil => simp [deliverPolicy]
    | cons c controls =>
      have hthrows : (c.handlePolicy policy).2 := by
        rw [SampledControl.handlePolicy, dif_neg hpos]
      refine iff_of_false (fun hall => ?_) (by simp [hpos])
      rw [hall.1 c List.mem_cons_self] at hthrows
      cases hthrows

theorem policy_applied_iff_camera :
    ∃ policy, parseQosPolicy (conservativePolicy 500) = .ok policy ∧
      (∀ c ∈ [freshCamera], (c.handlePolicy policy).2 = false) ∧
      List.Forall₂ (fun before c => before.HasPolicy c policy) [freshCamera]
        (handlePolicyMessage (conservativePolicy 500) [freshCamera]) := by
  refine ⟨_, rfl, (policy_applied_iff rfl [freshCamera]).mpr (.inr ⟨by decide, fun c hc => ?_⟩)⟩
  cases List.mem_singleton.mp hc
  rintro _ ⟨⟩
  exact .inr rfl

end MediasoupCpp
