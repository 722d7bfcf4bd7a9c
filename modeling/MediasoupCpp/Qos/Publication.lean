import Mathlib.Algebra.Group.Nat.Defs
import MediasoupCpp.Lib.Dict
import MediasoupCpp.Lib.Run

/-!
# Publishing snapshots of several producers

A peer's QoS session has one controller per producer.  Each controller numbers its snapshots by
itself and sends them in the peer's name; a snapshot holds the one track of its controller.

Main result: `publishedWell_iff`.

Source: `src/client/lib/qos/controller.js`, `src/client/lib/qos/factory.js`,
`src/client/lib/qos/constants.js`, `src/qos/QosRegistry.cpp`, `src/RoomDownlinkHelpers.h`.
-/

namespace MediasoupCpp

open Runs

/-! ### The server -/

structure TrackSnapshot where
  localTrackId : String
  producerId : String
  deriving DecidableEq

structure ClientQosSnapshot where
  seq : ℕ
  tracks : List TrackSnapshot
  deriving DecidableEq

structure QosEntry where
  snapshot : ClientQosSnapshot
  receivedAtMs : ℤ
  deriving DecidableEq

abbrev QosRegistry : Type := Dict String (Dict String QosEntry)

namespace QosRegistry

variable (reg : QosRegistry)

def get (roomId peerId : String) : Option QosEntry :=
  (reg.lookup roomId).bind (AList.lookup peerId)

def staleSeq (prevSeq seq : ℕ) : Bool := seq ≤ prevSeq && prevSeq - seq ≤ 1000

def upsert (roomId peerId : String) (snapshot : ClientQosSnapshot) (receivedAtMs : ℤ) :
    Except String QosRegistry :=
  let peers := (reg.lookup roomId).getD ∅
  match peers.lookup peerId with
  | some entry =>
    if staleSeq entry.snapshot.seq snapshot.seq then .error "stale-seq"
    else .ok (reg.insert roomId (peers.insert peerId ⟨snapshot, receivedAtMs⟩))
  | none => .ok (reg.insert roomId (peers.insert peerId ⟨snapshot, receivedAtMs⟩))

variable {reg}

theorem get_of_upsert {roomId peerId : String} {snapshot : ClientQosSnapshot} {receivedAtMs : ℤ}
    {reg' : QosRegistry} (h : reg.upsert roomId peerId snapshot receivedAtMs = .ok reg') :
    reg'.get roomId peerId = some ⟨snapshot, receivedAtMs⟩ := by
  have hins : ∀ peers : Dict String QosEntry, QosRegistry.get
      (reg.insert roomId (peers.insert peerId ⟨snapshot, receivedAtMs⟩)) roomId peerId =
        some ⟨snapshot, receivedAtMs⟩ := by
    intro peers
    rw [QosRegistry.get, AList.lookup_insert, Option.bind_some, AList.lookup_insert]
  unfold upsert at h
  simp only at h
  split at h
  · split at h
    · cases h
    · cases h
      exact hins _
  · cases h
    exact hins _

theorem upsert_isOk_iff {roomId peerId : String} {snapshot : ClientQosSnapshot} {receivedAtMs : ℤ} :
    (∃ reg', reg.upsert roomId peerId snapshot receivedAtMs = .ok reg') ↔
      ∀ entry ∈ reg.get roomId peerId, staleSeq entry.snapshot.seq snapshot.seq = false := by
  have hget : reg.get roomId peerId = ((reg.lookup roomId).getD ∅).lookup peerId := by
    unfold QosRegistry.get
    cases reg.lookup roomId with
    | none => rfl
    | some peers => rfl
  rw [hget]
  unfold upsert
  simp only
  split
  next entry hent =>
    by_cases hstal : staleSeq entry.snapshot.seq snapshot.seq <;> simp [hent, hstal]
  next hnone =>
    simp [hnone]

end QosRegistry

def resolvePublisherTrackId (reg : QosRegistry) (roomId publisherPeerId producerId : String) :
    Option String :=
  (reg.get roomId publisherPeerId).bind fun entry =>
    (entry.snapshot.tracks.find? fun track => track.producerId = producerId).map
      TrackSnapshot.localTrackId

/-! ### The session -/

def qosMaxSeq : ℕ := 2 ^ 53 - 1

structure PublisherQosController where
  trackId : String
  producerId : String
  seq : ℕ := 0

namespace PublisherQosController

variable (c : PublisherQosController)

def nextSeq : ℕ := if qosMaxSeq ≤ c.seq then 0 else c.seq + 1

def nextSnapshot : ClientQosSnapshot := ⟨c.nextSeq, [⟨c.trackId, c.producerId⟩]⟩

end PublisherQosController

open PublisherQosController

/-- A session of a peer, with a controller for each `i : ι`, and the server's registry. -/
structure QosSession (ι : Type) where
  controllers : ι → PublisherQosController
  registry : QosRegistry := ∅

structure Publication (ι : Type) where
  controller : ι
  receivedAtMs : ℤ

section Session

variable {ι : Type} (roomId peerId : String)

def QosSession.offer (s : QosSession ι) (p : Publication ι) : Except String QosRegistry :=
  s.registry.upsert roomId peerId (s.controllers p.controller).nextSnapshot p.receivedAtMs

def publish [DecidableEq ι] (s : QosSession ι) (p : Publication ι) : QosSession ι where
  controllers := Function.update s.controllers p.controller
    { s.controllers p.controller with seq := (s.controllers p.controller).nextSeq }
  registry := (s.offer roomId peerId p).toOption.getD s.registry

def Accepted (s : QosSession ι) (p : Publication ι) : Prop :=
  ∃ reg, s.offer roomId peerId p = .ok reg

def PublishedWell [DecidableEq ι] (s : QosSession ι) (ps : List (Publication ι)) : Prop :=
  StepsMeet (publish roomId peerId) (Accepted roomId peerId) s ps ∧
    ∀ pre, pre <+: ps → ∀ p ∈ pre,
      resolvePublisherTrackId (runFrom (publish roomId peerId) s pre).registry roomId peerId
          (s.controllers p.controller).producerId =
        some (s.controllers p.controller).trackId

def QosSession.create (producers : ι → TrackSnapshot) (registry : QosRegistry) : QosSession ι where
  controllers i := { trackId := (producers i).localTrackId, producerId := (producers i).producerId }
  registry := registry

variable {roomId peerId} {producers : ι → TrackSnapshot} {s : QosSession ι}

theorem get_publish [DecidableEq ι] (s : QosSession ι) (p : Publication ι) :
    (publish roomId peerId s p).registry.get roomId peerId =
        some ⟨(s.controllers p.controller).nextSnapshot, p.receivedAtMs⟩ ∨
      (publish roomId peerId s p).registry = s.registry ∧ ¬Accepted roomId peerId s p := by
  cases hoffer : s.offer roomId peerId p with
  | ok reg =>
    refine .inl ?_
    have hreg : (publish roomId peerId s p).registry = reg := by
      rw [publish, hoffer]
      rfl
    rw [hreg]
    exact QosRegistry.get_of_upsert hoffer
  | error reason =>
    refine .inr ⟨by rw [publish, hoffer]; rfl, ?_⟩
    rintro ⟨reg, hreg⟩
    rw [hreg] at hoffer
    cases hoffer

/-! ### What the server keeps holds one track -/

/-- The controllers are those of the producers, and the snapshot the server keeps of the
peer is one of theirs. -/
structure OneTrack (roomId peerId : String) (producers : ι → TrackSnapshot) (s : QosSession ι) :
    Prop where
  track : ∀ i, TrackSnapshot.mk (s.controllers i).trackId (s.controllers i).producerId = producers i
  kept : ∀ entry ∈ s.registry.get roomId peerId, ∃ i, entry.snapshot.tracks = [producers i]

theorem OneTrack.step [DecidableEq ι] (h : OneTrack roomId peerId producers s) (p : Publication ι) :
    OneTrack roomId peerId producers (publish roomId peerId s p) := by
  refine ⟨fun i => ?_, fun entry hent => ?_⟩
  · by_cases hi : i = p.controller
    · subst hi
      simpa [publish] using h.track p.controller
    · simpa [publish, hi] using h.track i
  rcases get_publish s p with hnew | ⟨hsame, -⟩
  · rw [hnew] at hent
    cases hent
    exact ⟨p.controller, congrArg (fun t => [t]) (h.track p.controller)⟩
  · exact h.kept entry (by rwa [hsame] at hent)

theorem OneTrack.run [DecidableEq ι] (h : OneTrack roomId peerId producers s)
    (ps : List (Publication ι)) :
    OneTrack roomId peerId producers (runFrom (publish roomId peerId) s ps) :=
  runFrom_inv (OneTrack roomId peerId producers) (fun _ p hs => hs.step p) ps s h

theorem OneTrack.of_resolved (h : OneTrack roomId peerId producers s) {i : ι} {trackId : String}
    (hres : resolvePublisherTrackId s.registry roomId peerId (producers i).producerId =
      some trackId) :
    ∀ entry ∈ s.registry.get roomId peerId, ∃ j, entry.snapshot.tracks = [producers j] ∧
      (producers j).producerId = (producers i).producerId := by
  intro entry hent
  obtain ⟨j, hj⟩ := h.kept entry hent
  refine ⟨j, hj, ?_⟩
  rw [resolvePublisherTrackId, Option.mem_def.mp hent, Option.bind_some, hj] at hres
  by_contra hne
  rw [List.find?_cons_of_neg (by simpa using hne)] at hres
  cases hres

/-! ### A controller that publishes alone -/

structure Sole (roomId peerId : String) (producers : ι → TrackSnapshot) (i : ι)
    (s : QosSession ι) : Prop where
  track : TrackSnapshot.mk (s.controllers i).trackId (s.controllers i).producerId = producers i
  kept : ∀ entry ∈ s.registry.get roomId peerId,
    entry.snapshot = ⟨(s.controllers i).seq, [producers i]⟩
  seq_le : (s.controllers i).seq ≤ qosMaxSeq

theorem not_staleSeq_nextSeq {c : PublisherQosController} (hc : c.seq ≤ qosMaxSeq) :
    QosRegistry.staleSeq c.seq c.nextSeq = false := by
  unfold nextSeq
  split
  next hmax =>
    have hseq : c.seq = 9007199254740991 := le_antisymm hc hmax
    rw [hseq]
    rfl
  · simp [QosRegistry.staleSeq]

theorem nextSeq_le (c : PublisherQosController) : c.nextSeq ≤ qosMaxSeq := by
  unfold nextSeq
  split
  · exact Nat.zero_le _
  · omega

variable {i : ι}

section

variable (h : Sole roomId peerId producers i s)
include h

variable (receivedAtMs : ℤ)

theorem Sole.accepted : Accepted roomId peerId s ⟨i, receivedAtMs⟩ := by
  refine QosRegistry.upsert_isOk_iff.mpr fun entry hent => ?_
  rw [h.kept entry hent]
  exact not_staleSeq_nextSeq h.seq_le

theorem Sole.get_publish [DecidableEq ι] :
    (publish roomId peerId s ⟨i, receivedAtMs⟩).registry.get roomId peerId =
      some ⟨⟨(s.controllers i).nextSeq, [producers i]⟩, receivedAtMs⟩ := by
  rcases MediasoupCpp.get_publish s ⟨i, receivedAtMs⟩ with hnew | ⟨-, hrejected⟩
  · rw [hnew, nextSnapshot, h.track]
  · exact absurd (h.accepted receivedAtMs) hrejected

theorem Sole.step [DecidableEq ι] :
    Sole roomId peerId producers i (publish roomId peerId s ⟨i, receivedAtMs⟩) := by
  refine ⟨by simpa [publish] using h.track, fun entry hent => ?_, ?_⟩
  · rw [h.get_publish] at hent
    cases hent
    simp [publish]
  · simpa [publish] using nextSeq_le (s.controllers i)

theorem Sole.run [DecidableEq ι] (ps : List (Publication ι)) (hps : ∀ p ∈ ps, p.controller = i) :
    StepsMeet (publish roomId peerId) (Accepted roomId peerId) s ps ∧
      Sole roomId peerId producers i (runFrom (publish roomId peerId) s ps) := by
  induction ps generalizing s with
  | nil => exact ⟨trivial, h⟩
  | cons p ps ih =>
    obtain ⟨c, receivedAtMs⟩ := p
    obtain rfl : c = i := hps _ List.mem_cons_self
    obtain ⟨hmeet, hsole⟩ := ih (h.step receivedAtMs) fun p hp => hps p (List.mem_cons_of_mem _ hp)
    exact ⟨⟨h.accepted receivedAtMs, hmeet⟩, hsole⟩

theorem Sole.resolved [DecidableEq ι] :
    resolvePublisherTrackId (publish roomId peerId s ⟨i, receivedAtMs⟩).registry roomId peerId
      (producers i).producerId = some (producers i).localTrackId := by
  rw [resolvePublisherTrackId, h.get_publish]
  simp

end

/-! ### Serving a session well -/

theorem oneTrack_create {registry : QosRegistry} (hregistry : registry.get roomId peerId = none) :
    OneTrack roomId peerId producers (.create producers registry) :=
  ⟨fun _ => rfl, by simp [QosSession.create, hregistry]⟩

theorem sole_create {registry : QosRegistry} (hregistry : registry.get roomId peerId = none) :
    Sole roomId peerId producers i (.create producers registry) :=
  ⟨rfl, by simp [QosSession.create, hregistry], Nat.zero_le _⟩

end Session

/-- **A session is served well exactly when only one of its controllers publishes.**  Take
any interleaving of the publications of the controllers of a session over different
producers, on a server that keeps no snapshot of the peer yet.  Every snapshot is accepted
and after every one of them the producers that have published are resolved to their
tracks, if and only if all publications are of the same controller. -/
theorem publishedWell_iff {ι : Type} [DecidableEq ι] (roomId peerId : String)
    (producers : ι → TrackSnapshot)
    (hprods : ∀ i j, (producers i).producerId = (producers j).producerId → i = j)
    (registry : QosRegistry) (hregistry : registry.get roomId peerId = none)
    (ps : List (Publication ι)) :
    PublishedWell roomId peerId (.create producers registry) ps ↔
      ∀ p ∈ ps, ∀ q ∈ ps, p.controller = q.controller := by
  constructor
  · rintro ⟨-, hres⟩ p hp q hq
    -- both producers are resolved after the whole run, from the one track that is kept
    have hcre : OneTrack roomId peerId producers (.create producers registry) :=
      oneTrack_create hregistry
    have hone := hcre.run ps
    have hp' := hres ps (List.prefix_refl ps) p hp
    have hq' := hres ps (List.prefix_refl ps) q hq
    cases hent : (runFrom (publish roomId peerId) (.create producers registry)
        ps).registry.get roomId peerId with
    | none =>
      rw [resolvePublisherTrackId, hent] at hp'
      cases hp'
    | some entry =>
      obtain ⟨i, hi, hip⟩ := hone.of_resolved hp' entry hent
      obtain ⟨j, hj, hjq⟩ := hone.of_resolved hq' entry hent
      obtain rfl : p.controller = i := (hprods _ _ hip).symm
      obtain rfl : q.controller = j := (hprods _ _ hjq).symm
      have htrs : producers p.controller = producers q.controller := by
        simpa [hi] using hj
      exact hprods _ _ (by rw [htrs])
  · intro hall
    rcases ps with _ | ⟨p, ps⟩
    · refine ⟨trivial, fun pre hpre q hq => ?_⟩
      rw [List.prefix_nil.mp hpre] at hq
      cases hq
    have hsole : Sole roomId peerId producers p.controller (.create producers registry) :=
      sole_create hregistry
    have hown : ∀ q ∈ p :: ps, q.controller = p.controller :=
      fun q hq => (hall p List.mem_cons_self q hq).symm
    refine ⟨(hsole.run (p :: ps) hown).1, fun pre hpre q hq => ?_⟩
    rw [hown q (hpre.subset hq)]
    -- the prefix ends with a publication of the one controller
    obtain rfl | ⟨init, last, rfl⟩ := pre.eq_nil_or_concat
    · cases hq
    obtain ⟨c, receivedAtMs⟩ := last
    obtain rfl : c = p.controller := hown ⟨c, receivedAtMs⟩ (hpre.subset (by simp))
    rw [List.concat_eq_append, runFrom_concat]
    refine (hsole.run init fun q hq => hown q (hpre.subset ?_)).2.resolved receivedAtMs
    simp [hq]

def cameraAndMic : Bool → TrackSnapshot
  | true => ⟨"camera", "v"⟩
  | false => ⟨"mic", "a"⟩

theorem publishedWell_camera :
    PublishedWell "r" "p" (.create cameraAndMic ∅) [⟨true, 0⟩, ⟨true, 2000⟩] :=
  (publishedWell_iff "r" "p" cameraAndMic (by decide) ∅ rfl _).mpr (by decide)

/-- **The first snapshot of the second controller is rejected**: the numbers of the two
controllers both start at one. -/
theorem not_publishedWell_cameraAndMic :
    (runFrom (publish "r" "p") (QosSession.create cameraAndMic ∅) [⟨true, 0⟩]).offer "r" "p"
        ⟨false, 10⟩ = .error "stale-seq" ∧
      ¬PublishedWell "r" "p" (.create cameraAndMic ∅) [⟨true, 0⟩, ⟨false, 10⟩] := by
  refine ⟨rfl, ?_⟩
  rintro ⟨⟨-, ⟨_, hreg⟩, -⟩, -⟩
  cases hreg

end MediasoupCpp
