import Mathlib.Data.Finset.Basic
import Mathlib.Data.Finset.Filter
import MediasoupCpp.Qos.BudgetDiff

/-!
# The controller of a subscriber

Each subscriber has a controller that carries out the actions on its consumers and keeps the
states they were last given.  An action is a request to the worker, which may fail; then the
consumer is as before, although its last state says otherwise.

## Main results

* `tracks_applyConsumerAction`, `tracks_applyActions` — **requests that succeed take the
  consumers to the states the actions lead to**.

Source: `src/Consumer.cpp`, `src/qos/SubscriberQosController.h`,
`src/qos/SubscriberQosController.cpp`, `src/RoomMediaHelpers.h`.
-/

namespace MediasoupCpp

open Dict Option

/-! ### Consumers -/

structure Consumer where
  kind : String
  closed : Bool := false
  paused : Bool := false
  preferredSpatialLayer : UInt8 := 0
  preferredTemporalLayer : UInt8 := 0
  priority : UInt8 := 1
  deriving DecidableEq

/-- What comes of an action: whether the worker answers its requests, and the consumers, by
their peers, that are closed meanwhile. -/
structure ActionOutcome where
  answered : Bool := true
  keyFrameAnswered : Bool := true
  closed : List (String × String) := []

namespace Consumer

/-- A request to the worker about a consumer, which is changed when the answer is there.  A
closed consumer makes no requests.  The flag says that nothing was thrown. -/
def request (update : Consumer → Consumer) (answered : Bool) (consumer : Consumer) :
    Consumer × Bool :=
  if consumer.closed then (consumer, true)
  else if answered then (update consumer, true)
  else (consumer, false)

def pause : Bool → Consumer → Consumer × Bool :=
  request fun consumer => { consumer with paused := true }

def resume : Bool → Consumer → Consumer × Bool :=
  request fun consumer => { consumer with paused := false }

def setPreferredLayers (spatialLayer temporalLayer : UInt8) : Bool → Consumer → Consumer × Bool :=
  request fun consumer =>
    { consumer with
      preferredSpatialLayer := spatialLayer, preferredTemporalLayer := temporalLayer }

def setPriority (priority : UInt8) : Bool → Consumer → Consumer × Bool :=
  request fun consumer => { consumer with priority := priority }

def requestKeyFrame : Bool → Consumer → Consumer × Bool := request id

def perform (outcome : ActionOutcome) (action : DownlinkAction) (consumer : Consumer) :
    Consumer × Bool :=
  match action.type with
  | .pause => consumer.pause outcome.answered
  | .resume => consumer.resume outcome.answered
  | .setLayers =>
    if consumer.kind = "video" then
      let (consumer, succeeded) :=
        consumer.setPreferredLayers action.spatialLayer action.temporalLayer outcome.answered
      if succeeded && action.requestKeyFrame then
        consumer.requestKeyFrame outcome.keyFrameAnswered
      else (consumer, succeeded)
    else (consumer, true)
  | .setPriority => consumer.setPriority action.priority outcome.answered
  | .none => (consumer, true)

def lastState (consumer : Consumer) : ConsumerLastState where
  paused := consumer.paused
  spatialLayer := consumer.preferredSpatialLayer
  temporalLayer := consumer.preferredTemporalLayer
  priority := consumer.priority

end Consumer

abbrev PeerConsumers : Type := Dict String (Dict String Consumer)

namespace PeerConsumers

variable (peers : PeerConsumers)

def consumer (peerId consumerId : String) : Option Consumer :=
  (peers.lookup peerId).bind fun consumers => consumers.lookup consumerId

def update (peerId consumerId : String) (consumer : Consumer) : PeerConsumers :=
  peers.mapValues fun peerId' consumers =>
    consumers.mapValues fun consumerId' consumer' =>
      if peerId' = peerId ∧ consumerId' = consumerId then consumer else consumer'

def close (closed : List (String × String)) : PeerConsumers :=
  peers.mapValues fun peerId consumers =>
    consumers.filter fun consumerId _ => (peerId, consumerId) ∉ closed

variable {peers} {peerId consumerId : String}

theorem consumer_update (peerId consumerId peerId' consumerId' : String) (consumer : Consumer) :
    (peers.update peerId consumerId consumer).consumer peerId' consumerId' =
      (peers.consumer peerId' consumerId').map fun consumer' =>
        if peerId' = peerId ∧ consumerId' = consumerId then consumer else consumer' := by
  unfold PeerConsumers.consumer update
  rw [lookup_mapValues]
  cases peers.lookup peerId' with
  | none => rfl
  | some consumers => exact lookup_mapValues _ _ _

theorem consumer_of_close {closed : List (String × String)} {consumer : Consumer}
    (h : (peers.close closed).consumer peerId consumerId = some consumer) :
    peers.consumer peerId consumerId = some consumer := by
  unfold PeerConsumers.consumer close at h
  rw [lookup_mapValues] at h
  unfold PeerConsumers.consumer
  cases hcons : peers.lookup peerId with
  | none =>
    rw [hcons] at h
    cases h
  | some consumers =>
    rw [hcons] at h
    have h : (consumers.filter fun consumerId _ => (peerId, consumerId) ∉ closed).lookup
        consumerId = some consumer := h
    rw [lookup_filter] at h
    exact eq_some_of_filter_eq_some h

end PeerConsumers

open PeerConsumers

/-! ### The controller -/

structure SubscriberQosController where
  pausedConsumers : Finset String := ∅
  lastState : LastStates := ∅
  healthMonitor : DownlinkHealthMonitor := .initial

namespace SubscriberQosController

variable (controller : SubscriberQosController)

def pruneStaleConsumers (consumers : Dict String Consumer) : SubscriberQosController :=
  { controller with
    pausedConsumers := controller.pausedConsumers.filter fun consumerId =>
      (consumers.lookup consumerId).isSome
    lastState := controller.lastState.filter fun consumerId _ =>
      (consumers.lookup consumerId).isSome }

def syncConsumer (controller : SubscriberQosController) (entry : String × Consumer) :
    SubscriberQosController :=
  { controller with
    lastState := controller.lastState.insert entry.1 entry.2.lastState
    pausedConsumers :=
      if entry.2.paused then insert entry.1 controller.pausedConsumers
      else controller.pausedConsumers.erase entry.1 }

/-- Take the states of the consumers.  (The source skips empty pointers, which are not put into
the map.) -/
def syncConsumerState (consumers : Dict String Consumer) : SubscriberQosController :=
  consumers.toPairs.foldl syncConsumer controller

def note (action : DownlinkAction) : SubscriberQosController :=
  match action.type with
  | .pause =>
    { controller with
      pausedConsumers := insert action.consumerId controller.pausedConsumers }
  | .resume =>
    { controller with
      pausedConsumers := controller.pausedConsumers.erase action.consumerId }
  | .setLayers | .setPriority | .none => controller

end SubscriberQosController

/-- Carrying out actions: the controller, the consumers, and whether all requests so far have
succeeded. -/
structure ApplyState where
  controller : SubscriberQosController
  peers : PeerConsumers
  succeeded : Bool := true

/-- Carry out an action on a consumer of a peer.  A consumer that is closed while its own
request is waited for is gone in the end. -/
def applyConsumerAction (peerId : String) (s : ApplyState) (step : DownlinkAction × ActionOutcome) :
    ApplyState :=
  let (action, outcome) := step
  match s.peers.consumer peerId action.consumerId with
  | none =>
    { s with
      controller := { s.controller with
        pausedConsumers := s.controller.pausedConsumers.erase action.consumerId } }
  | some consumer =>
    let (consumer, succeeded) := consumer.perform outcome action
    { controller := if succeeded then s.controller.note action else s.controller
      peers := (s.peers.update peerId action.consumerId consumer).close outcome.closed
      succeeded := s.succeeded && succeeded }

def applyActions (peerId : String) (s : ApplyState)
    (steps : List (DownlinkAction × ActionOutcome)) : ApplyState :=
  steps.foldl (applyConsumerAction peerId) s

/-! ### Consumers in the states kept of them -/

namespace Consumer

variable {consumer : Consumer} {state : ConsumerLastState} {outcome : ActionOutcome}
  {action : DownlinkAction}

/-- The consumer is in the state that is kept of it.  Only of videos the layers count. -/
structure Shows (consumer : Consumer) (state : ConsumerLastState) : Prop where
  paused : consumer.paused = state.paused
  priority : consumer.priority = state.priority
  layers : consumer.kind = "video" → consumer.preferredSpatialLayer = state.spatialLayer ∧
    consumer.preferredTemporalLayer = state.temporalLayer

theorem shows_lastState (consumer : Consumer) : consumer.Shows consumer.lastState :=
  ⟨rfl, rfl, fun _ => ⟨rfl, rfl⟩⟩

theorem closed_request {update : Consumer → Consumer} (hcl : ∀ c, (update c).closed = c.closed)
    (answered : Bool) : (consumer.request update answered).1.closed = consumer.closed := by
  unfold request
  split
  · rfl
  split
  · exact hcl consumer
  · rfl

theorem request_eq {update : Consumer → Consumer} {answered : Bool}
    (hopen : consumer.closed = false) (hsucc : (consumer.request update answered).2) :
    consumer.request update answered = (update consumer, true) := by
  unfold request at hsucc ⊢
  rw [hopen] at hsucc ⊢
  cases answered with
  | true => rfl
  | false => cases hsucc

theorem closed_perform (outcome : ActionOutcome) (action : DownlinkAction) (consumer : Consumer) :
    (consumer.perform outcome action).1.closed = consumer.closed := by
  unfold perform
  split
  · unfold pause
    exact closed_request (by intro _; rfl) _
  · unfold resume
    exact closed_request (by intro _; rfl) _
  · split
    · have hlays : (consumer.setPreferredLayers action.spatialLayer action.temporalLayer
          outcome.answered).1.closed = consumer.closed := by
        unfold setPreferredLayers
        exact closed_request (by intro _; rfl) _
      dsimp only
      split
      · unfold requestKeyFrame
        exact (closed_request (by intro _; rfl) _).trans hlays
      · exact hlays
    · rfl
  · exact closed_request (by intro _; rfl) _
  · rfl

theorem requestKeyFrame_fst (answered : Bool) (consumer : Consumer) :
    (consumer.requestKeyFrame answered).1 = consumer := by
  unfold requestKeyFrame request
  split
  · rfl
  · split <;> rfl

theorem perform_setLayers (htype : action.type = .setLayers) (hkind : consumer.kind = "video")
    (hopen : consumer.closed = false)
    (hsucc : (consumer.perform outcome action).2) : (consumer.perform outcome action).1 =
      { consumer with
        preferredSpatialLayer := action.spatialLayer
        preferredTemporalLayer := action.temporalLayer } := by
  unfold perform at hsucc ⊢
  rw [htype] at hsucc ⊢
  dsimp only at hsucc ⊢
  rw [if_pos hkind] at hsucc ⊢
  have hset : (consumer.setPreferredLayers action.spatialLayer action.temporalLayer
      outcome.answered).2 := by
    by_contra hfail
    simp [hfail] at hsucc
  rw [setPreferredLayers, request_eq hopen hset]
  split
  · exact requestKeyFrame_fst _ _
  · rfl

theorem Shows.perform (h : consumer.Shows state) (hopen : consumer.closed = false)
    (hsucc : (consumer.perform outcome action).2) :
    (consumer.perform outcome action).1.Shows (action.applyTo state) := by
  by_cases hlays : action.type = .setLayers ∧ consumer.kind = "video"
  · rw [perform_setLayers hlays.1 hlays.2 hopen hsucc, DownlinkAction.applyTo, hlays.1]
    exact ⟨h.paused, h.priority, fun _ => ⟨rfl, rfl⟩⟩
  unfold Consumer.perform at hsucc ⊢
  unfold DownlinkAction.applyTo
  cases htype : action.type with
  | pause =>
    rw [htype] at hsucc
    dsimp only
    rw [pause, request_eq hopen hsucc]
    exact ⟨rfl, h.priority, h.layers⟩
  | resume =>
    rw [htype] at hsucc
    dsimp only
    rw [resume, request_eq hopen hsucc]
    exact ⟨rfl, h.priority, h.layers⟩
  | setLayers =>
    have hkind : ¬consumer.kind = "video" := fun hkind => hlays ⟨htype, hkind⟩
    dsimp only
    rw [if_neg hkind]
    exact ⟨h.paused, h.priority, fun hvid => absurd hvid hkind⟩
  | setPriority =>
    rw [htype] at hsucc
    rw [setPriority, request_eq hopen hsucc]
    exact ⟨h.paused, rfl, h.layers⟩
  | none => exact h

end Consumer

section Tracks

variable {peers : PeerConsumers} {peerId : String} {lastState lastState' : LastStates}
  {s : ApplyState} {step : DownlinkAction × ActionOutcome}

def Tracks (peers : PeerConsumers) (peerId : String) (lastState : LastStates) : Prop :=
  ∀ consumerId consumer, peers.consumer peerId consumerId = some consumer →
    consumer.closed = false →
      ∃ state, lastState.lookup consumerId = some state ∧ consumer.Shows state

def OnlyCloses (peers peers' : PeerConsumers) (peerId : String) : Prop :=
  ∀ consumerId consumer, peers'.consumer peerId consumerId = some consumer →
    peers.consumer peerId consumerId = some consumer

theorem OnlyCloses.trans {peers' peers'' : PeerConsumers} (h : OnlyCloses peers peers' peerId)
    (h' : OnlyCloses peers' peers'' peerId) : OnlyCloses peers peers'' peerId :=
  fun consumerId consumer hcons => h _ _ (h' consumerId consumer hcons)

theorem Tracks.of_onlyCloses {peers' : PeerConsumers} (h : Tracks peers peerId lastState)
    (hcl : OnlyCloses peers peers' peerId) : Tracks peers' peerId lastState :=
  fun consumerId consumer hcons => h consumerId consumer (hcl _ _ hcons)

theorem Tracks.congr (h : Tracks peers peerId lastState) (hsame : SameStates lastState lastState') :
    Tracks peers peerId lastState' := fun consumerId consumer hcons hopen => by
  rw [← hsame consumerId]
  exact h consumerId consumer hcons hopen

theorem lookup_foldl_syncConsumer (entries : List (String × Consumer))
    (hnd : (entries.map Prod.fst).Nodup) (controller : SubscriberQosController)
    {consumerId : String} {consumer : Consumer} (hmem : (consumerId, consumer) ∈ entries) :
    (entries.foldl SubscriberQosController.syncConsumer controller).lastState.lookup consumerId =
      some consumer.lastState := by
  induction entries using List.reverseRecOn with
  | nil => cases hmem
  | append_singleton entries entry ih =>
    rw [List.map_append, List.map_singleton, List.nodup_append] at hnd
    rw [List.foldl_append, List.foldl_cons, List.foldl_nil]
    refine (lookup_insert_eq _ _ _ _).trans ?_
    rcases List.mem_append.mp hmem with hmem | hmem
    · have hne : consumerId ≠ entry.1 :=
        hnd.2.2 _ (List.mem_map_of_mem hmem) _ (List.mem_singleton_self _)
      rw [if_neg hne]
      exact ih hnd.1 hmem
    · obtain rfl := List.mem_singleton.mp hmem
      exact if_pos rfl

theorem tracks_syncConsumerState {consumers : Dict String Consumer}
    (hconsumers : peers.lookup peerId = some consumers) (controller : SubscriberQosController) :
    Tracks peers peerId (controller.syncConsumerState consumers).lastState := by
  intro consumerId consumer hcons _
  rw [PeerConsumers.consumer, hconsumers, bind_some] at hcons
  have hnd : (consumers.toPairs.map Prod.fst).Nodup := by
    rw [map_fst_toPairs]
    exact consumers.nodupKeys
  exact ⟨consumer.lastState, lookup_foldl_syncConsumer _ hnd controller
    (mem_toPairs.mpr hcons), consumer.shows_lastState⟩

theorem onlyCloses_applyConsumerAction {peerId' : String} (hne : peerId' ≠ peerId) :
    OnlyCloses s.peers (applyConsumerAction peerId s step).peers peerId' := by
  intro consumerId consumer hcons
  unfold applyConsumerAction at hcons
  dsimp only at hcons
  split at hcons
  · exact hcons
  have hupd := consumer_of_close hcons
  rw [consumer_update] at hupd
  simpa [hne] using hupd

theorem succeeded_of_applyConsumerAction
    (h : (applyConsumerAction peerId s step).succeeded) : s.succeeded := by
  unfold applyConsumerAction at h
  dsimp only at h
  split at h
  · exact h
  · exact (Bool.and_eq_true_iff.mp h).1

theorem tracks_applyConsumerAction (h : Tracks s.peers peerId lastState)
    (hsucc : (applyConsumerAction peerId s step).succeeded) :
    Tracks (applyConsumerAction peerId s step).peers peerId
      (applyActionToLastState lastState step.1) := by
  intro consumerId consumer hcons hopen
  unfold applyConsumerAction at hsucc hcons
  dsimp only at hsucc hcons
  rw [lookup_applyActionToLastState]
  split at hcons
  · -- the consumer of the action is gone, so it is another one
    rename_i hnone
    have hne : consumerId ≠ step.1.consumerId := by
      rintro rfl
      rw [hnone] at hcons
      cases hcons
    rw [if_neg hne]
    exact h consumerId consumer hcons hopen
  next before hbef =>
    rw [hbef] at hsucc
    have hperf := (Bool.and_eq_true_iff.mp hsucc).2
    have hupd := consumer_of_close hcons
    rw [consumer_update] at hupd
    by_cases hid : consumerId = step.1.consumerId
    · subst hid
      rw [hbef, map_some, if_pos ⟨rfl, rfl⟩] at hupd
      cases hupd
      rw [Consumer.closed_perform] at hopen
      obtain ⟨_, hst, hshow⟩ := h _ before hbef hopen
      rw [if_pos rfl, hst, getD_some]
      exact ⟨_, rfl, hshow.perform hopen hperf⟩
    · rw [if_neg hid]
      have hsame : s.peers.consumer peerId consumerId = some consumer := by
        simpa [hid] using hupd
      exact h consumerId consumer hsame hopen

theorem succeeded_of_applyActions {steps : List (DownlinkAction × ActionOutcome)}
    (h : (applyActions peerId s steps).succeeded) : s.succeeded := by
  induction steps generalizing s with
  | nil => exact h
  | cons step steps ih => exact succeeded_of_applyConsumerAction (ih h)

theorem onlyCloses_applyActions {peerId' : String} (hne : peerId' ≠ peerId)
    (steps : List (DownlinkAction × ActionOutcome)) :
    OnlyCloses s.peers (applyActions peerId s steps).peers peerId' := by
  induction steps generalizing s with
  | nil => exact fun _ _ h => h
  | cons step steps ih => exact (onlyCloses_applyConsumerAction hne).trans ih

theorem applyConsumerAction_keeps (peerId : String) (s : ApplyState)
    (step : DownlinkAction × ActionOutcome) :
    (applyConsumerAction peerId s step).controller.healthMonitor = s.controller.healthMonitor ∧
      (applyConsumerAction peerId s step).peers.keys = s.peers.keys := by
  have hnote : (s.controller.note step.1).healthMonitor = s.controller.healthMonitor := by
    unfold SubscriberQosController.note
    split <;> rfl
  unfold applyConsumerAction
  dsimp only
  split
  · exact ⟨rfl, rfl⟩
  refine ⟨?_, ?_⟩
  · split
    · exact hnote
    · rfl
  · unfold close update
    rw [keys_mapValues, keys_mapValues]

theorem applyActions_keeps (peerId : String) (s : ApplyState)
    (steps : List (DownlinkAction × ActionOutcome)) :
    (applyActions peerId s steps).controller.healthMonitor = s.controller.healthMonitor ∧
      (applyActions peerId s steps).peers.keys = s.peers.keys := by
  induction steps generalizing s with
  | nil => exact ⟨rfl, rfl⟩
  | cons step steps ih =>
    obtain ⟨hmon, hkeys⟩ := applyConsumerAction_keeps peerId s step
    obtain ⟨hmon', hkeys'⟩ := ih (applyConsumerAction peerId s step)
    exact ⟨hmon'.trans hmon, hkeys'.trans hkeys⟩

theorem tracks_applyActions {steps : List (DownlinkAction × ActionOutcome)}
    (h : Tracks s.peers peerId lastState)
    (hsucc : (applyActions peerId s steps).succeeded) :
    Tracks (applyActions peerId s steps).peers peerId
      ((steps.map Prod.fst).foldl applyActionToLastState lastState) := by
  induction steps generalizing s lastState with
  | nil => exact h
  | cons step steps ih =>
    exact ih (tracks_applyConsumerAction h (succeeded_of_applyActions hsucc)) hsucc

end Tracks

end MediasoupCpp
