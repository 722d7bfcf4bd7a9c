import Mathlib.Data.List.Flatten
import MediasoupCpp.Lib.Dict
import MediasoupCpp.Lib.Run

/-!
# Event emitters

An emit takes the listeners of its event and calls one after the other.  What a listener does in
between, and what other threads do, are further steps; what it throws is caught.

Main result: `eventEmitter_spec`.

Source: `src/EventEmitter.h`.
-/

namespace MediasoupCpp

open List Runs

structure ListenerEntry where
  id : ℕ
  once : Bool

structure EventEmitter where
  listeners : Dict String (List ListenerEntry) := ∅
  listenerEventIndex : Dict ℕ String := ∅
  nextId : ℕ := 1

namespace EventEmitter

variable (e : EventEmitter)

def entries (event : String) : List ListenerEntry := (e.listeners.lookup event).getD []

def eventOf (id : ℕ) : Option String := e.listenerEventIndex.lookup id

def add (event : String) (once : Bool) : EventEmitter where
  listeners := e.listeners.insert event (e.entries event ++ [⟨e.nextId, once⟩])
  listenerEventIndex := e.listenerEventIndex.insert e.nextId event
  nextId := e.nextId + 1

def remove (event : String) (p : ListenerEntry → Bool) : EventEmitter :=
  match e.listeners.lookup event with
  | none => e
  | some entries =>
    let kept := entries.filter (!p ·)
    { e with
      listeners := if kept = [] then e.listeners.erase event else e.listeners.insert event kept
      listenerEventIndex := (entries.filter p).foldl (fun index entry => index.erase entry.id)
        e.listenerEventIndex }

def off (id : ℕ) : EventEmitter :=
  match e.eventOf id with
  | none => e
  | some event =>
    { e.remove event (·.id = id) with listenerEventIndex := e.listenerEventIndex.erase id }

end EventEmitter

open EventEmitter

/-- An emit, and how many of its listeners it has called. -/
structure Emit where
  toCall : List ListenerEntry
  called : ℕ := 0

def Emit.calls (emit : Emit) : List ListenerEntry := emit.toCall.take emit.called

def Emit.call (emit : Emit) : Emit :=
  if emit.called < emit.toCall.length then { emit with called := emit.called + 1 } else emit

inductive EmitterEvent
  | on (event : String)
  | once (event : String)
  | off (id : ℕ)
  | offEvent (event : String)
  | emit (event : String)
  | call (emit : ℕ)
  deriving DecidableEq

structure EmitterRun where
  emitter : EventEmitter := {}
  emits : List Emit := []

namespace EmitterRun

def step (r : EmitterRun) : EmitterEvent → EmitterRun
  | .on event => { r with emitter := r.emitter.add event false }
  | .once event => { r with emitter := r.emitter.add event true }
  | .off id => { r with emitter := r.emitter.off id }
  | .offEvent event => { r with emitter := r.emitter.remove event fun _ => true }
  | .emit event =>
    { emitter := r.emitter.remove event (·.once)
      emits := r.emits ++ [{ toCall := r.emitter.entries event }] }
  | .call emit => { r with emits := r.emits.modify emit Emit.call }

def calls (r : EmitterRun) : List ListenerEntry := r.emits.flatMap Emit.calls

def onceIds (r : EmitterRun) : List ℕ :=
  (r.emits.map Emit.toCall).flatMap fun toCall => (toCall.filter (·.once)).map (·.id)

end EmitterRun

open EmitterRun

namespace EventEmitter

/-- The index and the lists have the same ids. -/
structure Inv (e : EventEmitter) : Prop where
  index : ∀ id event, e.eventOf id = some event ↔ id ∈ (e.entries event).map (·.id)
  nodup : ∀ event, ((e.entries event).map (·.id)).Nodup
  fresh : ∀ id, e.nextId ≤ id → e.eventOf id = none

/-- `e'` is `e` without the listeners of `event` that `p` holds of. -/
structure Removes (e : EventEmitter) (event : String) (p : ListenerEntry → Bool)
    (e' : EventEmitter) : Prop where
  entries : ∀ event', e'.entries event' =
    if event' = event then (e.entries event').filter (!p ·) else e.entries event'
  index : ∀ id, e'.eventOf id =
    if id ∈ ((e.entries event).filter p).map (·.id) then none else e.eventOf id
  next : e'.nextId = e.nextId

variable {e e' : EventEmitter} {event : String} {p : ListenerEntry → Bool}

theorem removes_remove (e : EventEmitter) (event : String) (p : ListenerEntry → Bool) :
    e.Removes event p (e.remove event p) := by
  have hfold : ∀ (entries : List ListenerEntry) (index : Dict ℕ String) (id : ℕ),
      (entries.foldl (fun index entry => index.erase entry.id) index).lookup id =
        if id ∈ entries.map (·.id) then none else index.lookup id := by
    intro entries
    induction entries with
    | nil => simp
    | cons entry entries ih =>
      intro index id
      rw [foldl_cons, ih, Dict.lookup_erase_eq]
      grind
  unfold remove
  cases hlook : e.listeners.lookup event with
  | none => exact ⟨by grind [entries], by simp [entries, hlook], rfl⟩
  | some found =>
    refine ⟨fun event' => ?_, fun id => ?_, rfl⟩
    · dsimp only [entries]
      split <;> grind [Dict.lookup_erase_eq, Dict.lookup_insert_eq]
    · rw [entries, hlook]
      exact hfold _ _ _

section

variable (h : e.Inv)
include h

theorem Inv.removes (hr : e.Removes event p e') : e'.Inv := by
  refine ⟨fun id event' => ?_, fun event' => ?_, fun id hid => ?_⟩
  · rw [hr.index, hr.entries]
    have hown := h.index id event
    have hother := h.index id event'
    have hinj := inj_on_of_nodup_map (h.nodup event)
    grind
  · rw [hr.entries]
    split
    · exact (h.nodup event').sublist (filter_sublist.map _)
    · exact h.nodup event'
  · rw [hr.index, h.fresh id (hr.next ▸ hid)]
    split <;> rfl

theorem Inv.removes_off {id : ℕ} (hid : e.eventOf id = some event) :
    e.Removes event (·.id = id) (e.off id) := by
  have hr := e.removes_remove event (·.id = id)
  have hmem := (h.index id event).mp hid
  rw [off, hid]
  refine ⟨hr.entries, fun id' => ?_, hr.next⟩
  rw [eventOf, Dict.lookup_erase_eq]
  refine if_congr ?_ rfl rfl
  grind

theorem Inv.add (event : String) (once : Bool) : (e.add event once).Inv := by
  have hentries : ∀ event', (e.add event once).entries event' =
      if event' = event then e.entries event ++ [⟨e.nextId, once⟩] else e.entries event' := by
    intro event'
    rw [entries, EventEmitter.add, Dict.lookup_insert_eq]
    grind [entries]
  have hindex : ∀ id, (e.add event once).eventOf id =
      if id = e.nextId then some event else e.eventOf id := fun id => Dict.lookup_insert_eq ..
  have hnew : ∀ event', e.nextId ∉ (e.entries event').map (·.id) := by
    intro event' hmem
    rw [← h.index, h.fresh _ le_rfl] at hmem
    cases hmem
  refine ⟨fun id event' => ?_, fun event' => ?_, fun id hid => ?_⟩
  · rw [hentries, hindex]
    grind [h.index id event', hnew event']
  · rw [hentries]
    grind [h.nodup event', hnew event']
  · rw [hindex, if_neg (Nat.ne_of_gt hid)]
    exact h.fresh id (Nat.le_of_succ_le hid)

end

end EventEmitter

namespace EmitterRun

/-- A listener for one call is registered or has been taken by one emit. -/
structure Inv (r : EmitterRun) : Prop where
  emitter : r.emitter.Inv
  nodup : r.onceIds.Nodup
  taken : ∀ id ∈ r.onceIds, id < r.emitter.nextId ∧ r.emitter.eventOf id = none

variable {r : EmitterRun}

section

variable (h : r.Inv)
include h

theorem Inv.add (event : String) (once : Bool) :
    { r with emitter := r.emitter.add event once }.Inv := by
  refine ⟨h.emitter.add event once, h.nodup, fun id hid => ?_⟩
  obtain ⟨hlt, hnone⟩ := h.taken id hid
  refine ⟨Nat.lt_succ_of_lt hlt, (Dict.lookup_insert_eq ..).trans ?_⟩
  rwa [if_neg (Nat.ne_of_lt hlt)]

theorem Inv.removes {event : String} {p : ListenerEntry → Bool} {e : EventEmitter}
    (hr : r.emitter.Removes event p e) : { r with emitter := e }.Inv := by
  refine ⟨h.emitter.removes hr, h.nodup, fun id hid => ?_⟩
  rw [hr.next, hr.index, (h.taken id hid).2]
  exact ⟨(h.taken id hid).1, by split <;> rfl⟩

theorem Inv.emit (event : String) : (r.step (.emit event)).Inv := by
  have hr := r.emitter.removes_remove event (·.once)
  have honce : (r.step (.emit event)).onceIds =
      r.onceIds ++ ((r.emitter.entries event).filter (·.once)).map (·.id) := by
    simp [onceIds, step]
  have hnew : ∀ id ∈ ((r.emitter.entries event).filter (·.once)).map (·.id),
      r.emitter.eventOf id = some event := fun id hid =>
    (h.emitter.index id event).mpr ((filter_sublist.map _).subset hid)
  refine ⟨h.emitter.removes hr, ?_, fun id hid => ?_⟩
  · rw [honce, nodup_append]
    refine ⟨h.nodup, (h.emitter.nodup event).sublist (filter_sublist.map _), ?_⟩
    rintro id hid _ hid' rfl
    cases (h.taken id hid).2.symm.trans (hnew id hid')
  rcases mem_append.mp (honce ▸ hid) with hid | hid
  · exact (h.removes hr).taken id hid
  · refine ⟨Nat.lt_of_not_le fun hle => ?_, (hr.index id).trans (if_pos hid)⟩
    cases (h.emitter.fresh id (hr.next ▸ hle)).symm.trans (hnew id hid)

theorem Inv.step (e : EmitterEvent) : (r.step e).Inv := by
  cases e with
  | on event => exact h.add event false
  | once event => exact h.add event true
  | off id =>
    cases hid : r.emitter.eventOf id with
    | none => simpa [EmitterRun.step, off, hid] using h
    | some event => exact h.removes (h.emitter.removes_off hid)
  | offEvent event => exact h.removes (r.emitter.removes_remove event _)
  | emit event => exact h.emit event
  | call emit =>
    have hsame : (r.step (.call emit)).onceIds = r.onceIds := by
      unfold onceIds EmitterRun.step
      congr 1
      refine ext_getElem? fun n => ?_
      simp only [getElem?_map, getElem?_modify, Emit.call]
      grind
    exact ⟨h.emitter, hsame ▸ h.nodup, hsame ▸ h.taken⟩

end

theorem emits_step (r : EmitterRun) (e : EmitterEvent) {n : ℕ} (hn : n < r.emits.length) :
    (r.step e).emits[n]? = r.emits[n]?.map fun emit => if e = .call n then emit.call else emit := by
  cases e with
  | on | once | off | offEvent => simp [step]
  | emit event => simp [step, getElem?_append_left hn]
  | call emit =>
    simp only [step, getElem?_modify, EmitterEvent.call.injEq]
    rfl

theorem emits_run (es : List EmitterEvent) {n : ℕ} {toCall : List ListenerEntry}
    (hstart : r.emits[n]? = some ⟨toCall, 0⟩) : (runFrom step r es).emits[n]? =
      some ⟨toCall, min (es.count (.call n)) toCall.length⟩ := by
  induction es using reverseRecOn with
  | nil => simpa using hstart
  | append_singleton es e ih =>
    rw [runFrom_concat, emits_step _ _ (List.getElem?_eq_some_iff.mp ih).1, ih, count_append,
      count_singleton]
    grind [Emit.call]

end EmitterRun

/-- **What an emitter does**: its index and its lists have the same ids, a listener for one call
gets no other, and an emit calls, in turn, those that are registered when it starts. -/
theorem eventEmitter_spec (es : List EmitterEvent) :
    let r := runFrom EmitterRun.step {} es
    (∀ id event, r.emitter.listenerEventIndex.lookup id = some event ↔
        id ∈ (r.emitter.entries event).map (·.id)) ∧
      (∀ event, ((r.emitter.entries event).map (·.id)).Nodup) ∧
      ((r.calls.filter (·.once)).map (·.id)).Nodup ∧
      ∀ event es', (runFrom step r (.emit event :: es')).emits[r.emits.length]?.map
        Emit.calls = some ((r.emitter.entries event).take (es'.count (.call r.emits.length))) := by
  intro r
  have h : r.Inv := runFrom_inv EmitterRun.Inv (fun _ e h => h.step e) es {}
    ⟨⟨by simp [entries, eventOf], by simp [entries], fun _ _ => rfl⟩, .nil, nofun⟩
  refine ⟨h.emitter.index, h.emitter.nodup, h.nodup.sublist ?_, fun event es' => ?_⟩
  · rw [calls, filter_flatMap, map_flatMap, onceIds, flatMap_map]
    exact .flatMap_right _ fun emit _ => ((take_sublist ..).filter _).map _
  · have hstart : (r.step (.emit event)).emits[r.emits.length]? =
        some ⟨r.emitter.entries event, 0⟩ := by
      simp [step]
    rw [runFrom_cons, emits_run es' hstart]
    simp [Emit.calls, ← take_eq_take_min]

end MediasoupCpp
