import MediasoupCpp.Lib.Run
import MediasoupCpp.Qos.Planning
import MediasoupCpp.Qos.Publication
import Mathlib.Data.Multiset.Basic

/-!
# Snapshots out of order

Both QoS registries keep one snapshot of a peer and take a new one by comparing its number with
the one kept.  Requests of a peer may overtake each other and be sent twice, so what the registry
holds in the end should not depend on the order.

Main result: `upserts_keep_latest`.

Source: `src/qos/QosRegistry.cpp`, `src/qos/DownlinkQosRegistry.cpp`.
-/

namespace MediasoupCpp

open List Runs Option

/-! ### The two registries -/

section Registry

variable {ε : Type} (rejects : ε → ε → Option String)

abbrev RoomEntries (ε : Type) : Type := Dict String (Dict String ε)

variable (rooms : RoomEntries ε)

def getEntry (roomId peerId : String) : Option ε :=
  (rooms.lookup roomId).bind (AList.lookup peerId)

def touchRoom (roomId : String) : RoomEntries ε :=
  if roomId ∈ rooms then rooms else rooms.insert roomId ∅

def upsertEntry (roomId peerId : String) (entry : ε) :
    RoomEntries ε × Option String :=
  let rooms := touchRoom rooms roomId
  let peers := (rooms.lookup roomId).getD ∅
  match (peers.lookup peerId).bind fun prev => rejects prev entry with
  | some reason => (rooms, some reason)
  | none => (rooms.insert roomId (peers.insert peerId entry), none)

end Registry

def QosRegistry.rejectReason (prev next : QosEntry) : Option String :=
  if QosRegistry.staleSeq prev.snapshot.seq next.snapshot.seq then some "stale-seq" else none

open QosRegistry

def QosRegistry.upsertInPlace (reg : QosRegistry) (roomId peerId : String) (entry : QosEntry) :
    QosRegistry × Option String :=
  upsertEntry QosRegistry.rejectReason reg roomId peerId entry

def DownlinkQosRegistry.upsertInPlace (rooms : Dict String DownlinkQosRegistry)
    (roomId peerId : String) (entry : DownlinkEntry) :
    Dict String DownlinkQosRegistry × Option String :=
  upsertEntry (fun prev next => rejectReason prev.snapshot next.snapshot) rooms roomId peerId entry

section Registry

variable {ε : Type} {rejects : ε → ε → Option String} {rooms : RoomEntries ε}
  {roomId peerId : String} {entry : ε}

theorem lookup_touchRoom (r : String) : (touchRoom rooms roomId).lookup r =
      if r = roomId then some ((rooms.lookup roomId).getD ∅) else rooms.lookup r := by
  unfold touchRoom
  by_cases hroom : roomId ∈ rooms
  · obtain ⟨_, hprs⟩ := isSome_iff_exists.mp (AList.lookup_isSome.mpr hroom)
    rw [if_pos hroom]
    split
    next hr =>
      rw [hr, hprs, getD_some]
    · rfl
  · rw [if_neg hroom, Dict.lookup_insert_eq, AList.lookup_eq_none.mpr hroom, getD_none]

theorem lookup_getD_touchRoom : (((touchRoom rooms roomId).lookup roomId).getD ∅).lookup peerId =
      getEntry rooms roomId peerId := by
  rw [lookup_touchRoom, if_pos rfl, getD_some, getEntry]
  cases rooms.lookup roomId with
  | none => rfl
  | some peers => rfl

theorem getEntry_touchRoom (r p : String) :
    getEntry (touchRoom rooms roomId) r p = getEntry rooms r p := by
  by_cases hr : r = roomId
  · subst hr
    rw [← @lookup_getD_touchRoom _ rooms, getEntry, lookup_touchRoom, if_pos rfl]
    rfl
  · rw [getEntry, lookup_touchRoom, if_neg hr, getEntry]

theorem upsertEntry_eq : upsertEntry rejects rooms roomId peerId entry =
      match (getEntry rooms roomId peerId).bind fun prev => rejects prev entry with
      | some reason => (touchRoom rooms roomId, some reason)
      | none => ((touchRoom rooms roomId).insert roomId
          ((((touchRoom rooms roomId).lookup roomId).getD ∅).insert peerId entry), none) := by
  rw [← lookup_getD_touchRoom]
  rfl

theorem upsertEntry_of_rejected {reason : String}
    (h : (upsertEntry rejects rooms roomId peerId entry).2 = some reason) :
    (upsertEntry rejects rooms roomId peerId entry).1 = rooms := by
  rw [upsertEntry_eq] at h ⊢
  cases hprev : getEntry rooms roomId peerId with
  | none => rw [hprev] at h; cases h
  | some prev =>
    have hroom : roomId ∈ rooms := by
      obtain ⟨peers, hprs, -⟩ := bind_eq_some_iff.mp hprev
      exact AList.lookup_isSome.mp (isSome_iff_exists.mpr ⟨peers, hprs⟩)
    rw [hprev] at h
    rw [bind_some] at h ⊢
    cases hrej : rejects prev entry with
    | none => rw [hrej] at h; cases h
    | some reason => exact if_pos hroom

variable (rejects) in
def offer (kept : Option ε) (entry : ε) : Option ε :=
  match kept.bind fun prev => rejects prev entry with
  | some _ => kept
  | none => some entry

theorem getEntry_upsertEntry (r p : String) :
    getEntry (upsertEntry rejects rooms roomId peerId entry).1 r p =
      if r = roomId ∧ p = peerId then offer rejects (getEntry rooms roomId peerId) entry
      else getEntry rooms r p := by
  rw [upsertEntry_eq, offer]
  cases hdecision : (getEntry rooms roomId peerId).bind fun prev => rejects prev entry with
  | some reason =>
    dsimp only
    rw [getEntry_touchRoom]
    split
    next h =>
      rw [h.1, h.2]
    · rfl
  | none =>
    rw [getEntry, Dict.lookup_insert_eq]
    by_cases hr : r = roomId
    · subst hr
      rw [if_pos rfl, bind_some, Dict.lookup_insert_eq, lookup_getD_touchRoom]
      simp only [true_and]
    · rw [if_neg hr, if_neg fun h => hr h.1, ← getEntry_touchRoom]
      rfl

end Registry

/-- The model of `Upsert` that gives the new registry only is this one without the registry a
rejection leaves. -/
theorem QosRegistry.upsert_eq_upsertInPlace (reg : QosRegistry) (roomId peerId : String)
    (snapshot : ClientQosSnapshot) (receivedAtMs : ℤ) :
    reg.upsert roomId peerId snapshot receivedAtMs =
      match reg.upsertInPlace roomId peerId ⟨snapshot, receivedAtMs⟩ with
      | (_, some reason) => .error reason
      | (reg', none) => .ok reg' := by
  have hins : ∀ peers : Dict String QosEntry,
      (touchRoom reg roomId).insert roomId peers = reg.insert roomId peers := by
    intro peers
    unfold touchRoom
    split
    · rfl
    · exact AList.insert_insert reg
  have hprs : ((touchRoom reg roomId).lookup roomId).getD ∅ = (reg.lookup roomId).getD ∅ := by
    rw [lookup_touchRoom, if_pos rfl, getD_some]
  unfold upsert upsertInPlace upsertEntry
  dsimp only
  rw [hprs, hins]
  cases (((reg.lookup roomId).getD ∅).lookup peerId) with
  | none => rfl
  | some prev =>
    dsimp only [bind_some, rejectReason]
    split <;> rfl

/-! ### The latest of the entries offered -/

section Order

variable {ε : Type} {rejects : ε → ε → Option String} {seq : ε → ℕ}

def RejectsOlder (rejects : ε → ε → Option String) (seq : ε → ℕ) (S : ε → Prop) : Prop :=
  ∀ prev next, S prev → S next → ((rejects prev next).isSome ↔ seq next ≤ seq prev)

def Latest (seq : ε → ℕ) (offered : List ε) : Option ε → Prop
  | none => offered = []
  | some entry => entry ∈ offered ∧ ∀ e ∈ offered, seq e ≤ seq entry

def NotOlder (seq : ε → ℕ) (before after : Option ε) : Prop :=
  ∀ entry ∈ before, ∃ entry' ∈ after, seq entry ≤ seq entry'

theorem NotOlder.refl (kept : Option ε) : NotOlder seq kept kept :=
  fun entry hent => ⟨entry, hent, le_refl _⟩

theorem NotOlder.trans {a b c : Option ε} (hab : NotOlder seq a b) (hbc : NotOlder seq b c) :
    NotOlder seq a c := by
  intro entry hent
  obtain ⟨entry', hent', hle⟩ := hab entry hent
  obtain ⟨entry'', hent'', hle'⟩ := hbc entry' hent'
  exact ⟨entry'', hent'', le_trans hle hle'⟩

variable {S : ε → Prop}

section

variable (hrej : RejectsOlder rejects seq S)
include hrej

theorem offer_of_rejectsOlder {prev next : ε}
    (hprev : S prev) (hnext : S next) :
    offer rejects (some prev) next = some (if seq next ≤ seq prev then prev else next) := by
  have hiff := hrej prev next hprev hnext
  unfold offer
  rw [bind_some]
  cases hwhy : rejects prev next with
  | some reason =>
    rw [hwhy] at hiff
    rw [if_pos (hiff.mp rfl)]
  | none =>
    rw [hwhy] at hiff
    rw [if_neg fun hle => Bool.false_ne_true (hiff.mpr hle)]

theorem Latest.offer {offered : List ε} {kept : Option ε}
    (h : Latest seq offered kept) (hoff : ∀ e ∈ offered, S e) {next : ε} (hnext : S next) :
    Latest seq (offered ++ [next]) (offer rejects kept next) := by
  cases kept with
  | none =>
    have hnil : offered = [] := h
    subst hnil
    simp [MediasoupCpp.offer, Latest]
  | some prev =>
    obtain ⟨hmem, hmax⟩ := h
    rw [offer_of_rejectsOlder hrej (hoff prev hmem) hnext]
    split_ifs with hle
    · refine ⟨mem_append_left _ hmem, fun e he => ?_⟩
      rcases mem_append.mp he with he | he
      · exact hmax e he
      · rw [mem_singleton.mp he]; exact hle
    · refine ⟨mem_append_right _ (mem_singleton.mpr rfl), fun e he => ?_⟩
      rcases mem_append.mp he with he | he
      · exact le_trans (hmax e he) (Nat.le_of_not_le hle)
      · rw [mem_singleton.mp he]

theorem notOlder_offer {kept : Option ε}
    (hkept : ∀ e ∈ kept, S e) {next : ε} (hnext : S next) :
    NotOlder seq kept (offer rejects kept next) := by
  rintro entry ⟨⟩
  rw [offer_of_rejectsOlder hrej (hkept entry rfl) hnext]
  refine ⟨_, rfl, ?_⟩
  split
  · exact le_refl _
  next hlt =>
    exact Nat.le_of_not_le hlt

end

end Order

/-! ### Deliveries of one peer -/

section Deliveries

variable {ε σ : Type} (upsert : RoomEntries ε → String → String → ε → RoomEntries ε × Option String)

def delivered (roomId peerId : String) (rooms : RoomEntries ε) (es : List ε) : RoomEntries ε :=
  runFrom (fun rooms entry => (upsert rooms roomId peerId entry).1) rooms es

/-- What a registry does with the deliveries `es` of the snapshots `m` of one peer: it ends
with one that has the largest number, the number kept never goes down, what is rejected leaves
no trace, and the other peers are not touched. -/
structure KeepsLatest (snapshot : ε → σ) (seq : σ → ℕ)
    (upsert : RoomEntries ε → String → String → ε → RoomEntries ε × Option String)
    (rooms : RoomEntries ε) (roomId peerId : String) (m : Multiset σ) (es : List ε) : Prop where
  latest : m ≠ 0 → ∃ entry,
    getEntry (delivered upsert roomId peerId rooms es) roomId peerId = some entry ∧
      snapshot entry ∈ m ∧ ∀ s ∈ m, seq s ≤ seq (snapshot entry)
  notOlder : ∀ i j, i ≤ j →
    NotOlder (seq ∘ snapshot)
      (getEntry (delivered upsert roomId peerId rooms (es.take i)) roomId peerId)
      (getEntry (delivered upsert roomId peerId rooms (es.take j)) roomId peerId)
  rejected : ∀ i entry reason, es[i]? = some entry →
    (upsert (delivered upsert roomId peerId rooms (es.take i)) roomId peerId entry).2 =
      some reason →
    delivered upsert roomId peerId rooms (es.take (i + 1)) =
      delivered upsert roomId peerId rooms (es.take i)
  others : ∀ i r p, (r, p) ≠ (roomId, peerId) →
    getEntry (delivered upsert roomId peerId rooms (es.take i)) r p = getEntry rooms r p

variable {rejects : ε → ε → Option String} {rooms : RoomEntries ε} {roomId peerId : String}

theorem delivered_concat
    (es : List ε) (entry : ε) : delivered upsert roomId peerId rooms (es ++ [entry]) =
      (upsert (delivered upsert roomId peerId rooms es) roomId peerId entry).1 :=
  runFrom_concat rooms es entry

theorem getEntry_delivered (es : List ε) (r p : String) :
    getEntry (delivered (upsertEntry rejects) roomId peerId rooms es) r p =
      if r = roomId ∧ p = peerId then es.foldl (offer rejects) (getEntry rooms roomId peerId)
      else getEntry rooms r p := by
  induction es using List.reverseRecOn with
  | nil =>
    split
    next h =>
      rw [h.1, h.2]
      rfl
    · rfl
  | append_singleton es entry ih =>
    rw [delivered_concat, getEntry_upsertEntry]
    split_ifs with h
    · obtain ⟨rfl, rfl⟩ := h
      rw [foldl_append, foldl_cons, foldl_nil, ih, if_pos ⟨rfl, rfl⟩]
    · rw [ih, if_neg h]

theorem latest_foldl_offer {seq : ε → ℕ} {S : ε → Prop} (hrej : RejectsOlder rejects seq S)
    (es : List ε) (hes : ∀ e ∈ es, S e) : Latest seq es (es.foldl (offer rejects) none) := by
  induction es using List.reverseRecOn with
  | nil => rfl
  | append_singleton es entry ih =>
    rw [foldl_append, foldl_cons, foldl_nil]
    have hbef : ∀ e ∈ es, S e := fun e he => hes e (mem_append_left _ he)
    exact (ih hbef).offer hrej hbef
      (hes entry (mem_append_right _ (mem_singleton.mpr rfl)))

theorem Latest.forall_mem {seq : ε → ℕ} {es : List ε} {kept : Option ε} (h : Latest seq es kept)
    {S : ε → Prop} (hes : ∀ e ∈ es, S e) : ∀ e ∈ kept, S e := by
  rintro e ⟨⟩
  exact hes e h.1

theorem notOlder_foldl_offer {seq : ε → ℕ} {S : ε → Prop}
    (hrej : RejectsOlder rejects seq S) (es es' : List ε) (hes : ∀ e ∈ es ++ es', S e) :
    NotOlder seq (es.foldl (offer rejects) none) ((es ++ es').foldl (offer rejects) none) := by
  induction es' using List.reverseRecOn with
  | nil => rw [append_nil]; exact NotOlder.refl _
  | append_singleton es' entry ih =>
    rw [← append_assoc] at hes ⊢
    rw [foldl_append (l := es ++ es')]
    have hbef : ∀ e ∈ es ++ es', S e := fun e he => hes e (mem_append_left _ he)
    have hkept := (latest_foldl_offer hrej _ hbef).forall_mem hbef
    exact (ih hbef).trans (notOlder_offer hrej hkept
      (hes entry (mem_append_right _ (mem_singleton.mpr rfl))))

theorem keepsLatest_of_rejectsOlder {snapshot : ε → σ} {seq : σ → ℕ} {m : Multiset σ}
    {es : List ε} (hrej : RejectsOlder rejects (seq ∘ snapshot) fun e => snapshot e ∈ m)
    (hnew : getEntry rooms roomId peerId = none) (hm : ∀ s, s ∈ m ↔ s ∈ es.map snapshot) :
    KeepsLatest snapshot seq (upsertEntry rejects) rooms roomId peerId m es := by
  have hes : ∀ e ∈ es, snapshot e ∈ m := fun e he => (hm _).mpr (mem_map_of_mem he)
  have hent : ∀ es : List ε,
      getEntry (delivered (upsertEntry rejects) roomId peerId rooms es) roomId peerId =
        es.foldl (offer rejects) none := by
    intro es
    rw [getEntry_delivered, if_pos ⟨rfl, rfl⟩, hnew]
  refine ⟨fun hne => ?_, fun i j hij => ?_, fun i entry reason hget hwhy => ?_, fun i r p hne => ?_⟩
  · rw [hent]
    have hlat := latest_foldl_offer hrej es hes
    cases hkept : es.foldl (offer rejects) none with
    | none =>
      rw [hkept] at hlat
      obtain ⟨s, hs⟩ := Multiset.exists_mem_of_ne_zero hne
      have hnil : es = [] := hlat
      rw [hm, hnil] at hs
      cases hs
    | some entry =>
      rw [hkept] at hlat
      refine ⟨entry, rfl, hes entry hlat.1, fun s hs => ?_⟩
      obtain ⟨e, he, rfl⟩ := mem_map.mp ((hm s).mp hs)
      exact hlat.2 e he
  · rw [hent, hent]
    have hspl : es.take j = es.take i ++ (es.take j).drop i := by
      conv => lhs; rw [← take_append_drop i (es.take j), take_take, min_eq_left hij]
    rw [hspl]
    refine notOlder_foldl_offer hrej _ _ fun e he => ?_
    rw [← hspl] at he
    exact hes e (mem_of_mem_take he)
  · have htake : es.take (i + 1) = es.take i ++ [entry] := by
      rw [take_add_one, hget]
      rfl
    rw [htake, delivered_concat]
    exact upsertEntry_of_rejected hwhy
  · rw [getEntry_delivered, if_neg fun h => hne (by rw [h.1, h.2])]

end Deliveries

/-! ### The rules of the two registries -/

theorem QosRegistry.rejectsOlder {m : Multiset ClientQosSnapshot}
    (hspan : ∀ s ∈ m, ∀ s' ∈ m, s.seq ≤ s'.seq + 1000) :
    RejectsOlder QosRegistry.rejectReason (ClientQosSnapshot.seq ∘ QosEntry.snapshot)
      fun e => e.snapshot ∈ m := by
  intro prev next hprev hnext
  have hcl := hspan _ hprev _ hnext
  unfold rejectReason staleSeq
  by_cases hle : next.snapshot.seq ≤ prev.snapshot.seq
  · have hgap : prev.snapshot.seq - next.snapshot.seq ≤ 1000 := by omega
    simp [hle, hgap]
  · simp [hle]

theorem DownlinkQosRegistry.rejectsOlder {m : Multiset DownlinkSnapshot}
    (hspan : ∀ s ∈ m, ∀ s' ∈ m, s.seq ≤ s'.seq + 1000)
    (hclk : ∀ s ∈ m, ∀ s' ∈ m, 0 < s.tsMs → 0 < s'.tsMs → s.tsMs ≤ s'.tsMs + 1000) : RejectsOlder
      (fun prev next : DownlinkEntry => MediasoupCpp.rejectReason prev.snapshot next.snapshot)
      (DownlinkSnapshot.seq ∘ DownlinkEntry.snapshot) fun e => e.snapshot ∈ m := by
  intro prev next hprev hnext
  have hcl := hspan _ hprev _ hnext
  have hwrap : isSeqWrapOrReset prev.snapshot.seq next.snapshot.seq = false := by
    unfold isSeqWrapOrReset kDownlinkMaxSeq
    simp only [Bool.or_eq_false_iff, Bool.and_eq_false_iff, decide_eq_false_iff_not]
    omega
  have hts : ¬(0 < next.snapshot.tsMs ∧ 0 < prev.snapshot.tsMs ∧
      next.snapshot.tsMs + 1000 < prev.snapshot.tsMs) := by
    rintro ⟨hnextTs, hprevTs, _⟩
    have := hclk _ hprev _ hnext hprevTs hnextTs
    omega
  dsimp only
  rw [MediasoupCpp.rejectReason, if_neg hts, hwrap]
  by_cases hle : next.snapshot.seq ≤ prev.snapshot.seq
  · have hgap : prev.snapshot.seq - next.snapshot.seq ≤ 1000 := by omega
    simp [hle, hgap]
  · simp [hle]

/-- **Both registries keep the latest snapshot.**  The snapshots `m` of a peer the registry
does not know yet have numbers that span at most 1000, and for the downlink registry timestamps
within the tolerance of each other; they are delivered in the order `es`, each at least once. -/
theorem upserts_keep_latest :
    (∀ (reg : QosRegistry) (roomId peerId : String) (m : Multiset ClientQosSnapshot)
      (es : List QosEntry), getEntry reg roomId peerId = none →
      (∀ s, s ∈ m ↔ s ∈ es.map QosEntry.snapshot) →
      (∀ s ∈ m, ∀ s' ∈ m, s.seq ≤ s'.seq + 1000) →
      KeepsLatest QosEntry.snapshot ClientQosSnapshot.seq QosRegistry.upsertInPlace reg roomId
        peerId m es) ∧
    (∀ (rooms : Dict String DownlinkQosRegistry) (roomId peerId : String)
      (m : Multiset DownlinkSnapshot) (es : List DownlinkEntry),
      getEntry rooms roomId peerId = none →
      (∀ s, s ∈ m ↔ s ∈ es.map DownlinkEntry.snapshot) →
      (∀ s ∈ m, ∀ s' ∈ m, s.seq ≤ s'.seq + 1000) →
      (∀ s ∈ m, ∀ s' ∈ m, 0 < s.tsMs → 0 < s'.tsMs → s.tsMs ≤ s'.tsMs + 1000) →
      KeepsLatest DownlinkEntry.snapshot DownlinkSnapshot.seq DownlinkQosRegistry.upsertInPlace
        rooms roomId peerId m es) := by
  constructor
  · intro reg roomId peerId m es hnew hm hspan
    exact keepsLatest_of_rejectsOlder (rejectsOlder hspan) hnew hm
  · intro rooms roomId peerId m es hnew hm hspan hclk
    exact keepsLatest_of_rejectsOlder (DownlinkQosRegistry.rejectsOlder hspan hclk) hnew hm

/-- Two snapshots that overtake each other, the later one sent twice. -/
theorem upserts_keep_latest_overtaken :
    KeepsLatest QosEntry.snapshot ClientQosSnapshot.seq QosRegistry.upsertInPlace ∅ "room" "alice"
        {⟨1, []⟩, ⟨2, []⟩} [⟨⟨2, []⟩, 10⟩, ⟨⟨1, []⟩, 20⟩, ⟨⟨2, []⟩, 30⟩] ∧
      KeepsLatest DownlinkEntry.snapshot DownlinkSnapshot.seq DownlinkQosRegistry.upsertInPlace ∅
        "room" "alice"
        {{ seq := 1, tsMs := 500, subscriberPeerId := "alice" },
          { seq := 2, tsMs := 600, subscriberPeerId := "alice" }}
        [⟨{ seq := 2, tsMs := 600, subscriberPeerId := "alice" }, 10⟩,
          ⟨{ seq := 1, tsMs := 500, subscriberPeerId := "alice" }, 20⟩,
          ⟨{ seq := 2, tsMs := 600, subscriberPeerId := "alice" }, 30⟩] :=
  ⟨upserts_keep_latest.1 ∅ "room" "alice" _ _ rfl (by simp) (by decide),
    upserts_keep_latest.2 ∅ "room" "alice" _ _ rfl (by simp) (by simp) (by simp)⟩

end MediasoupCpp
