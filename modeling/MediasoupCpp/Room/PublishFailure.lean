import MediasoupCpp.Room.Media

/-!
# Publications that fail

A plain client that publishes gets a transport of its own for sending, in place of the one it had.
The SSRCs it asks for are looked at first; the codec is looked at when the old transport is closed
and the new one is made.

Main result: `failed_plainPublish_keeps_iff`.

Source: `src/RoomServiceMedia.cpp`, `src/RoomMediaHelpers.h`, `src/Transport.cpp`, `src/Peer.h`.
-/

namespace MediasoupCpp

open Option

namespace RoomMedia

/-! ### The transports of a peer -/

def transportStatus (s : RoomMedia) (peerId : String) (slot : TransportSlot) :
    Option (String × Bool) :=
  ((s.peers.lookup peerId).bind (·.transports slot)).map fun transport =>
    (transport.id, transport.closed)

def openTransport (s : RoomMedia) (peerId : String) (slot : TransportSlot) : Option String :=
  ((s.transportStatus peerId slot).filter fun status => !status.2).map Prod.fst

structure SameMedia (s s' : RoomMedia) (peerId : String) : Prop where
  transports : ∀ slot, s'.openTransport peerId slot = s.openTransport peerId slot
  producers : ∀ producerId, producerId ∈ s'.listed peerId ∧ s'.IsOpen producerId ↔
    producerId ∈ s.listed peerId ∧ s.IsOpen producerId

def TransportsDrawn (ids : UuidSource) (s : RoomMedia) : Prop :=
  ∀ p slot status, s.transportStatus p slot = some status → ∃ n < s.drawn, ids.uuid n = status.1

section Status

variable {s s' : RoomMedia} {ids : UuidSource} {p : String} {slot : TransportSlot}

theorem transportStatus_of_none (h : s.peers.lookup p = none) (slot : TransportSlot) :
    s.transportStatus p slot = none := by
  rw [transportStatus, h]
  rfl

theorem transportStatus_setPeer (s : RoomMedia) (peer : MediaPeer) (q : String)
    (slot : TransportSlot) : (s.setPeer p peer).transportStatus q slot =
      if q = p then (peer.transports slot).map fun transport => (transport.id, transport.closed)
      else s.transportStatus q slot := by
  simp only [transportStatus, setPeer, Dict.lookup_insert_eq]
  split <;> rfl

theorem transportStatus_setPeer_setTransport {peer : MediaPeer}
    (hpeer : s.peers.lookup p = some peer) (transport : Option Transport)
    (producers : List String) (q : String) (slot' : TransportSlot) :
    (s.setPeer p { peer.setTransport slot transport with producers := producers }).transportStatus
        q slot' =
      if q = p ∧ slot' = slot then transport.map fun transport => (transport.id, transport.closed)
      else s.transportStatus q slot' := by
  rw [transportStatus_setPeer]
  by_cases hq : q = p
  · subst hq
    by_cases hslot : slot' = slot
    · simp [hslot, MediaPeer.setTransport]
    · simp [hslot, MediaPeer.setTransport, transportStatus, hpeer]
  · simp [hq]

theorem transportStatus_setTransport {peer : MediaPeer} (hpeer : s.peers.lookup p = some peer)
    (transport : Option Transport) (q : String) (slot' : TransportSlot) :
    (s.setTransport p slot transport).transportStatus q slot' =
      if q = p ∧ slot' = slot then transport.map fun transport => (transport.id, transport.closed)
      else s.transportStatus q slot' := by
  rw [setTransport, hpeer]
  exact transportStatus_setPeer_setTransport hpeer transport peer.producers q slot'

theorem transportStatus_closeTransport (q : String) (slot' : TransportSlot) :
    (s.closeTransport p slot).transportStatus q slot' =
      if q = p ∧ slot' = slot then (s.transportStatus p slot).map fun status => (status.1, true)
      else s.transportStatus q slot' := by
  cases hpeer : s.peers.lookup p with
  | none =>
    have hsame : s.closeTransport p slot = s := by rw [closeTransport, hpeer]
    rw [hsame]
    split
    next heq =>
      rw [heq.1, transportStatus_of_none hpeer, transportStatus_of_none hpeer]
      rfl
    · rfl
  | some peer =>
    have hstat : s.transportStatus p slot = (peer.transports slot).map fun transport =>
        (transport.id, transport.closed) := by
      rw [transportStatus, hpeer]
      rfl
    have haft : (s.closeTransport p slot).transportStatus q slot' =
        (s.setPeer p (peer.closeTransport slot s.heap).1).transportStatus q slot' := by
      rw [closeTransport, hpeer]
      rfl
    rw [haft, hstat]
    -- a transport that is not there or closed already stays as it is
    have hsame : (s.setPeer p peer).transportStatus q slot' = s.transportStatus q slot' := by
      rw [transportStatus_setPeer]
      split
      next heq =>
        rw [heq, transportStatus, hpeer]
        rfl
      · rfl
    unfold MediaPeer.closeTransport
    cases htrans : peer.transports slot with
    | none =>
      rw [hsame]
      split
      next heq =>
        rw [heq.1, heq.2, hstat, htrans]
        rfl
      · rfl
    | some transport =>
      dsimp only
      split
      next hcl =>
        rw [hsame]
        split
        next heq =>
          rw [heq.1, heq.2, hstat, htrans, map_some, map_some, hcl]
        · rfl
      · exact transportStatus_setPeer_setTransport hpeer _ _ q slot'

theorem transportStatus_eraseClosedPeerEntries (q : String) (slot' : TransportSlot) :
    (s.eraseClosedPeerEntries p).2.transportStatus q slot' = s.transportStatus q slot' := by
  unfold eraseClosedPeerEntries
  split
  · rfl
  rename_i hpeer
  rw [transportStatus_setPeer]
  split
  next heq =>
    rw [heq, transportStatus, hpeer]
    rfl
  · rfl

theorem isSome_peers_closeTransport (h : (s.peers.lookup p).isSome) :
    ((s.closeTransport p slot).peers.lookup p).isSome := by
  obtain ⟨_, hpeer⟩ := isSome_iff_exists.mp h
  rw [closeTransport, hpeer]
  simp [setPeer]

theorem isSome_peers_eraseClosedPeerEntries (h : (s.peers.lookup p).isSome) :
    ((s.eraseClosedPeerEntries p).2.peers.lookup p).isSome := by
  obtain ⟨_, hpeer⟩ := isSome_iff_exists.mp h
  rw [eraseClosedPeerEntries, hpeer]
  simp [setPeer]

theorem drawn_eraseClosedPeerEntries : (s.eraseClosedPeerEntries p).2.drawn = s.drawn := by
  unfold eraseClosedPeerEntries
  split <;> rfl

theorem drawn_setTransport (transport : Option Transport) :
    (s.setTransport p slot transport).drawn = s.drawn := by
  unfold setTransport
  split <;> rfl

theorem discardTransport_spec (producing : Bool) (h : (s.peers.lookup p).isSome) :
    let s' := s.discardTransport p slot producing
    (∀ q slot', s'.transportStatus q slot' =
        if q = p ∧ slot' = slot then none else s.transportStatus q slot') ∧
      s'.drawn = s.drawn ∧ (s'.peers.lookup p).isSome := by
  unfold discardTransport
  dsimp only
  split
  · let erased := (s.closeTransport p slot).eraseClosedPeerEntries p
    have hpeer : (erased.2.peers.lookup p).isSome :=
      isSome_peers_eraseClosedPeerEntries (@isSome_peers_closeTransport s p slot h)
    have hdrew : erased.2.drawn = s.drawn :=
      drawn_eraseClosedPeerEntries.trans closeTransport_rest.2.2.2
    have hstat : ∀ q slot', erased.2.transportStatus q slot' =
        if q = p ∧ slot' = slot then (s.transportStatus p slot).map fun status => (status.1, true)
        else s.transportStatus q slot' := fun q slot' =>
      (transportStatus_eraseClosedPeerEntries q slot').trans
        (transportStatus_closeTransport q slot')
    -- the tables have nothing to do with the transports
    generalize hcln :
      (if producing then erased.2.removeProducers erased.1 else erased.2) = cleaned
    have hprs : cleaned.peers = erased.2.peers := by
      rw [← hcln]
      split <;> rfl
    have hcleaned : ∀ q slot', cleaned.transportStatus q slot' =
        erased.2.transportStatus q slot' := by
      intro q slot'
      rw [transportStatus, transportStatus, hprs]
    rw [← hprs] at hpeer
    obtain ⟨peer, hsome⟩ := isSome_iff_exists.mp hpeer
    refine ⟨fun q slot' => ?_, ?_, ?_⟩
    · rw [transportStatus_setTransport hsome, hcleaned, hstat]
      split <;> rfl
    · rw [drawn_setTransport, ← hdrew, ← hcln]
      split <;> rfl
    · rw [setTransport, hsome]
      simp [setPeer]
  next hnot =>
    refine ⟨fun q slot' => ?_, rfl, h⟩
    split
    next heq =>
      obtain ⟨peer, hpeer⟩ := isSome_iff_exists.mp h
      have hnone : peer.transports slot = none := by
        simpa [hasTransport, hpeer] using hnot
      rw [heq.1, heq.2, transportStatus, hpeer, bind_some, hnone]
      rfl
    · rfl

theorem replaceTransport_spec (producing created : Bool) (h : (s.peers.lookup p).isSome) :
    let replaced := s.replaceTransport ids p slot producing created
    replaced.1 = (if created then some (ids.uuid s.drawn) else none) ∧
      (∀ q slot', replaced.2.transportStatus q slot' =
        if q = p ∧ slot' = slot then (if created then some (ids.uuid s.drawn, false) else none)
        else s.transportStatus q slot') ∧
      replaced.2.drawn = (if created then s.drawn + 1 else s.drawn) := by
  obtain ⟨hstat, hdrew, hpeer⟩ := @discardTransport_spec s p slot producing h
  obtain ⟨_, hsome⟩ := isSome_iff_exists.mp hpeer
  unfold replaceTransport
  dsimp only
  cases created with
  | false => exact ⟨rfl, hstat, hdrew⟩
  | true =>
    rw [hdrew]
    refine ⟨rfl, fun q slot' => ?_, rfl⟩
    refine (transportStatus_setTransport hsome _ q slot').trans ?_
    rw [hstat]
    split <;> rfl

theorem addProducer_status (kind : String) (accepted : Bool) :
    (∀ q slot', (s.addProducer ids p slot kind accepted).2.transportStatus q slot' =
        s.transportStatus q slot') ∧
      s.drawn ≤ (s.addProducer ids p slot kind accepted).2.drawn := by
  unfold addProducer
  split
  · exact ⟨fun _ _ => rfl, le_rfl⟩
  rename_i hpeer
  split
  · exact ⟨fun _ _ => rfl, le_rfl⟩
  rename_i htrans
  split
  · split
    · refine ⟨fun q slot' => ?_, Nat.le_succ _⟩
      refine (transportStatus_setPeer_setTransport hpeer _ _ q slot').trans ?_
      split
      next heq =>
        rw [heq.1, heq.2, transportStatus, hpeer, bind_some, htrans]
        rfl
      · rfl
    · exact ⟨fun _ _ => rfl, le_rfl⟩
  · exact ⟨fun _ _ => rfl, le_rfl⟩

theorem addProducers_status (accepted : ℕ → Bool) (kinds : List String) : ∀ s : RoomMedia,
    (∀ q slot', (addProducers ids p slot accepted kinds s).2.transportStatus q slot' =
        s.transportStatus q slot') ∧
      s.drawn ≤ (addProducers ids p slot accepted kinds s).2.drawn := by
  induction kinds with
  | nil => exact fun s => ⟨fun _ _ => rfl, le_rfl⟩
  | cons kind kinds ih =>
    intro s
    have hone := @addProducer_status s ids p slot kind (accepted kinds.length)
    unfold addProducers
    split
    next s' hadd =>
      rw [hadd] at hone
      exact hone
    next s' hadd =>
      rw [hadd] at hone
      exact ⟨fun q slot' => ((ih s').1 q slot').trans (hone.1 q slot'), hone.2.trans (ih s').2⟩

theorem indexPeerProducers_status :
    (∀ q slot', (s.indexPeerProducers p).transportStatus q slot' = s.transportStatus q slot') ∧
      (s.indexPeerProducers p).drawn = s.drawn := by
  unfold indexPeerProducers
  split <;> exact ⟨fun _ _ => rfl, rfl⟩

theorem closePeer_status : (∀ q slot', (s.closePeer p).transportStatus q slot' =
        if q = p then none else s.transportStatus q slot') ∧ (s.closePeer p).drawn = s.drawn := by
  unfold closePeer
  split
  next hnone =>
    refine ⟨fun q slot' => ?_, rfl⟩
    split
    next heq =>
      rw [heq, transportStatus_of_none hnone]
    · rfl
  · refine ⟨fun q slot' => ?_, rfl⟩
    simp only [transportStatus, removeProducers, Dict.lookup_erase_eq]
    split <;> rfl

end Status

/-! ### Ids that were given out -/

section Drawn

variable {s s' : RoomMedia} {ids : UuidSource} {p : String} {slot : TransportSlot}

section

variable (h : s.TransportsDrawn ids)
include h

theorem TransportsDrawn.keep (hdrew : s.drawn ≤ s'.drawn)
    (hstat : ∀ q slot' status, s'.transportStatus q slot' = some status →
      ∃ old, s.transportStatus q slot' = some old ∧ old.1 = status.1) : s'.TransportsDrawn ids := by
  intro q slot' status hsome
  obtain ⟨old, hold, hid⟩ := hstat q slot' status hsome
  obtain ⟨n, hn, hdraw⟩ := h q slot' old hold
  exact ⟨n, hn.trans_le hdrew, hdraw.trans hid⟩

theorem TransportsDrawn.same (hdrew : s.drawn ≤ s'.drawn)
    (hstat : ∀ q slot', s'.transportStatus q slot' = s.transportStatus q slot') :
    s'.TransportsDrawn ids :=
  h.keep hdrew fun q slot' status hsome => ⟨status, (hstat q slot').symm.trans hsome, rfl⟩

theorem TransportsDrawn.closeTransport (p : String) (slot : TransportSlot) :
    (s.closeTransport p slot).TransportsDrawn ids := by
  refine h.keep closeTransport_rest.2.2.2.ge fun q slot' status hsome => ?_
  rw [transportStatus_closeTransport] at hsome
  split at hsome
  next heq =>
    obtain ⟨old, hold, rfl⟩ := map_eq_some_iff.mp hsome
    exact ⟨old, heq.1 ▸ heq.2 ▸ hold, rfl⟩
  · exact ⟨status, hsome, rfl⟩

theorem TransportsDrawn.replaceTransport (slot : TransportSlot) (producing created : Bool)
    (hpeer : (s.peers.lookup p).isSome) :
    (s.replaceTransport ids p slot producing created).2.TransportsDrawn ids := by
  obtain ⟨-, hstat, hdrew⟩ := @replaceTransport_spec s ids p slot producing created hpeer
  intro q slot' status hsome
  rw [hstat] at hsome
  rw [hdrew]
  have hle : s.drawn ≤ if created then s.drawn + 1 else s.drawn := by
    split <;> omega
  split at hsome
  · split at hsome
    next hcreated =>
      cases hsome
      exact ⟨s.drawn, by simp [hcreated], rfl⟩
    · cases hsome
  · obtain ⟨n, hn, hdraw⟩ := h q slot' status hsome
    exact ⟨n, hn.trans_le hle, hdraw⟩

theorem TransportsDrawn.closePeer (p : String) : (s.closePeer p).TransportsDrawn ids := by
  refine h.keep closePeer_status.2.ge fun q slot' status hsome => ?_
  rw [closePeer_status.1] at hsome
  split at hsome
  · cases hsome
  · exact ⟨status, hsome, rfl⟩

theorem TransportsDrawn.withPeer {call : MediaPeer → MediaResult × RoomMedia}
    (hcall : ∀ peer, s.peers.lookup p = some peer → (call peer).2.TransportsDrawn ids) :
    (s.withPeer p call).2.TransportsDrawn ids := by
  unfold RoomMedia.withPeer
  split
  · split
    · exact h
    next peer hpeer =>
      exact hcall peer hpeer
  · exact h

theorem TransportsDrawn.plainPublish (codecs : List RtpCodecCapability) (p : String)
    (req : PlainPublish) (created : Bool) (accepted : ℕ → Bool) :
    (s.plainPublish ids codecs p req created accepted).2.TransportsDrawn ids := by
  refine h.withPeer fun peer hpeer => ?_
  split
  · exact h
  have hrepl := h.replaceTransport (p := p) .plainSend true created (by simp [hpeer])
  split
  next s' hreplace =>
    rw [hreplace] at hrepl
    exact hrepl
  rename_i s' hreplace
  rw [hreplace] at hrepl
  have hadd := @addProducers_status ids p .plainSend accepted req.kinds s'
  split
  · exact hrepl
  split
  next hmade =>
    rw [hmade] at hadd
    exact hrepl.same hadd.2 hadd.1
  rename_i hmade
  rw [hmade] at hadd
  exact (hrepl.same hadd.2 hadd.1).same indexPeerProducers_status.2.ge
    indexPeerProducers_status.1

theorem TransportsDrawn.produce (p transportId kind : String) (rtpParameters accepted : Bool) :
    (s.produce ids p transportId kind rtpParameters accepted).2.TransportsDrawn ids := by
  unfold RoomMedia.produce
  split
  · exact h
  split
  · exact h
  refine h.withPeer fun peer _ => ?_
  split
  · exact h
  rename_i slot _
  have hadd := @addProducer_status s ids p slot kind accepted
  split
  next hmade =>
    rw [hmade] at hadd
    exact h.same hadd.2 hadd.1
  rename_i hmade
  rw [hmade] at hadd
  exact (h.same hadd.2 hadd.1).same indexPeerProducers_status.2.ge
    indexPeerProducers_status.1

theorem TransportsDrawn.join (p : String) (rtpCapabilities : RtpCapabilities) (routerCreated : Bool)
    : (s.join p rtpCapabilities routerCreated).2.TransportsDrawn ids := by
  unfold RoomMedia.join
  split
  · exact h
  split
  · exact h
  have hex : TransportsDrawn ids { s with roomExists := true } := h
  split
  · exact hex
  refine (hex.closePeer p).keep le_rfl fun q slot' status hsome => ?_
  rw [transportStatus_setPeer] at hsome
  split at hsome
  · cases hsome
  · exact ⟨status, hsome, rfl⟩

theorem TransportsDrawn.leave (p : String) : (s.leave p).TransportsDrawn ids := by
  unfold RoomMedia.leave
  split
  · dsimp only
    split
    · exact (h.closePeer p).same le_rfl fun _ _ => rfl
    · exact h.closePeer p
  · exact h

theorem TransportsDrawn.step (codecs : List RtpCodecCapability) (op : MediaOp) :
    (mediaStep ids codecs s op).TransportsDrawn ids := by
  cases op with
  | join peerId rtpCapabilities routerCreated => exact h.join peerId rtpCapabilities routerCreated
  | leave peerId => exact h.leave peerId
  | createTransport peerId producing consuming rtpCapabilities created =>
    rw [mediaStep, RoomMedia.createTransport]
    split
    · exact h
    refine h.withPeer fun peer hpeer => ?_
    split
    · exact h
    split
    · exact h
    · rw [answer_snd]
      exact h.replaceTransport _ _ _ (by simp [hpeer])
  | createPlainTransport peerId producing consuming created =>
    rw [mediaStep, RoomMedia.createPlainTransport]
    split
    · exact h
    refine h.withPeer fun peer hpeer => ?_
    rw [answer_snd]
    exact h.replaceTransport _ _ _ (by simp [hpeer])
  | plainSubscribe peerId created connected =>
    refine h.withPeer fun peer hpeer => ?_
    have hrepl := h.replaceTransport (p := peerId) .plainRecv false created (by simp [hpeer])
    split
    next hreplace =>
      rw [hreplace] at hrepl
      exact hrepl
    next hreplace =>
      rw [hreplace] at hrepl
      split <;> exact hrepl
  | produce peerId transportId kind rtpParameters accepted =>
    exact h.produce peerId transportId kind rtpParameters accepted
  | plainPublish peerId req created accepted =>
    exact h.plainPublish codecs peerId req created accepted
  | closeTransport peerId slot => exact h.closeTransport peerId slot
  | plan A nowMs room =>
    rw [mediaStep, RoomMedia.plan]
    split
    · exact h.same le_rfl fun _ _ => rfl
    · exact h

end

theorem transportsDrawn_run (ids : UuidSource) (codecs : List RtpCodecCapability)
    (ops : List MediaOp) : (Runs.runFrom (mediaStep ids codecs) {} ops).TransportsDrawn ids := by
  refine Runs.runFrom_inv (TransportsDrawn ids) (fun _ op h => h.step codecs op) ops {} ?_
  intro p slot status hsome
  cases hsome

end Drawn

/-! ### A publication that fails -/

section Failure

variable {s : RoomMedia} {ids : UuidSource} {p : String} {slot : TransportSlot}

theorem openTransport_eq_none_iff :
    s.openTransport p slot = none ↔ ∀ status, s.transportStatus p slot = some status →
      status.2 := by
  rw [openTransport, map_eq_none_iff]
  cases s.transportStatus p slot with
  | none => simp
  | some status => simp [Option.filter]

theorem openTransport_eq_some_iff {id : String} :
    s.openTransport p slot = some id ↔ s.transportStatus p slot = some (id, false) := by
  rw [openTransport]
  cases s.transportStatus p slot with
  | none => simp
  | some status =>
    obtain ⟨_, closed⟩ := status
    cases closed <;> simp [Option.filter]

theorem owned_of_openTransport_eq_none (h : s.openTransport p slot = none) :
    s.owned p slot = [] := by
  rw [openTransport_eq_none_iff] at h
  cases hpeer : s.peers.lookup p with
  | none => exact owned_of_none hpeer slot
  | some peer =>
    rw [owned_of_some hpeer, MediaPeer.owned]
    cases htrans : peer.transports slot with
    | none => rfl
    | some transport =>
      refine transport.producers_of_closed (h (transport.id, transport.closed) ?_)
      rw [transportStatus, hpeer, bind_some, htrans]
      rfl

theorem sameMedia_of_not_created_iff (htidy : s.Tidy ids) (hpeer : (s.peers.lookup p).isSome) :
    SameMedia s (s.replaceTransport ids p .plainSend true false).2 p ↔
      s.openTransport p .plainSend = none := by
  obtain ⟨-, hstat, -⟩ := @replaceTransport_spec s ids p .plainSend true false hpeer
  have hgone : (s.replaceTransport ids p .plainSend true false).2.openTransport p .plainSend =
      none := by
    rw [openTransport_eq_none_iff, hstat]
    simp
  constructor
  · intro hsame
    rw [← hsame.transports, hgone]
  intro hnone
  have halike := (htidy.alike_closeTransport (owned_of_openTransport_eq_none hnone)).trans
    (htidy.replaceTransport p .plainSend true false)
  refine ⟨fun slot => ?_, fun id => ?_⟩
  · by_cases hslot : slot = .plainSend
    · rw [hslot, hgone, hnone]
    · rw [openTransport, openTransport, hstat, if_neg fun h => hslot h.2]
  · rw [halike.listed, halike.isOpen]

theorem not_sameMedia_of_status {s' : RoomMedia} (hdrew : s.TransportsDrawn ids)
    (hstat : s'.transportStatus p .plainSend = some (ids.uuid s.drawn, false)) :
    ¬SameMedia s s' p := by
  intro hsame
  have hnew := hsame.transports .plainSend
  rw [openTransport_eq_some_iff.mpr hstat] at hnew
  obtain ⟨_, hn, hdraw⟩ := hdrew p .plainSend _ (openTransport_eq_some_iff.mp hnew.symm)
  exact absurd (ids.injective hdraw) hn.ne

theorem plainPublish_cases (codecs : List RtpCodecCapability) {req : PlainPublish}
    {created : Bool} {accepted : ℕ → Bool} (hroom : s.roomExists)
    (hpeer : (s.peers.lookup p).isSome)
    (hfail : ∀ made, (s.plainPublish ids codecs p req created accepted).1 ≠ .made made) :
    let s' := (s.plainPublish ids codecs p req created accepted).2
    (req.invalid? ≠ none ∧ s' = s) ∨ (req.invalid? = none ∧ created = false ∧
        s' = (s.replaceTransport ids p .plainSend true false).2) ∨
      (req.invalid? = none ∧ created ∧
        s'.transportStatus p .plainSend = some (ids.uuid s.drawn, false)) := by
  obtain ⟨_, hsome⟩ := isSome_iff_exists.mp hpeer
  unfold plainPublish withPeer at hfail ⊢
  rw [if_pos hroom, hsome] at hfail ⊢
  dsimp only at hfail ⊢
  cases hinv : req.invalid? with
  | some error => exact .inl ⟨nofun, rfl⟩
  | none =>
    rw [hinv] at hfail
    obtain ⟨hid, hstat, -⟩ := @replaceTransport_spec s ids p .plainSend true created hpeer
    have hsend := hstat p .plainSend
    rw [if_pos ⟨rfl, rfl⟩] at hsend
    cases created with
    | false =>
      refine .inr (.inl ⟨rfl, rfl, ?_⟩)
      rfl
    | true =>
      refine .inr (.inr ⟨rfl, rfl, ?_⟩)
      generalize s.replaceTransport ids p .plainSend true true = replaced at *
      obtain ⟨made, s'⟩ := replaced
      obtain rfl : made = some (ids.uuid s.drawn) := hid
      dsimp only at hfail hsend ⊢
      split
      · exact hsend
      have hadd := (@addProducers_status ids p .plainSend accepted req.kinds s').1 p .plainSend
      split
      next hmade =>
        rw [hmade] at hadd
        exact hadd.trans hsend
      next hmade =>
        rw [hmade] at hadd
        exact (indexPeerProducers_status.1 _ _).trans (hadd.trans hsend)

theorem sameMedia_plainPublish_iff (codecs : List RtpCodecCapability) {req : PlainPublish}
    {created : Bool} {accepted : ℕ → Bool} (htidy : s.Tidy ids) (hdrew : s.TransportsDrawn ids)
    (hroom : s.roomExists) (hpeer : (s.peers.lookup p).isSome)
    (hfail : ∀ made, (s.plainPublish ids codecs p req created accepted).1 ≠ .made made) :
    SameMedia s (s.plainPublish ids codecs p req created accepted).2 p ↔
      req.invalid? ≠ none ∨ created = false ∧ s.openTransport p .plainSend = none := by
  rcases plainPublish_cases codecs hroom hpeer hfail with
    ⟨hinv, hsame⟩ | ⟨hval, rfl, hrepl⟩ | ⟨hval, rfl, hstat⟩
  · rw [hsame]
    exact iff_of_true ⟨fun _ => rfl, fun _ => Iff.rfl⟩ (.inl hinv)
  · rw [hrepl, sameMedia_of_not_created_iff htidy hpeer]
    simp [hval]
  · exact iff_of_false (not_sameMedia_of_status hdrew hstat) (by simp [hval])

end Failure

end RoomMedia

/-- **Publications that fail.**  In every state a room can be in, a publication of a peer in it
that does not succeed leaves the peer its open transports and producers exactly if it is refused
for its SSRCs, or no transport could be made and the peer had none open to lose. -/
theorem failed_plainPublish_keeps_iff (ids : UuidSource)
    (codecs : List RoomMedia.RtpCodecCapability) (ops : List MediaOp) (peerId : String)
    (req : RoomMedia.PlainPublish) (created : Bool) (accepted : ℕ → Bool)
    (hroom : (Runs.runFrom (mediaStep ids codecs) {} ops).roomExists = true)
    (hpeer : ((Runs.runFrom (mediaStep ids codecs) {} ops).peers.lookup peerId).isSome)
    (hfails : ∀ made, ((Runs.runFrom (mediaStep ids codecs) {} ops).plainPublish ids codecs peerId
      req created accepted).1 ≠ .made made) :
    RoomMedia.SameMedia (Runs.runFrom (mediaStep ids codecs) {} ops)
        ((Runs.runFrom (mediaStep ids codecs) {} ops).plainPublish ids codecs peerId req created
          accepted).2 peerId ↔
      req.invalid? ≠ none ∨
        created = false ∧
          (Runs.runFrom (mediaStep ids codecs) {} ops).openTransport peerId .plainSend = none :=
  RoomMedia.sameMedia_plainPublish_iff codecs
    (RoomMedia.tidy_run codecs (RoomMedia.tidy_init ids) ops)
    (RoomMedia.transportsDrawn_run ids codecs ops) hroom hpeer hfails

def publishVideo (videoCodec : String) : RoomMedia.PlainPublish :=
  { videoSsrcs := [1], videoCodec := videoCodec, enableAudio := false }

def vp8Router : List RoomMedia.RtpCodecCapability :=
  [{ mimeType := "video/VP8", preferredPayloadType := 101 }]

/-- The first publication of a peer, for which no transport could be made. -/
theorem failed_plainPublish_keeps_first :
    (Runs.runFrom (mediaStep unaryUuids vp8Router) {}
        [.join "p" .absent true]).openTransport "p" .plainSend = none ∧
      RoomMedia.SameMedia (Runs.runFrom (mediaStep unaryUuids vp8Router) {}
          [.join "p" .absent true])
        ((Runs.runFrom (mediaStep unaryUuids vp8Router) {}
          [.join "p" .absent true]).plainPublish unaryUuids vp8Router "p" (publishVideo "vp8")
            false fun _ => true).2 "p" :=
  ⟨by decide, (failed_plainPublish_keeps_iff unaryUuids vp8Router [.join "p" .absent true] "p"
    (publishVideo "vp8") false (fun _ => true) (by decide) (by decide) (fun _ => nofun)).mpr
      (.inr ⟨rfl, by decide⟩)⟩

def publishing : RoomMedia :=
  Runs.runFrom (mediaStep unaryUuids vp8Router) {}
    [.join "p" .absent true, .plainPublish "p" (publishVideo "vp8") true fun _ => true]

/-- **A codec that is not supported ends what a peer publishes.**  The call fails; the transport and
the producer the peer had are closed, and it has a transport it does not know of. -/
theorem unsupported_codec_ends_publication :
    let after := publishing.plainPublish unaryUuids vp8Router "p" (publishVideo "av1") true
      fun _ => true
    after.1 = .failed "unsupported plain publish videoCodec" ∧
      publishing.openTransport "p" .plainSend = some "" ∧ publishing.listed "p" = ["x"] ∧
      publishing.heap.isOpen "x" = true ∧
      after.2.openTransport "p" .plainSend = some "xx" ∧ after.2.listed "p" = [] ∧
      after.2.heap.isClosed "x" = true ∧ ¬RoomMedia.SameMedia publishing after.2 "p" := by
  intro after
  have hbef : publishing.openTransport "p" .plainSend = some "" := by decide +kernel
  have haft : after.2.openTransport "p" .plainSend = some "xx" := by decide +kernel
  refine ⟨by decide +kernel, hbef, by decide +kernel, by decide +kernel, haft,
    by decide +kernel, by decide +kernel, ?_⟩
  intro hsame
  have hsend := hsame.transports .plainSend
  rw [hbef, haft] at hsend
  exact absurd hsend (by decide)

end MediasoupCpp
