import MediasoupCpp.Worker.ChannelReader

/-!
# The end of a worker's stream

When the worker closes its end of the pipe, `read` gives no bytes and both readers report that the
worker is gone.  The thread of `readLoop` dispatches after every `read`, so by then it has
dispatched everything.

Main result: `reader_dispatches_all_before_gone_iff`.

Source: `src/Channel.cpp`.
-/

namespace MediasoupCpp

open Runs Framing

def Reader.EndsClean (s : Reader) : ReaderEvent → Prop
  | .read n =>
    s.calls.head?.map PumpCall.phase = some .reading →
      (s.pipe ≠ [] → (s.append n).recvBuf.length ≤ recvBufferMaxLen) ∧
        (s.pipe = [] → s.eof = true → s.undispatched = [])
  | _ => True

open Reader

instance (s : Reader) : DecidablePred s.EndsClean
  | .read _ => inferInstanceAs (Decidable (_ → _ ∧ _))
  | .write _ => .isTrue trivial
  | .closeEnd => .isTrue trivial
  | .call => .isTrue trivial
  | .readFails => .isTrue trivial
  | .dispatch => .isTrue trivial
  | .handled => .isTrue trivial
  | .user _ => .isTrue trivial

def Reader.AllBeforeGone (frames : List (List UInt8)) (s : Reader) : Prop :=
  s.gone = true → s.dispatched = frames

/-! ### What a step does to requests and messages -/

/-- What a step of a reader does to the requests and to the messages dispatched: nothing, a
message is dispatched, or something allowed happens to the channel. -/
inductive Move (decode : List UInt8 → Option WorkerMessage) (allowed : ChannelEvent → Prop)
    (c : Channel) (dispatched : List (List UInt8)) : Channel → List (List UInt8) → Prop
  | stay : Move decode allowed c dispatched c dispatched
  | message (m : List UInt8) (hm : (decode m).isSome) :
      Move decode allowed c dispatched (c.step (.message m (decode m))) (dispatched ++ [m])
  | other (e : ChannelEvent) (he : allowed e) :
      Move decode allowed c dispatched (c.step e) dispatched

section Move

variable {decode : List UInt8 → Option WorkerMessage} {allowed : ChannelEvent → Prop}
  {frames : List (List UInt8)}

theorem Move.isPrefix {c c' : Channel} {ds ds' : List (List UInt8)}
    (h : Move decode allowed c ds c' ds') : ds <+: ds' := by
  cases h with
  | stay | other => exact List.prefix_refl _
  | message m => exact List.prefix_append _ _

theorem Move.inv {c c' : Channel} {ds ds' : List (List UInt8)}
    (h : Move decode allowed c ds c' ds') (hc : c.Inv) : c'.Inv := by
  cases h with
  | stay => exact hc
  | message m => exact hc.step _
  | other e => exact hc.step e

theorem Reader.Inv.move {s : Reader} (hval : ValidFrames decode frames) (h : s.Inv frames)
    {e : ReaderEvent} (hstr : s.Streams frames e)
    (huser : ∀ e', e = .user e' → (∀ data msg, e' ≠ .message data msg) → allowed e')
    (hlim : s.EndsClean e ∨ allowed .close) :
    Move decode allowed s.channel s.dispatched (s.step decode e).channel
      (s.step decode e).dispatched := by
  have hsame : ∀ {s' : Reader}, s'.channel = s.channel → s'.dispatched = s.dispatched →
      Move decode allowed s.channel s.dispatched s'.channel s'.dispatched := by
    intro s' hchan hdisp
    rw [hchan, hdisp]
    exact .stay
  cases e with
  | write | handled =>
    unfold Reader.step
    dsimp only
    split <;> exact hsame rfl rfl
  | closeEnd => exact hsame rfl rfl
  | call =>
    unfold Reader.step
    dsimp only
    split
    · exact hsame rfl rfl
    · split <;> exact hsame rfl rfl
  | read n =>
    obtain ⟨-, heq⟩ | ⟨outermost, _, hcall, ⟨hpipe, heq⟩ | ⟨hpipe, heq⟩⟩ :=
      @Reader.step_read_cases decode s n
    · rw [heq]
      exact .stay
    · rw [heq]
      split
      next hover =>
        refine hlim.elim (fun hcln => ?_) fun hcl => .other .close hcl
        exact absurd ((hcln (by rw [hcall]; rfl)).1 hpipe) (Nat.not_le.mpr hover)
      · exact hsame rfl rfl
    · rw [heq]
      unfold Reader.startDispatch
      split
      · exact hsame rfl rfl
      · split <;> exact hsame rfl rfl
  | readFails => exact hstr.elim
  | dispatch =>
    obtain heq | ⟨outermost, _, -, ⟨message, _, hmessage, -, -, heq⟩ | ⟨-, heq⟩⟩ :=
      h.dispatch_cases hval
    · rw [heq]
      exact .stay
    · rw [heq, Reader.dispatchMessage_eq hmessage]
      exact .message message hmessage
    · rw [heq]
      cases outermost <;> exact hsame rfl rfl
  | user e =>
    obtain heq | ⟨hmessage, heq⟩ := @Reader.step_user_cases decode s e
    · rw [heq]
      exact .stay
    · rw [heq]
      exact .other e (huser e rfl hmessage)

theorem LoopReader.Inv.move {s : LoopReader} (hval : ValidFrames decode frames)
    (h : s.Inv frames) {e : LoopEvent} (hstr : s.Streams frames e)
    (huser : ∀ e', e = .user e' → (∀ data msg, e' ≠ .message data msg) → allowed e') :
    Move decode allowed s.channel s.dispatched (s.step decode e).channel
      (s.step decode e).dispatched := by
  cases e with
  | read bytes =>
    unfold LoopReader.step
    dsimp only
    split
    · exact .stay
    rename_i hread
    obtain ⟨hpars, hgone, hlen⟩ := LoopReader.of_reads hread
    rw [if_neg (Nat.not_lt.mpr (h.read hpars hgone hlen hstr).1)]
    exact .stay
  | eof =>
    unfold LoopReader.step
    dsimp only
    split <;> exact .stay
  | readFails => exact hstr.elim
  | dispatch =>
    cases hpars : s.parsing with
    | false =>
      have heq : s.step decode .dispatch = s := by simp [LoopReader.step, hpars]
      rw [heq]
      exact .stay
    | true =>
      obtain ⟨message, bytes, hmessage, -, -, heq⟩ | ⟨-, -, heq⟩ :=
        h.dispatch_cases hval hpars
      · rw [heq]
        exact .message message hmessage
      · rw [heq]
        exact .stay
  | user e =>
    obtain heq | ⟨hmessage, heq⟩ := @LoopReader.step_user_cases decode s e
    · rw [heq]
      exact .stay
    · rw [heq]
      exact .other e (huser e rfl hmessage)

end Move

/-! ### Which steps lose nothing -/

section AllBeforeGone

variable {decode : List UInt8 → Option WorkerMessage} {frames : List (List UInt8)} {s : Reader}

theorem Reader.Inv.dispatched_step (hval : ValidFrames decode frames) (h : s.Inv frames)
    {e : ReaderEvent} (hstr : s.Streams frames e) (hall : s.dispatched = frames) :
    (s.step decode e).dispatched = frames := by
  have hmove : Move decode (fun _ => True) s.channel s.dispatched (s.step decode e).channel
      (s.step decode e).dispatched :=
    h.move hval hstr (fun _ _ _ => trivial) (.inr trivial)
  have hgrow := hmove.isPrefix
  rw [hall] at hgrow
  exact antisymm (r := (· <+: ·)) (h.step hval e hstr).intake.handed_isPrefix hgrow

theorem Reader.Inv.dispatched_ne_of_pipe (h : s.Inv frames) (hpipe : s.pipe ≠ []) :
    s.dispatched ≠ frames := by
  intro hall
  have hintake := h.intake
  rw [hall] at hintake
  have hlen := h.piped.length_le
  rw [hintake.rest_eq_nil.2, List.length_append] at hlen
  exact hpipe (List.eq_nil_of_length_eq_zero (by omega))

theorem Reader.Inv.dispatched_eq_iff (h : s.Inv frames) (heof : s.eof)
    (hpipe : s.pipe = []) : s.dispatched = frames ↔ s.undispatched = [] := by
  have hrec : s.received = encode 4 frames := by
    rw [← h.ended heof, hpipe, List.append_nil]
  have hintake := h.intake
  rw [hrec] at hintake
  exact hintake.handed_eq_iff (by decide)

theorem Reader.Inv.allBeforeGone_step_iff (hval : ValidFrames decode frames) (h : s.Inv frames)
    {e : ReaderEvent} (hstr : s.Streams frames e) (hbef : s.AllBeforeGone frames) :
    (s.step decode e).AllBeforeGone frames ↔ s.EndsClean e := by
  have hkeep : (s.step decode e).gone = s.gone → (s.step decode e).AllBeforeGone frames := by
    intro hgone hgone'
    exact h.dispatched_step hval hstr (hbef (hgone ▸ hgone'))
  by_cases hread : ∃ n, e = .read n
  · obtain ⟨n, rfl⟩ := hread
    obtain ⟨htop, heq⟩ | ⟨_, _, hcall, hcs⟩ := @Reader.step_read_cases decode s n
    · exact iff_of_true (hkeep (by rw [heq])) fun hreading => absurd hreading htop
    have hreading : s.calls.head?.map PumpCall.phase = some .reading := by rw [hcall]; rfl
    obtain ⟨hpipe, heq⟩ | ⟨hpipe, heq⟩ := hcs
    · by_cases hover : recvBufferMaxLen < (s.append n).recvBuf.length
      · rw [if_pos hover] at heq
        refine iff_of_false (fun hall => ?_) fun hcln =>
          absurd ((hcln hreading).1 hpipe) (Nat.not_le.mpr hover)
        rw [heq] at hall
        exact h.dispatched_ne_of_pipe hpipe (hall (by simp [returns]))
      · rw [if_neg hover] at heq
        exact iff_of_true (hkeep (by rw [heq]; rfl)) fun _ =>
          ⟨fun _ => Nat.not_lt.mp hover, fun hnil => absurd hnil hpipe⟩
    · by_cases heof : s.eof
      · rw [if_pos heof] at heq
        rw [heq]
        have hiff := h.dispatched_eq_iff heof hpipe
        constructor
        · exact fun hall _ => ⟨fun hne => absurd hpipe hne, fun _ _ =>
            hiff.mp (hall (by simp [returns]))⟩
        · exact fun hcln _ => hiff.mpr ((hcln hreading).2 hpipe heof)
      · rw [if_neg heof] at heq
        refine iff_of_true (hkeep ?_) fun _ =>
          ⟨fun hne => absurd hpipe hne, fun _ hend => absurd hend heof⟩
        rw [heq]
        unfold Reader.startDispatch
        split <;> rfl
  · refine iff_of_true (hkeep (h.gone_step hval hstr fun n hn => hread ⟨n, hn⟩)) ?_
    cases e <;> first | trivial | exact absurd ⟨_, rfl⟩ hread

end AllBeforeGone

/-! ### A request that waits for its response -/

def Undisturbed (r : ℕ) : ChannelEvent → Prop
  | .timeout r' => r' ≠ r
  | .close => False
  | .message .. => False
  | _ => True

variable (decode : List UInt8 → Option WorkerMessage)

def Answers (id : ℕ) (m : List UInt8) : Prop :=
  ∃ accepted reason, decode m = some (.response id accepted reason)

def ResolvedBy (messages : List (List UInt8))
    (p : PendingSent) : Prop :=
  ∃ m ∈ messages, ∃ accepted reason, decode m = some (.response p.id accepted reason) ∧
    p.outcomes = [Channel.responseOutcome m accepted reason]

/-- Since `k` messages were dispatched the request `r` waits for the response with its id: there
was none yet, or its promise is set to what it says. -/
structure Awaits (r id k : ℕ) (c : Channel)
    (dispatched : List (List UInt8)) : Prop where
  inv : c.Inv
  seen : k ≤ dispatched.length
  request : ∃ p, c.promise r = some p ∧ p.id = id ∧ p.stage = .sent ∧
    (p.IsOpen ∧ (∀ m ∈ dispatched.drop k, ¬Answers decode id m) ∨
      ResolvedBy decode (dispatched.drop k) p)

namespace Channel

variable {c : Channel} {r : ℕ} {p : PendingSent}

theorem Inv.promise_of_undisturbed (h : c.Inv) (hp : c.promise r = some p)
    (hsent : p.stage = .sent) {e : ChannelEvent} (he : Undisturbed r e) :
    (c.step e).promise r = some p := by
  cases e with
  | submit =>
    unfold Channel.step Channel.submit
    dsimp only
    split
    · exact hp
    split
    · exact hp
    · exact getElem?_concat_iff.mpr (.inl hp)
  | send r' =>
    refine getElem?_modify_iff.mpr ⟨p, hp, ?_⟩
    rw [hsent]
    simp
  | abandon r' =>
    unfold Channel.step Channel.abandon
    dsimp only
    split
    · exact hp
    rename_i p' hp'
    split
    next hbuild =>
      refine getElem?_modify_iff.mpr ⟨p, hp, (if_neg ?_).symm⟩
      rintro rfl
      rw [hp] at hp'
      cases hp'
      cases hsent.symm.trans hbuild.1
    · exact hp
  | message | close => exact he.elim
  | timeout r' =>
    unfold Channel.step Channel.timeout
    dsimp only
    split
    · exact hp
    rename_i p' hp'
    split
    · exact hp
    rename_i hwait
    rw [not_or, not_not, not_not] at hwait
    have hopen : p'.IsOpen := ⟨hwait.1, by rw [hwait.2]; decide⟩
    rw [h.listed r' p' hp' hopen]
    exact getElem?_settle_iff.mpr ⟨p, hp, (if_neg (Ne.symm he)).symm⟩

theorem promise_of_not_response {data : List UInt8} {msg : WorkerMessage}
    (hmsg : ∀ id accepted reason, msg ≠ .response id accepted reason) :
    c.step (.message data (some msg)) = c := by
  cases msg with
  | response id accepted reason => exact absurd rfl (hmsg id accepted reason)
  | missingResponse | notification | log | unexpected => rfl

end Channel

section Awaits

variable {decode : List UInt8 → Option WorkerMessage} {r id k : ℕ} {c c' : Channel}
  {ds ds' : List (List UInt8)}

theorem ResolvedBy.mono {p : PendingSent} {ms ms' : List (List UInt8)}
    (h : ResolvedBy decode ms p) (hsub : ms ⊆ ms') : ResolvedBy decode ms' p := by
  obtain ⟨m, hm, hresp⟩ := h
  exact ⟨m, hsub hm, hresp⟩

theorem not_answers_concat {ms : List (List UInt8)} {m : List UInt8} {msg : WorkerMessage}
    (h : ∀ m ∈ ms, ¬Answers decode id m) (hmsg : decode m = some msg)
    (hoth : ∀ accepted reason, msg ≠ .response id accepted reason) :
    ∀ m' ∈ ms ++ [m], ¬Answers decode id m' := by
  intro m' hm'
  rcases List.mem_append.mp hm' with hm' | hm'
  · exact h m' hm'
  rw [List.mem_singleton.mp hm']
  rintro ⟨accepted, reason, hans⟩
  exact hoth accepted reason (Option.some.inj (hmsg.symm.trans hans))

theorem Awaits.move (h : Awaits decode r id k c ds)
    (hmove : Move decode (Undisturbed r) c ds c' ds') : Awaits decode r id k c' ds' := by
  have hinv := hmove.inv h.inv
  obtain ⟨p, hp, rfl, hsent, hcs⟩ := h.request
  cases hmove with
  | stay => exact h
  | other e he =>
    exact ⟨hinv, h.seen, p, h.inv.promise_of_undisturbed hp hsent he, rfl, hsent, hcs⟩
  | message m hm =>
    have hdrop : (ds ++ [m]).drop k = ds.drop k ++ [m] := List.drop_append_of_le_length h.seen
    have hseen : k ≤ (ds ++ [m]).length := le_trans h.seen (by simp)
    obtain ⟨msg, hmsg⟩ := Option.isSome_iff_exists.mp hm
    refine ⟨hinv, hseen, ?_⟩
    rw [hdrop, hmsg]
    by_cases hresp : ∃ id' accepted reason, msg = .response id' accepted reason
    · obtain ⟨id', accepted, reason, rfl⟩ := hresp
      refine ⟨_, h.inv.promise_response.mpr ⟨p, hp, rfl⟩, ?_⟩
      by_cases hmat : p.IsOpen ∧ p.id = id'
      · -- the response it waits for
        rw [if_pos hmat]
        refine ⟨rfl, hsent, .inr ⟨m, by simp, accepted, reason, ?_, (hmat.1.set _).2.2⟩⟩
        rw [hmsg, ← hmat.2]
        rfl
      rw [if_neg hmat]
      refine ⟨rfl, hsent, hcs.imp (fun hwait => ⟨hwait.1, ?_⟩) fun hres =>
        hres.mono (List.subset_append_left ..)⟩
      refine not_answers_concat hwait.2 hmsg fun accepted' reason' heq => ?_
      cases heq
      exact hmat ⟨hwait.1, rfl⟩
    · have hoth : ∀ id accepted reason, msg ≠ .response id accepted reason :=
        fun id accepted reason hmsg => hresp ⟨id, accepted, reason, hmsg⟩
      rw [Channel.promise_of_not_response hoth]
      exact ⟨p, hp, rfl, hsent, hcs.imp
        (fun hwait => ⟨hwait.1, not_answers_concat hwait.2 hmsg (hoth _)⟩) fun hres =>
          hres.mono (List.subset_append_left ..)⟩

end Awaits

/-! ### Nothing is lost -/

def ResponsesResolve (decode : List UInt8 → Option WorkerMessage) (frames : List (List UInt8))
    (before : Channel) (k : ℕ) (timedOut : ℕ → Prop) (after : Channel) : Prop :=
  ∀ r p, before.promise r = some p → p.IsOpen → p.stage = .sent → ¬timedOut r →
    (∃ m ∈ frames.drop k, Answers decode p.id m) →
    ∃ q, after.promise r = some q ∧ q.id = p.id ∧ ResolvedBy decode (frames.drop k) q

section Ends

variable {decode : List UInt8 → Option WorkerMessage} {frames : List (List UInt8)} {id k r : ℕ}

theorem Awaits.init {c : Channel} (h : c.Inv) {p : PendingSent}
    (hp : c.promise r = some p) (hopen : p.IsOpen) (hsent : p.stage = .sent)
    (ds : List (List UInt8)) : Awaits decode r p.id ds.length c ds :=
  ⟨h, Nat.le_refl _, p, hp, rfl, hsent, .inl ⟨hopen, by simp⟩⟩

theorem Awaits.resolved {c : Channel} (h : Awaits decode r id k c frames)
    (hans : ∃ m ∈ frames.drop k, Answers decode id m) :
    ∃ q, c.promise r = some q ∧ q.id = id ∧ ResolvedBy decode (frames.drop k) q := by
  obtain ⟨q, hq, hid, -, ⟨-, hnone⟩ | hres⟩ := h.request
  · obtain ⟨m, hm, hans⟩ := hans
    exact absurd hans (hnone m hm)
  · exact ⟨q, hq, hid, hres⟩

theorem undisturbed_of_ne {e : ChannelEvent} (hmessage : ∀ data msg, e ≠ .message data msg)
    (hcl : e ≠ .close) (htime : e ≠ .timeout r) : Undisturbed r e := by
  cases e with
  | message data msg => exact absurd rfl (hmessage data msg)
  | close => exact absurd rfl hcl
  | timeout r' => exact fun hr => htime (by rw [hr])
  | submit | send | abandon => trivial

theorem responsesResolve_of_run {σ ε : Type} {step : σ → ε → σ} {ok : σ → ε → Prop}
    {I : σ → Prop} {channel : σ → Channel} {dispatched : σ → List (List UInt8)}
    {user : ChannelEvent → ε} (hinv : ∀ s e, I s → ok s e → I (step s e))
    (hmove : ∀ (allowed : ChannelEvent → Prop) s e, I s → ok s e →
      (∀ e', e = user e' → (∀ data msg, e' ≠ .message data msg) → allowed e') →
      Move decode allowed (channel s) (dispatched s) (channel (step s e)) (dispatched (step s e)))
    (hcl : ∀ s, ¬ok s (user .close)) {s : σ} (h : I s) (hchan : (channel s).Inv)
    {es₁ es₂ : List ε} (hok : StepsMeet step ok s (es₁ ++ es₂))
    (hall : dispatched (runFrom step s (es₁ ++ es₂)) = frames) :
    ResponsesResolve decode frames (channel (runFrom step s es₁))
      (dispatched (runFrom step s es₁)).length (fun r => user (.timeout r) ∈ es₂)
      (channel (runFrom step s (es₁ ++ es₂))) := by
  intro r p hp hopen hsent htime hans
  rw [stepsMeet_append] at hok
  have hbef := StepsMeet.inv (fun s => I s ∧ (channel s).Inv) (fun s e h he =>
    ⟨hinv s e h.1 he, (hmove (fun _ => True) s e h.1 he fun _ _ _ => trivial).inv h.2⟩) es₁ s hok.1
    ⟨h, hchan⟩
  have hno : StepsMeet step (fun _ e => e ≠ user (.timeout r)) (runFrom step s es₁) es₂ :=
    stepsMeet_of_forall (P := (· ≠ user (.timeout r))) (fun e he heq => htime (heq.subst he)) _
  have hawaits := (StepsMeet.inv
    (fun s => I s ∧ Awaits decode r p.id _ (channel s) (dispatched s)) (fun s e h he =>
      ⟨hinv s e h.1 he.1, h.2.move (hmove _ s e h.1 he.1 ?_)⟩) es₂ _ (hok.2.and hno)
    ⟨hbef.1, Awaits.init hbef.2 hp hopen hsent _⟩).2
  · rw [← runFrom_append, hall] at hawaits
    exact hawaits.resolved hans
  rintro e' rfl hmessage
  refine undisturbed_of_ne hmessage ?_ fun htime => he.2 (by rw [htime])
  rintro rfl
  exact hcl s he.1

end Ends

/-- A request is sent; the worker writes the response and closes its end.  Then the response is
read, and so is the end of the stream, by the same call. -/
def answeredAtTheEnd : List ReaderEvent :=
  [.user .submit, .user (.send 0), .write [1, 0, 0, 0, 9], .closeEnd, .call, .read 100, .read 100]

def firstResponse (_ : List UInt8) : Option WorkerMessage := some (.response 1 true none)

/-- **The response is lost**: it was received completely and is not dispatched, the worker is
reported gone, and the request is still pending. -/
theorem reader_loses_response_at_end :
    ValidFrames firstResponse [[9]] ∧
      StepsMeet (Reader.step · firstResponse) (Reader.Streams [[9]]) {} answeredAtTheEnd ∧
      let s := runFrom (Reader.step · firstResponse) {} answeredAtTheEnd
      s.received = encode 4 [[9]] ∧ s.calls = [] ∧ s.gone = true ∧ s.dispatched = [] ∧
        s.channel.promise 0 = some { id := 1, stage := .sent } := by
  refine ⟨by unfold ValidFrames; decide, by decide +kernel, by decide +kernel, by decide +kernel,
    by decide +kernel, by decide +kernel, by decide +kernel⟩

/-- **When everything is dispatched before the worker is reported gone.**  The worker writes the
messages `frames` and closes its end.  With `processAvailableData` nothing is lost exactly if
every `read` of the run meets the condition; then the responses resolve their requests.  With
`readLoop` nothing is ever lost. -/
theorem reader_dispatches_all_before_gone_iff (decode : List UInt8 → Option WorkerMessage)
    (frames : List (List UInt8)) (hvalid : ValidFrames decode frames) :
    (∀ es, StepsMeet (Reader.step · decode) (Reader.Streams frames) {} es →
      ((∀ n, (runFrom (Reader.step · decode) {} (es.take n)).AllBeforeGone frames) ↔
        StepsMeet (Reader.step · decode) Reader.EndsClean {} es)) ∧
    (∀ es₁ es₂, StepsMeet (Reader.step · decode) (Reader.Streams frames) {} (es₁ ++ es₂) →
      StepsMeet (Reader.step · decode) Reader.EndsClean {} (es₁ ++ es₂) →
      let s₁ := runFrom (Reader.step · decode) {} es₁
      let s := runFrom (step · decode) {} (es₁ ++ es₂)
      s.gone = true → ResponsesResolve decode frames s₁.channel s₁.dispatched.length
        (fun r => .user (.timeout r) ∈ es₂) s.channel) ∧
    (∀ es₁ es₂ : List LoopEvent,
      StepsMeet (LoopReader.step · decode) (LoopReader.Streams frames) {} (es₁ ++ es₂) →
      let s₁ := runFrom (LoopReader.step · decode) {} es₁
      let s := runFrom (LoopReader.step · decode) {} (es₁ ++ es₂)
      s.gone = true → s.dispatched = frames ∧
        ResponsesResolve decode frames s₁.channel s₁.dispatched.length
          (fun r => .user (.timeout r) ∈ es₂) s.channel) := by
  have hiff : ∀ es, StepsMeet (step · decode) (Reader.Streams frames) {} es →
      ((∀ n, (runFrom (step · decode) {} (es.take n)).AllBeforeGone frames) ↔
        StepsMeet (step · decode) Reader.EndsClean {} es) := by
    intro es hstr
    exact StepsMeet.forall_take_iff (Reader.Inv frames) (fun s e h he => h.step hvalid e he)
      (fun s e h he hP => h.allBeforeGone_step_iff hvalid he hP) es {} hstr
      (Reader.Inv.init frames) fun hgone => by cases hgone
  refine ⟨hiff, ?_, ?_⟩
  · intro es₁ es₂ hstr hcln s₁ s hgone
    have hall := (hiff _ hstr).mpr hcln (es₁ ++ es₂).length
    rw [List.take_length] at hall
    exact responsesResolve_of_run (I := Reader.Inv frames)
      (fun s e h he => h.step hvalid e he.1)
      (fun _ s e h he huser => h.move hvalid he.1 huser (.inl he.2)) (fun s he => he.1)
      (Reader.Inv.init frames) Channel.Inv.init (hstr.and hcln) (hall hgone)
  · intro es₁ es₂ hstr s₁ s hgone
    have hloop := StepsMeet.inv (LoopReader.Inv frames) (fun s e h he => h.step hvalid e he)
      (es₁ ++ es₂) {} hstr (LoopReader.Inv.init frames)
    obtain ⟨hpars, hrec⟩ := hloop.gone hgone
    have hcomp := (hloop.idle hpars).2.2
    rw [hrec] at hcomp
    exact ⟨hcomp.of_encode, responsesResolve_of_run (fun s e h he => h.step hvalid e he)
      (fun _ s e h he huser => h.move hvalid he huser) (fun s he => he)
      (LoopReader.Inv.init frames) Channel.Inv.init hstr hcomp.of_encode⟩

def answeredBeforeTheEnd : List ReaderEvent :=
  [.write [1, 0, 0, 0, 9], .call, .read 100, .read 100, .dispatch, .dispatch, .closeEnd, .call,
    .read 100]

theorem reader_dispatches_all_before_gone_iff_later_call :
    ValidFrames firstResponse [[9]] ∧
      StepsMeet (Reader.step · firstResponse) (Reader.Streams [[9]]) {} answeredBeforeTheEnd ∧
      StepsMeet (Reader.step · firstResponse) Reader.EndsClean {} answeredBeforeTheEnd ∧
      (runFrom (Reader.step · firstResponse) {} answeredBeforeTheEnd).gone = true ∧
      (runFrom (Reader.step · firstResponse) {} (answeredBeforeTheEnd.take 9)).AllBeforeGone
        [[9]] := by
  have hval : ValidFrames firstResponse [[9]] := by
    unfold ValidFrames
    decide
  have hstr : StepsMeet (step · firstResponse) (Reader.Streams [[9]]) {}
      answeredBeforeTheEnd := by
    decide
  have hcln : StepsMeet (step · firstResponse) Reader.EndsClean {}
      answeredBeforeTheEnd := by
    decide
  exact ⟨hval, hstr, hcln, by decide,
    ((reader_dispatches_all_before_gone_iff firstResponse _ hval).1 _ hstr).mpr hcln 9⟩

end MediasoupCpp
