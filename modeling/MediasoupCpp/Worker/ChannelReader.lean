import MediasoupCpp.Lib.Framing
import MediasoupCpp.Lib.Run
import MediasoupCpp.Worker.ChannelRequests

/-!
# Reading the messages of a worker

The worker writes length-prefixed messages into a pipe.  In a threaded channel a thread of its own
reads them (`readLoop`).

## Main results

* `reader_dispatches_complete_frames` — **however the bytes come and the calls are nested, each
  message is dispatched once, in order, and as by `readLoop`**.
* `reader_dispatches_all_before_gone_iff` — **when nothing is lost at the end of the stream**.

Source: `src/Channel.cpp`, `src/EventEmitter.h`.
-/

namespace MediasoupCpp

open Framing List Runs

def messageMaxLen : ℕ := 4194308

def recvBufferMaxLen : ℕ := 16 * 1024 * 1024

def kReadChunkSize : ℕ := 65536

/-! ### `processAvailableData` -/

/-- Where a call of `processAvailableData` is.  It is `handling` while the handlers of a
notification run. -/
inductive PumpPhase
  | reading
  | dispatching
  | handling
  deriving DecidableEq

structure PumpCall where
  phase : PumpPhase
  outermost : Bool
  deriving DecidableEq

structure Reader where
  channel : Channel := {}
  pipe : List UInt8 := []
  eof : Bool := false
  recvBuf : List UInt8 := []
  recvBufProcessing : Bool := false
  recvBufDispatchOffset : ℕ := 0
  /-- The calls that are active, the innermost first. -/
  calls : List PumpCall := []
  received : List UInt8 := []
  /-- Everything that was passed to `processMessage`. -/
  dispatched : List (List UInt8) := []
  /-- Some call has returned `false`: the worker is gone. -/
  gone : Bool := false

inductive ReaderEvent
  | write (bytes : List UInt8)
  | closeEnd
  /-- The user of the channel calls `processAvailableData`. -/
  | call
  /-- One `read`; `n` is how many bytes the system would give at most. -/
  | read (n : ℕ)
  | readFails
  /-- One turn of the loop that dispatches messages. -/
  | dispatch
  /-- The handlers of a notification are done. -/
  | handled
  /-- The user of the channel sends a request, waits no longer, or closes the channel. -/
  | user (e : ChannelEvent)
  deriving DecidableEq

namespace Reader

variable (s : Reader)

def undispatched : List UInt8 := s.recvBuf.drop s.recvBufDispatchOffset

def userRuns : Bool :=
  match s.calls with
  | [] => true
  | c :: _ => c.phase == .handling

def returns (ok : Bool) : Reader := { s with calls := s.calls.tail, gone := s.gone || !ok }

def chunk (n : ℕ) : List UInt8 := s.pipe.take (max 1 (min n kReadChunkSize))

def append (n : ℕ) : Reader :=
  { s with
    pipe := s.pipe.drop (max 1 (min n kReadChunkSize))
    recvBuf := s.recvBuf ++ s.chunk n
    received := s.received ++ s.chunk n }

def startDispatch : Reader :=
  if s.recvBufProcessing then { s with calls := ⟨.dispatching, false⟩ :: s.calls.tail }
  else
    { s with
      recvBufProcessing := true
      recvBufDispatchOffset := 0
      calls := ⟨.dispatching, true⟩ :: s.calls.tail }

def finishDispatch (outermost ok : Bool) : Reader :=
  if outermost then
    { s with
      recvBuf := s.undispatched
      recvBufDispatchOffset := 0
      recvBufProcessing := false }.returns ok
  else s.returns ok

def closeChannel : Reader := { s with channel := s.channel.close }

variable (decode : List UInt8 → Option WorkerMessage)

def dispatchMessage (outermost : Bool) (message : List UInt8) : Reader :=
  let s := { s with
    recvBufDispatchOffset := s.recvBufDispatchOffset + 4 + message.length
    dispatched := s.dispatched ++ [message] }
  match s.channel.processMessage message (decode message) with
  | (channel, false) => ({ s with channel }.closeChannel).finishDispatch outermost false
  | (channel, true) =>
    { s with
      channel
      calls :=
        ⟨if decode message = some .notification then .handling else .dispatching, outermost⟩ ::
          s.calls.tail }

def step : ReaderEvent → Reader
  | .write bytes => if s.eof then s else { s with pipe := s.pipe ++ bytes }
  | .closeEnd => { s with eof := true }
  | .call =>
    if !s.userRuns then s
    else if s.channel.closed then { s with gone := true }
    else { s with calls := ⟨.reading, false⟩ :: s.calls }
  | .read n =>
    match s.calls with
    | ⟨.reading, _⟩ :: _ =>
      if s.pipe ≠ [] then
        if recvBufferMaxLen < (s.append n).recvBuf.length then
          ((s.append n).closeChannel).returns false
        else s.append n
      else if s.eof then s.returns false
      else s.startDispatch
    | _ => s
  | .readFails =>
    match s.calls with
    | ⟨.reading, _⟩ :: _ => s.returns false
    | _ => s
  | .dispatch =>
    match s.calls with
    | ⟨.dispatching, outermost⟩ :: _ =>
      match front 4 messageMaxLen s.undispatched with
      | .invalid => s.closeChannel.finishDispatch outermost false
      | .incomplete => s.finishDispatch outermost true
      | .frame message _ => s.dispatchMessage decode outermost message
    | _ => s
  | .handled =>
    match s.calls with
    | ⟨.handling, outermost⟩ :: rest => { s with calls := ⟨.dispatching, outermost⟩ :: rest }
    | _ => s
  | .user (.message ..) => s
  | .user e => if s.userRuns then { s with channel := s.channel.step e } else s

end Reader

open Reader

/-! ### `readLoop` -/

structure LoopReader where
  channel : Channel := {}
  recvBuf : List UInt8 := []
  offset : ℕ := 0
  parsing : Bool := false
  received : List UInt8 := []
  dispatched : List (List UInt8) := []
  /-- The thread has seen the end of the stream, or an error, and has returned. -/
  gone : Bool := false

inductive LoopEvent
  | read (bytes : List UInt8)
  /-- A `read` that gives none because the worker has closed its end. -/
  | eof
  | readFails
  /-- One turn of the loop that dispatches messages. -/
  | dispatch
  /-- Another thread sends a request, waits no longer, or closes the channel. -/
  | user (e : ChannelEvent)

namespace LoopReader

variable (s : LoopReader)

def undispatched : List UInt8 := s.recvBuf.drop s.offset

def reads : Bool := !s.parsing && !s.gone && !s.channel.closed

variable (decode : List UInt8 → Option WorkerMessage)

def step : LoopEvent → LoopReader
  | .read bytes =>
    if !s.reads || bytes == [] || kReadChunkSize < bytes.length then s
    else
      let s := { s with recvBuf := s.recvBuf ++ bytes, received := s.received ++ bytes }
      if recvBufferMaxLen < s.recvBuf.length then { s with channel := s.channel.close }
      else { s with parsing := true, offset := 0 }
  | .eof => if s.reads then { s with gone := true } else s
  | .readFails => if s.reads then { s with gone := true } else s
  | .dispatch =>
    if !s.parsing then s
    else
      match front 4 messageMaxLen s.undispatched with
      | .invalid =>
        { s with channel := s.channel.close, recvBuf := [], offset := 0, parsing := false }
      | .incomplete => { s with recvBuf := s.undispatched, offset := 0, parsing := false }
      | .frame message _ =>
        let s := { s with dispatched := s.dispatched ++ [message] }
        match s.channel.processMessage message (decode message) with
        | (channel, false) =>
          { s with channel := channel.close, recvBuf := [], offset := 0, parsing := false }
        | (channel, true) => { s with channel, offset := s.offset + 4 + message.length }
  | .user (.message ..) => s
  | .user e => { s with channel := s.channel.step e }

end LoopReader

/-! ### The stream of the worker -/

section Streams

variable (decode : List UInt8 → Option WorkerMessage) (frames : List (List UInt8))

def ValidFrames : Prop := ∀ m ∈ frames, Fits messageMaxLen m ∧ (decode m).isSome

/-- The worker writes the messages `frames`, and closes its end behind the last one if it does.
No `read` fails and the user does not close the channel. -/
def Reader.Streams (s : Reader) : ReaderEvent → Prop
  | .write bytes => s.received ++ s.pipe ++ bytes <+: encode 4 frames
  | .closeEnd => s.received ++ s.pipe = encode 4 frames
  | .readFails => False
  | .user .close => False
  | _ => True

def LoopReader.Streams (s : LoopReader) : LoopEvent → Prop
  | .read bytes => s.received ++ bytes <+: encode 4 frames
  | .eof => s.received = encode 4 frames
  | .readFails => False
  | .user .close => False
  | _ => True

end Streams

namespace Channel

open Channel

variable {c : Channel}

theorem closed_step_of_ne {e : ChannelEvent} (hclose : e ≠ .close)
    (hmessage : ∀ data msg, e ≠ .message data msg) : (c.step e).closed = c.closed := by
  cases e with
  | submit =>
    unfold step submit
    dsimp only
    split
    · rfl
    · split <;> rfl
  | send r => rfl
  | abandon r =>
    unfold step abandon
    dsimp only
    split
    · rfl
    · split <;> rfl
  | message data msg => exact absurd rfl (hmessage data msg)
  | timeout r =>
    unfold step timeout
    dsimp only
    split
    · rfl
    split
    · rfl
    · split <;> rfl
  | close => exact absurd rfl hclose

theorem processMessage_of_isSome {data : List UInt8} {msg : Option WorkerMessage}
    (hmsg : msg.isSome) : c.processMessage data msg = (c.step (.message data msg), true) ∧
      (c.step (.message data msg)).closed = c.closed := by
  obtain ⟨msg, rfl⟩ := Option.isSome_iff_exists.mp hmsg
  cases msg with
  | response id accepted reason =>
    unfold step processMessage
    dsimp only
    cases c.sents.lookup id with
    | none | some => exact ⟨rfl, rfl⟩
  | missingResponse | notification | log | unexpected => exact ⟨rfl, rfl⟩

end Channel

/-! ### What `processAvailableData` keeps -/

/-- How calls can be nested: only the innermost one does not wait for a handler, and the
outermost one is the one that set `recvBufProcessing_`. -/
inductive Nested : Bool → List PumpCall → Prop
  | idle : Nested false []
  | reading : Nested false [⟨.reading, false⟩]
  | outermost {phase : PumpPhase} (hph : phase ≠ .reading) : Nested true [⟨phase, true⟩]
  | inner {phase : PumpPhase} {c : PumpCall} {cs : List PumpCall} (hc : c.phase = .handling)
      (hcs : Nested true (c :: cs)) : Nested true (⟨phase, false⟩ :: c :: cs)

variable {outermost processing : Bool} {rest : List PumpCall}

theorem Nested.push {calls : List PumpCall} (h : Nested processing calls)
    (huser : ∀ c ∈ calls.head?, c.phase = .handling) :
    Nested processing (⟨.reading, false⟩ :: calls) := by
  cases h with
  | idle => exact .reading
  | reading => exact absurd (huser _ rfl) (by decide)
  | outermost hph => exact .inner (huser _ rfl) (.outermost hph)
  | inner hc hcs => exact .inner (huser _ rfl) (.inner hc hcs)

theorem Nested.tail_of_reading (h : Nested processing (⟨.reading, outermost⟩ :: rest)) :
    Nested processing rest ∧ (processing = false → rest = []) := by
  cases h with
  | reading => exact ⟨.idle, fun _ => rfl⟩
  | outermost hph => exact absurd rfl hph
  | inner hc hcs => exact ⟨hcs, fun h => by cases h⟩

theorem Nested.progress {phase phase' : PumpPhase}
    (h : Nested processing (⟨phase, outermost⟩ :: rest))
    (hph : phase ≠ .reading) (hph' : phase' ≠ .reading) :
    processing ∧ Nested processing (⟨phase', outermost⟩ :: rest) := by
  cases h with
  | reading => exact absurd rfl hph
  | outermost => exact ⟨rfl, .outermost hph'⟩
  | inner hc hcs => exact ⟨rfl, .inner hc hcs⟩

theorem Nested.tail_of_dispatching (h : Nested processing (⟨.dispatching, outermost⟩ :: rest)) :
    processing ∧ (outermost ∧ rest = [] ∨ outermost = false ∧ rest ≠ [] ∧ Nested true rest) := by
  cases h with
  | outermost => exact ⟨rfl, .inl ⟨rfl, rfl⟩⟩
  | inner hc hcs => exact ⟨rfl, .inr ⟨rfl, cons_ne_nil _ _, hcs⟩⟩

namespace Reader

variable {decode : List UInt8 → Option WorkerMessage} {frames : List (List UInt8)} {s : Reader}

/-- **What holds of a reader of the messages `frames`**: those dispatched and the bytes not
dispatched make up what was read, and when no call is active, all complete ones are dispatched
— unless the worker was reported gone. -/
structure Inv (frames : List (List UInt8)) (s : Reader) : Prop where
  intake : Intake 4 frames s.received s.dispatched s.undispatched
  piped : s.received ++ s.pipe <+: encode 4 frames
  offset_le : s.recvBufDispatchOffset ≤ s.recvBuf.length
  nested : Nested s.recvBufProcessing s.calls
  idle : s.recvBufProcessing = false → s.recvBufDispatchOffset = 0
  ended : s.eof = true → s.received ++ s.pipe = encode 4 frames
  closed : s.channel.closed = true → s.gone = true
  complete : s.calls = [] → s.gone = false → Complete 4 frames s.received s.dispatched

theorem complete_nil (frames : List (List UInt8)) : Complete 4 frames [] [] := by
  refine ⟨List.nil_prefix, List.nil_prefix, fun more _ hmore => ?_⟩
  cases more with
  | nil => exact nil_prefix
  | cons p ps =>
    have hlen := hmore.length_le
    simp only [encode_cons, length_append, length_encodeFrame, length_nil] at hlen
    omega

theorem Inv.init (frames : List (List UInt8)) : Inv frames {} where
  intake := Intake.init frames
  piped := nil_prefix
  offset_le := Nat.le_refl _
  nested := .idle
  idle _ := rfl
  ended h := by cases h
  closed h := by cases h
  complete _ _ := complete_nil frames

theorem head_of_userRuns (h : s.userRuns) : ∀ c ∈ s.calls.head?, c.phase = .handling := by
  unfold userRuns at h
  split at h
  next hnil =>
    simp [hnil]
  rename_i c rest hcall
  rintro _ hc'
  rw [hcall] at hc'
  cases hc'
  exact eq_of_beq h

theorem chunk_append_drop (n : ℕ) :
    s.chunk n ++ s.pipe.drop (max 1 (min n kReadChunkSize)) = s.pipe :=
  take_append_drop ..

theorem Inv.append (h : s.Inv frames) (n : ℕ) (hcall : s.calls ≠ []) : (s.append n).Inv frames where
  intake := by
    have hund : (s.append n).undispatched = s.undispatched ++ s.chunk n :=
      drop_append_of_le_length h.offset_le
    rw [hund]
    refine h.intake.read (List.IsPrefix.trans ?_ h.piped)
    rw [← s.chunk_append_drop n, ← append_assoc]
    exact prefix_append _ _
  piped := by
    have hbs := h.piped
    rw [← s.chunk_append_drop n, ← append_assoc] at hbs
    exact hbs
  offset_le := by
    refine le_trans h.offset_le ?_
    rw [Reader.append, length_append]
    exact Nat.le_add_right _ _
  nested := h.nested
  idle := h.idle
  ended hend := by
    have hbs := h.ended hend
    rw [← s.chunk_append_drop n, ← append_assoc] at hbs
    exact hbs
  closed := h.closed
  complete hnil := absurd hnil hcall

variable {outermost : Bool} {rest : List PumpCall}

theorem Inv.returns_false (h : s.Inv frames)
    (hcall : s.calls = ⟨.reading, outermost⟩ :: rest) (c : Channel) :
    ({ s with channel := c }.returns false).Inv frames where
  intake := h.intake
  piped := h.piped
  offset_le := h.offset_le
  nested := by
    have hnest := h.nested
    rw [hcall] at hnest
    rw [returns, hcall]
    exact hnest.tail_of_reading.1
  idle := h.idle
  ended := h.ended
  closed _ := by simp [returns]
  complete _ hgone := absurd hgone (by simp [returns])

theorem Inv.startDispatch (h : s.Inv frames)
    (hcall : s.calls = ⟨.reading, outermost⟩ :: rest) : s.startDispatch.Inv frames := by
  have hnest := h.nested
  rw [hcall] at hnest
  unfold Reader.startDispatch
  split_ifs with hproc
  · rw [hproc] at hnest
    refine ⟨h.intake, h.piped, h.offset_le, ?_, h.idle, h.ended, h.closed,
      fun hnil => absurd hnil (cons_ne_nil _ _)⟩
    dsimp only
    rw [hcall, hproc]
    cases hnest with
    | outermost hph => exact absurd rfl hph
    | inner hc hcs => exact .inner hc hcs
  · rw [Bool.not_eq_true] at hproc
    have hofs := h.idle hproc
    refine ⟨?_, h.piped, Nat.zero_le _, ?_, fun h => absurd h (by simp), h.ended, h.closed,
      fun hnil => absurd hnil (cons_ne_nil _ _)⟩
    · have hintake := h.intake
      rw [undispatched, hofs] at hintake
      exact hintake
    · rw [hcall, tail_cons, hnest.tail_of_reading.2 hproc]
      exact .outermost (by decide)

theorem Inv.finishDispatch (h : s.Inv frames) (hcall : s.calls = ⟨.dispatching, outermost⟩ :: rest)
    (hcomp : Complete 4 frames s.received s.dispatched) :
    (s.finishDispatch outermost true).Inv frames := by
  have hnest := h.nested
  rw [hcall] at hnest
  obtain ⟨hproc, ⟨rfl, rfl⟩ | ⟨rfl, hrest, hinner⟩⟩ := hnest.tail_of_dispatching
  · refine ⟨?_, h.piped, Nat.zero_le _, ?_, fun _ => rfl, h.ended, ?_, fun _ _ => hcomp⟩
    · exact h.intake
    · unfold finishDispatch returns
      rw [if_pos rfl]
      rw [hcall]
      exact .idle
    · simpa [finishDispatch, returns] using h.closed
  · refine ⟨h.intake, h.piped, h.offset_le, ?_, h.idle, h.ended, ?_, fun hnil => ?_⟩
    · simp only [finishDispatch, returns, Bool.false_eq_true, if_false]
      rw [hcall, hproc]
      exact hinner
    · simpa [finishDispatch, returns] using h.closed
    · simp only [finishDispatch, returns, Bool.false_eq_true, if_false, hcall, tail_cons] at hnil
      exact absurd hnil hrest

theorem dispatchMessage_eq {message : List UInt8} (hmessage : (decode message).isSome)
    (outermost : Bool) : s.dispatchMessage decode outermost message =
      { s with
        recvBufDispatchOffset := s.recvBufDispatchOffset + 4 + message.length
        dispatched := s.dispatched ++ [message]
        channel := s.channel.step (.message message (decode message))
        calls :=
          ⟨if decode message = some .notification then .handling else .dispatching, outermost⟩ ::
            s.calls.tail } := by
  unfold dispatchMessage
  dsimp only
  rw [(Channel.processMessage_of_isSome hmessage).1]

theorem drop_of_drop_eq_encodeFrame {buf message bytes : List UInt8} {offset : ℕ}
    (h : buf.drop offset = encodeFrame 4 message ++ bytes) :
    offset + 4 + message.length ≤ buf.length ∧ buf.drop (offset + 4 + message.length) = bytes := by
  have hlength := congrArg List.length h
  rw [length_drop, length_append, length_encodeFrame] at hlength
  rw [Nat.add_assoc, ← drop_drop, h]
  exact ⟨by omega, drop_left' (length_encodeFrame message)⟩

theorem Inv.dispatchMessage (h : s.Inv frames)
    (hcall : s.calls = ⟨.dispatching, outermost⟩ :: rest) {message bytes : List UInt8}
    (hmessage : (decode message).isSome) (hbs : s.undispatched = encodeFrame 4 message ++ bytes)
    (hintake : Intake 4 frames s.received (s.dispatched ++ [message]) bytes) :
    (s.dispatchMessage decode outermost message).Inv frames := by
  have hnest := h.nested
  rw [hcall] at hnest
  obtain ⟨hofs, hund⟩ := drop_of_drop_eq_encodeFrame hbs
  rw [dispatchMessage_eq hmessage]
  have hph : (if decode message = some .notification then PumpPhase.handling
      else .dispatching) ≠ .reading := by
    split <;> decide
  obtain ⟨hproc, hprog⟩ := hnest.progress (by decide) hph
  refine ⟨?_, h.piped, hofs, ?_, fun hidle => absurd hidle (by simp [hproc]), h.ended, ?_,
    fun hnil => absurd hnil (cons_ne_nil _ _)⟩
  · rw [undispatched, hund]
    exact hintake
  · dsimp only
    rw [hcall]
    exact hprog
  · rw [(Channel.processMessage_of_isSome hmessage).2]
    exact h.closed

theorem Inv.dispatch_cases (hval : ValidFrames decode frames) (h : s.Inv frames) :
    s.step decode .dispatch = s ∨ ∃ outermost rest, s.calls = ⟨.dispatching, outermost⟩ :: rest ∧
      ((∃ message bytes, (decode message).isSome ∧ s.undispatched = encodeFrame 4 message ++ bytes ∧
          Intake 4 frames s.received (s.dispatched ++ [message]) bytes ∧
          s.step decode .dispatch = s.dispatchMessage decode outermost message) ∨
        (Complete 4 frames s.received s.dispatched ∧
          s.step decode .dispatch = s.finishDispatch outermost true)) := by
  unfold step
  dsimp only
  split
  next outermost rest hcall =>
    refine .inr ⟨outermost, rest, hcall, ?_⟩
    obtain ⟨message, bytes, hmem, hfro, hbs, hintake⟩ | ⟨hfro, -, hcomp⟩ :=
      h.intake.front_cases (show messageMaxLen < 256 ^ 4 by decide) (by decide)
        fun m hm => (hval m hm).1
    · exact .inl ⟨message, bytes, (hval message hmem).2, hbs, hintake, by rw [hfro]⟩
    · exact .inr ⟨hcomp, by rw [hfro]⟩
  · exact .inl rfl

theorem step_read_cases (n : ℕ) :
    s.calls.head?.map PumpCall.phase ≠ some .reading ∧ s.step decode (.read n) = s ∨
      ∃ outermost rest, s.calls = ⟨.reading, outermost⟩ :: rest ∧ (s.pipe ≠ [] ∧
            s.step decode (.read n) = (if recvBufferMaxLen < (s.append n).recvBuf.length then
                ((s.append n).closeChannel).returns false else s.append n) ∨ s.pipe = [] ∧
            s.step decode (.read n) = (if s.eof then s.returns false else s.startDispatch)) := by
  unfold step
  dsimp only
  split
  next outermost rest hcall =>
    refine .inr ⟨outermost, rest, hcall, ?_⟩
    by_cases hpipe : s.pipe = []
    · rw [if_neg (by simpa using hpipe)]
      exact .inr ⟨hpipe, rfl⟩
    · rw [if_pos hpipe]
      exact .inl ⟨hpipe, rfl⟩
  next hcall =>
    refine .inl ⟨fun htop => ?_, rfl⟩
    obtain ⟨⟨phase, outermost⟩, hhead, rfl⟩ := Option.map_eq_some_iff.mp htop
    obtain ⟨rest, hrest⟩ := List.head?_eq_some_iff.mp hhead
    exact hcall outermost rest hrest

theorem step_user_cases (e : ChannelEvent) : s.step decode (.user e) = s ∨
      (∀ data msg, e ≠ .message data msg) ∧
        s.step decode (.user e) = { s with channel := s.channel.step e } := by
  have hcases : (∀ data msg, e ≠ .message data msg) →
      s.step decode (.user e) = (if s.userRuns then { s with channel := s.channel.step e } else s) →
      s.step decode (.user e) = s ∨ (∀ data msg, e ≠ .message data msg) ∧
        s.step decode (.user e) = { s with channel := s.channel.step e } := by
    intro hmessage heq
    rw [heq]
    split
    · exact .inr ⟨hmessage, rfl⟩
    · exact .inl rfl
  cases e with
  | message data msg => exact .inl rfl
  | submit | send | abandon | timeout | close => exact hcases (by simp) rfl

theorem Inv.step (hval : ValidFrames decode frames) (h : s.Inv frames) (e : ReaderEvent)
    (hstr : s.Streams frames e) : (s.step decode e).Inv frames := by
  cases e with
  | write bytes =>
    unfold Reader.step
    dsimp only
    split
    · exact h
    rename_i heof
    refine ⟨h.intake, ?_, h.offset_le, h.nested, h.idle, fun hend => absurd hend heof, h.closed,
      h.complete⟩
    rw [← append_assoc]
    exact hstr
  | closeEnd => exact ⟨h.intake, h.piped, h.offset_le, h.nested, h.idle, fun _ => hstr,
      h.closed, h.complete⟩
  | call =>
    unfold Reader.step
    dsimp only
    split
    · exact h
    rename_i huser
    split
    · exact ⟨h.intake, h.piped, h.offset_le, h.nested, h.idle, h.ended, fun _ => rfl,
        fun _ hgone => by cases hgone⟩
    have hhead := head_of_userRuns (by simpa using huser)
    exact ⟨h.intake, h.piped, h.offset_le, h.nested.push hhead, h.idle, h.ended, h.closed,
      fun hnil => absurd hnil (cons_ne_nil _ _)⟩
  | read n =>
    obtain ⟨-, heq⟩ | ⟨outermost, rest, hcall, ⟨hpipe, heq⟩ | ⟨hpipe, heq⟩⟩ :=
      @step_read_cases decode s n
    · rw [heq]
      exact h
    · have happend := h.append n (by rw [hcall]; exact cons_ne_nil _ _)
      rw [heq]
      split
      · exact happend.returns_false hcall _
      · exact happend
    · rw [heq]
      split
      · exact h.returns_false hcall s.channel
      · exact h.startDispatch hcall
  | readFails => exact hstr.elim
  | dispatch =>
    obtain heq | ⟨outermost, rest, hcall, ⟨_, bytes, hmessage, hbs, hintake, heq⟩ |
      ⟨hcomp, heq⟩⟩ := h.dispatch_cases hval
    · rw [heq]
      exact h
    · rw [heq]
      exact h.dispatchMessage hcall hmessage hbs hintake
    · rw [heq]
      exact h.finishDispatch hcall hcomp
  | handled =>
    unfold Reader.step
    dsimp only
    split
    next outermost rest hcall =>
      have hnest := h.nested
      rw [hcall] at hnest
      exact ⟨h.intake, h.piped, h.offset_le, (hnest.progress (by decide) (by decide)).2, h.idle,
        h.ended, h.closed, fun hnil => absurd hnil (cons_ne_nil _ _)⟩
    · exact h
  | user e =>
    obtain heq | ⟨hmessage, heq⟩ := @step_user_cases decode s e
    · rw [heq]
      exact h
    have hcl : (s.channel.step e).closed = s.channel.closed :=
      Channel.closed_step_of_ne (fun hclose => by subst hclose; exact hstr) hmessage
    rw [heq]
    exact ⟨h.intake, h.piped, h.offset_le, h.nested, h.idle, h.ended,
      fun hcl' => h.closed (hcl ▸ hcl'), h.complete⟩

end Reader

/-! ### What `readLoop` keeps -/

namespace LoopReader

variable {decode : List UInt8 → Option WorkerMessage} {frames : List (List UInt8)}
  {s : LoopReader}

/-- **What holds of the read thread**: the messages dispatched and the bytes not dispatched make
up what was read.  Before it reads again it has dispatched all complete messages, and what is
left in the buffer is less than a message. -/
structure Inv (frames : List (List UInt8)) (s : LoopReader) : Prop where
  intake : Intake 4 frames s.received s.dispatched s.undispatched
  offset_le : s.offset ≤ s.recvBuf.length
  idle : s.parsing = false → s.offset = 0 ∧ s.recvBuf.length < 4 + messageMaxLen ∧
    Complete 4 frames s.received s.dispatched
  gone : s.gone = true → s.parsing = false ∧ s.received = encode 4 frames
  closed : s.channel.closed = false

theorem Inv.init (frames : List (List UInt8)) : Inv frames {} where
  intake := Intake.init frames
  offset_le := Nat.le_refl _
  idle _ := ⟨rfl, by decide, complete_nil frames⟩
  gone h := by cases h
  closed := rfl

theorem Inv.read (h : s.Inv frames) (hpars : s.parsing = false) (hgone : s.gone = false)
    {bytes : List UInt8} (hbs : bytes.length ≤ kReadChunkSize)
    (hstr : s.received ++ bytes <+: encode 4 frames) :
    (s.recvBuf ++ bytes).length ≤ recvBufferMaxLen ∧
      Inv frames { s with
        recvBuf := s.recvBuf ++ bytes, received := s.received ++ bytes, parsing := true,
        offset := 0 } := by
  obtain ⟨hofs, hshort, -⟩ := h.idle hpars
  refine ⟨?_, ?_, Nat.zero_le _, fun h => absurd h (by simp), fun h => ?_, h.closed⟩
  · rw [length_append]
    unfold messageMaxLen at hshort
    unfold kReadChunkSize at hbs
    unfold recvBufferMaxLen
    omega
  · have hintake := h.intake
    rw [LoopReader.undispatched, hofs, drop_zero] at hintake
    exact hintake.read hstr
  · cases hgone.symm.trans h

theorem Inv.dispatch_cases (hval : ValidFrames decode frames) (h : s.Inv frames)
    (hpars : s.parsing) :
    (∃ message bytes, (decode message).isSome ∧ s.undispatched = encodeFrame 4 message ++ bytes ∧
        Intake 4 frames s.received (s.dispatched ++ [message]) bytes ∧ s.step decode .dispatch =
          { s with
            dispatched := s.dispatched ++ [message]
            channel := s.channel.step (.message message (decode message))
            offset := s.offset + 4 + message.length }) ∨
      (s.undispatched.length < 4 + messageMaxLen ∧ Complete 4 frames s.received s.dispatched ∧
        s.step decode .dispatch =
          { s with recvBuf := s.undispatched, offset := 0, parsing := false }) := by
  obtain ⟨message, bytes, hmem, hfro, hbs, hintake⟩ | ⟨hfro, hlen, hcomp⟩ :=
    h.intake.front_cases (show messageMaxLen < 256 ^ 4 by decide) (by decide)
      fun m hm => (hval m hm).1
  · refine .inl ⟨message, bytes, (hval message hmem).2, hbs, hintake, ?_⟩
    simp only [LoopReader.step, hpars, Bool.not_true, Bool.false_eq_true, if_false, hfro,
      (Channel.processMessage_of_isSome (hval message hmem).2).1]
  · refine .inr ⟨hlen, hcomp, ?_⟩
    simp only [LoopReader.step, hpars, Bool.not_true, Bool.false_eq_true, if_false, hfro]

theorem Inv.dispatch (hval : ValidFrames decode frames) (h : s.Inv frames) :
    (s.step decode .dispatch).Inv frames := by
  cases hpars : s.parsing with
  | false =>
    have heq : s.step decode .dispatch = s := by simp [LoopReader.step, hpars]
    rw [heq]
    exact h
  | true =>
    have hgone : ¬s.gone := fun hgone =>
      absurd (h.gone hgone).1 (by rw [hpars]; decide)
    obtain ⟨_, _, hmessage, hbs, hintake, heq⟩ | ⟨hlen, hcomp, heq⟩ :=
      h.dispatch_cases hval hpars
    · obtain ⟨hofs, hund⟩ := drop_of_drop_eq_encodeFrame hbs
      rw [heq]
      refine ⟨?_, hofs, fun hidle => absurd hidle (by simp [hpars]), fun h => absurd h hgone,
        (Channel.processMessage_of_isSome hmessage).2.trans h.closed⟩
      rw [LoopReader.undispatched, hund]
      exact hintake
    · rw [heq]
      exact ⟨h.intake, Nat.zero_le _, fun _ => ⟨rfl, hlen, hcomp⟩, fun h => absurd h hgone,
        h.closed⟩

theorem step_user_cases (e : ChannelEvent) : s.step decode (.user e) = s ∨
      (∀ data msg, e ≠ .message data msg) ∧
        s.step decode (.user e) = { s with channel := s.channel.step e } := by
  cases e with
  | message data msg => exact .inl rfl
  | submit | send | abandon | timeout | close => exact .inr ⟨by simp, rfl⟩

theorem of_reads {bytes : List UInt8}
    (h : ¬(!s.reads || bytes == [] || decide (kReadChunkSize < bytes.length)) = true) :
    s.parsing = false ∧ s.gone = false ∧ bytes.length ≤ kReadChunkSize := by
  simp only [Bool.or_eq_true, Bool.not_eq_true', beq_iff_eq, decide_eq_true_eq, not_or,
    Bool.not_eq_false, Nat.not_lt, LoopReader.reads, Bool.and_eq_true] at h
  exact ⟨h.1.1.1.1, h.1.1.1.2, h.2⟩

theorem Inv.step (hval : ValidFrames decode frames) (h : s.Inv frames) (e : LoopEvent)
    (hstr : s.Streams frames e) : (s.step decode e).Inv frames := by
  cases e with
  | read bytes =>
    unfold LoopReader.step
    dsimp only
    split
    · exact h
    rename_i hread
    obtain ⟨hpars, hgone, hlen⟩ := of_reads hread
    obtain ⟨hlim, hinv⟩ := h.read hpars hgone hlen hstr
    rw [if_neg (Nat.not_lt.mpr hlim)]
    exact hinv
  | eof =>
    unfold LoopReader.step
    dsimp only
    split
    next hread =>
      simp only [LoopReader.reads, Bool.and_eq_true, Bool.not_eq_true'] at hread
      exact ⟨h.intake, h.offset_le, h.idle, fun _ => ⟨hread.1.1, hstr⟩, h.closed⟩
    · exact h
  | readFails => exact hstr.elim
  | dispatch => exact h.dispatch hval
  | user e =>
    obtain heq | ⟨hmessage, heq⟩ := @step_user_cases decode s e
    · rw [heq]
      exact h
    have hcl : (s.channel.step e).closed = s.channel.closed :=
      Channel.closed_step_of_ne (fun hclose => by subst hclose; exact hstr) hmessage
    rw [heq]
    exact ⟨h.intake, h.offset_le, h.idle, h.gone, hcl.trans h.closed⟩

end LoopReader

/-! ### Nested calls and the thread dispatch the same -/

def Reader.StaysOpen (decode : List UInt8 → Option WorkerMessage) (frames : List (List UInt8))
    (s : Reader) (e : ReaderEvent) : Prop :=
  s.Streams frames e ∧ e ≠ .closeEnd ∧ (s.step decode e).recvBuf.length ≤ recvBufferMaxLen

instance (frames : List (List UInt8)) (s : Reader) : DecidablePred (s.Streams frames)
  | .write _ => inferInstanceAs (Decidable (_ <+: _))
  | .closeEnd => inferInstanceAs (Decidable (_ = _))
  | .readFails => .isFalse id
  | .user .close => .isFalse id
  | .call => .isTrue trivial
  | .read _ => .isTrue trivial
  | .dispatch => .isTrue trivial
  | .handled => .isTrue trivial
  | .user .submit => .isTrue trivial
  | .user (.send _) => .isTrue trivial
  | .user (.abandon _) => .isTrue trivial
  | .user (.message ..) => .isTrue trivial
  | .user (.timeout _) => .isTrue trivial

instance (decode : List UInt8 → Option WorkerMessage) (frames : List (List UInt8)) (s : Reader)
    (e : ReaderEvent) : Decidable (s.StaysOpen decode frames e) :=
  inferInstanceAs (Decidable (_ ∧ _ ∧ _))

namespace Reader

variable {decode : List UInt8 → Option WorkerMessage} {frames : List (List UInt8)} {s : Reader}

variable {e : ReaderEvent}

theorem Inv.gone_step (hval : ValidFrames decode frames) (h : s.Inv frames)
    (hstr : s.Streams frames e) (hread : ∀ n, e ≠ .read n) : (s.step decode e).gone = s.gone := by
  cases e with
  | write | handled =>
    unfold Reader.step
    dsimp only
    split <;> rfl
  | closeEnd => rfl
  | call =>
    unfold Reader.step
    dsimp only
    split
    · rfl
    split
    next hcl =>
      exact (h.closed hcl).symm
    · rfl
  | read n => exact absurd rfl (hread n)
  | readFails => exact hstr.elim
  | dispatch =>
    obtain heq | ⟨outermost, _, -, ⟨_, _, hmessage, -, -, heq⟩ | ⟨-, heq⟩⟩ :=
      h.dispatch_cases hval
    · rw [heq]
    · rw [heq, dispatchMessage_eq hmessage]
    · rw [heq]
      cases outermost <;> simp [Reader.finishDispatch, Reader.returns]
  | user e =>
    obtain heq | ⟨-, heq⟩ := @step_user_cases decode s e
    · rw [heq]
    · rw [heq]

theorem Inv.not_gone (hval : ValidFrames decode frames) (h : s.Inv frames)
    (hgone : s.gone = false) (heof : s.eof = false)
    (he : s.StaysOpen decode frames e) : (s.step decode e).gone = false := by
  by_cases hread : ∃ n, e = .read n
  · obtain ⟨n, rfl⟩ := hread
    have hlim := he.2.2
    obtain ⟨-, heq⟩ | ⟨_, _, _, ⟨hpipe, heq⟩ | ⟨hpipe, heq⟩⟩ :=
      @step_read_cases decode s n
    · rw [heq]
      exact hgone
    · rw [heq] at hlim ⊢
      split_ifs at hlim with hover
      · exact absurd hover (Nat.not_lt.mpr hlim)
      rw [if_neg hover]
      exact hgone
    · rw [heq, if_neg (by rw [heof]; decide)]
      unfold Reader.startDispatch
      split <;> exact hgone
  · rw [h.gone_step hval he.1 fun n hn => hread ⟨n, hn⟩]
    exact hgone

theorem eof_finishDispatch (outermost ok : Bool) : (s.finishDispatch outermost ok).eof = s.eof := by
  cases outermost <;> rfl

theorem eof_dispatchMessage (outermost : Bool) (message : List UInt8) :
    (s.dispatchMessage decode outermost message).eof = s.eof := by
  unfold dispatchMessage
  dsimp only
  split
  · exact eof_finishDispatch ..
  · rfl

theorem eof_step (he : e ≠ .closeEnd) : (s.step decode e).eof = s.eof := by
  cases e with
  | write | readFails | handled =>
    unfold step
    dsimp only
    split <;> rfl
  | closeEnd => exact absurd rfl he
  | call =>
    unfold step
    dsimp only
    split
    · rfl
    · split <;> rfl
  | read n =>
    obtain ⟨-, heq⟩ | ⟨-, -, -, ⟨-, heq⟩ | ⟨-, heq⟩⟩ := @step_read_cases decode s n
    · rw [heq]
    · rw [heq]
      split <;> rfl
    rw [heq]
    unfold startDispatch
    split
    · rfl
    · split <;> rfl
  | dispatch =>
    unfold step
    dsimp only
    split
    · split
      · exact eof_finishDispatch ..
      · exact eof_finishDispatch ..
      · exact eof_dispatchMessage ..
    · rfl
  | user e =>
    obtain heq | ⟨-, heq⟩ := @step_user_cases decode s e
    · rw [heq]
    · rw [heq]

end Reader

/-- **Each message is dispatched once, in order, as by `readLoop`.**  The worker writes the
messages `frames` in any pieces, `processAvailableData` is called any number of times, nested in
the handlers in any way, and the buffer stays within its limit.  Then the messages dispatched
are at any time a beginning of `frames`.  When no call is active they are those completely
received, and the same that the read thread of a threaded channel has dispatched when it has got
the same bytes, in any pieces, and is about to read on. -/
theorem reader_dispatches_complete_frames (decode : List UInt8 → Option WorkerMessage)
    (frames : List (List UInt8)) (hval : ValidFrames decode frames) (es : List ReaderEvent)
    (hmeet : StepsMeet (Reader.step · decode) (Reader.StaysOpen decode frames) {} es) :
    let s := runFrom (Reader.step · decode) {} es
    s.dispatched <+: frames ∧
      (s.calls = [] → Complete 4 frames s.received s.dispatched ∧
        ∀ es' : List LoopEvent,
          StepsMeet (LoopReader.step · decode) (LoopReader.Streams frames) {} es' →
          let t := runFrom (LoopReader.step · decode) {} es'
          t.parsing = false → t.received = s.received → t.dispatched = s.dispatched) := by
  obtain ⟨hreader, hgone, -⟩ := StepsMeet.inv
    (fun s : Reader => s.Inv frames ∧ s.gone = false ∧ s.eof = false)
    (fun s e h he => ⟨h.1.step hval e he.1, h.1.not_gone hval h.2.1 h.2.2 he,
      (eof_step he.2.1).trans h.2.2⟩) es {} hmeet
    ⟨Reader.Inv.init frames, rfl, rfl⟩
  refine ⟨hreader.intake.handed_isPrefix, fun hcall => ?_⟩
  have hcomp := hreader.complete hcall hgone
  refine ⟨hcomp, fun es' hmeet' hpars hsame => ?_⟩
  have hloop := StepsMeet.inv (LoopReader.Inv frames) (fun s e h he => h.step hval e he) es' {}
    hmeet' (LoopReader.Inv.init frames)
  have hcomp' := (hloop.idle hpars).2.2
  rw [hsame] at hcomp'
  exact hcomp'.unique hcomp

def nestedPump : List ReaderEvent :=
  [.write [1, 0, 0, 0, 7, 1, 0], .call, .read 100, .read 100, .dispatch,
    .write [0, 0, 8, 1, 0, 0, 0, 9], .call, .read 3, .read 100, .read 100, .dispatch, .dispatch,
    .dispatch, .handled, .dispatch]

def nestedPumpDecode (message : List UInt8) : Option WorkerMessage :=
  some (if message = [7] then .notification else .log)

theorem reader_dispatches_complete_frames_nestedPump :
    ValidFrames nestedPumpDecode [[7], [8], [9]] ∧
      StepsMeet (Reader.step · nestedPumpDecode)
        (Reader.StaysOpen nestedPumpDecode [[7], [8], [9]]) {} nestedPump ∧
      (runFrom (Reader.step · nestedPumpDecode) {} nestedPump).calls = [] ∧
      (runFrom (Reader.step · nestedPumpDecode) {} nestedPump).received.length = 15 ∧
      Complete 4 [[7], [8], [9]] (runFrom (Reader.step · nestedPumpDecode) {} nestedPump).received
        (runFrom (Reader.step · nestedPumpDecode) {} nestedPump).dispatched := by
  have hval : ValidFrames nestedPumpDecode [[7], [8], [9]] := by
    unfold ValidFrames
    decide
  have hmeet : StepsMeet (step · nestedPumpDecode)
      (Reader.StaysOpen nestedPumpDecode [[7], [8], [9]]) {} nestedPump := by
    decide
  have hcall : (runFrom (step · nestedPumpDecode) {} nestedPump).calls = [] := by decide
  exact ⟨hval, hmeet, hcall, by decide,
    ((reader_dispatches_complete_frames nestedPumpDecode _ hval nestedPump hmeet).2 hcall).1⟩

end MediasoupCpp
