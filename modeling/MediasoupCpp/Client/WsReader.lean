import Mathlib.Data.List.Infix
import MediasoupCpp.Client.WsFrame
import MediasoupCpp.Lib.Run

/-!
# Texts the client reads

`connect` receives until it has the end of the HTTP header, and keeps nothing of what it has
received; then the reader loop calls `recvText` again and again, each time for a tenth of a second
at most.  A call of `recvText` puts the fragments of a message together in its local variables.

Main results: `wsReader_loses_text`, `wsReader_obtains_texts`.

Source: `client/WsClient.cpp`.
-/

namespace MediasoupCpp

open List Runs

/-! ### The reader -/

inductive WsReader.Phase
  | connecting (response : List UInt8)
  | failed
  /-- In `recvText`, with its local variables. -/
  | reading (fragmentedText : List UInt8) (awaitingContinuation : Bool)
  | closed
  deriving DecidableEq

/-- A client, what its server sends that was not received yet, and the texts the reader loop
has got. -/
structure WsReader where
  stream : List UInt8
  phase : WsReader.Phase := .connecting []
  texts : List (List UInt8) := []
  deriving DecidableEq

/-- How waiting for a frame ends.  A ping is answered with a pong, which may fail to be sent. -/
inductive PollReadStatus
  | ready (pongSent : Bool)
  | timeout
  | closed
  deriving DecidableEq

inductive WsReaderEvent
  /-- `recv` has `n` bytes for `connect`; none, if the connection has ended. -/
  | recv (n : ℕ)
  | poll (status : PollReadStatus)
  deriving DecidableEq

namespace WsReader

def headerEnd : List UInt8 := [13, 10, 13, 10]

def switchingProtocols : List UInt8 := [49, 48, 49]

variable (c : WsReader)

def chunk (n : ℕ) : List UInt8 := c.stream.take (min n 4096)

def recvResponse (response : List UInt8) (n : ℕ) : WsReader :=
  let response := response ++ c.chunk n
  let c := { c with stream := c.stream.drop (min n 4096) }
  if n = 0 then { c with phase := .failed }
  else if 16384 < response.length then { c with phase := .failed }
  else if headerEnd <:+: response then
    if switchingProtocols <:+: response then { c with phase := .reading [] false }
    else { c with phase := .failed }
  else { c with phase := .connecting response }

def gotText (text : List UInt8) : WsReader :=
  { c with texts := c.texts ++ [text], phase := .reading [] false }

def handleFrame (fragmentedText : List UInt8) (awaitingContinuation pongSent : Bool)
    (frame : WsFrame) : WsReader :=
  if frame.opcode = kWsOpcodeClose then { c with phase := .closed }
  else if frame.opcode = kWsOpcodePing then
    if pongSent then { c with phase := .reading fragmentedText awaitingContinuation }
    else { c with phase := .closed }
  else if frame.opcode = kWsOpcodePong then
    { c with phase := .reading fragmentedText awaitingContinuation }
  else if frame.opcode = kWsOpcodeText then
    if awaitingContinuation then { c with phase := .closed }
    else if frame.fin then c.gotText frame.payload
    else { c with phase := .reading frame.payload true }
  else if frame.opcode = kWsOpcodeContinuation then
    if awaitingContinuation = false then { c with phase := .closed }
    else if kMaxIncomingFrameBytes < fragmentedText.length + frame.payload.length then
      { c with phase := .closed }
    else if frame.fin then c.gotText (fragmentedText ++ frame.payload)
    else { c with phase := .reading (fragmentedText ++ frame.payload) true }
  else { c with phase := .reading fragmentedText awaitingContinuation }

def recvFrame (fragmentedText : List UInt8) (awaitingContinuation pongSent : Bool) : WsReader :=
  match receiveWsFrame c.stream with
  | none => { c with phase := .closed }
  | some (frame, stream) =>
    { c with stream }.handleFrame fragmentedText awaitingContinuation pongSent frame

def step : WsReaderEvent → WsReader
  | .recv n =>
    match c.phase with
    | .connecting response => c.recvResponse response n
    | .failed | .reading _ _ | .closed => c
  | .poll status =>
    match c.phase with
    | .reading fragmentedText awaitingContinuation =>
      match status with
      -- the call of `recvText` returns, and the reader loop calls it again
      | .timeout => { c with phase := .reading [] false }
      | .closed => { c with phase := .closed }
      | .ready pongSent =>
        if c.stream = [] then c else c.recvFrame fragmentedText awaitingContinuation pongSent
    | .connecting _ | .failed | .closed => c

end WsReader

/-! ### What the server sends -/

/-- The header of a server that accepts the upgrade: it ends where it says so for the first
time. -/
structure UpgradeHeader where
  bytes : List UInt8
  ends : WsReader.headerEnd <:+ bytes
  first : ¬WsReader.headerEnd <:+: bytes.dropLast
  status : WsReader.switchingProtocols <:+: bytes
  length_le : bytes.length ≤ 16384

theorem UpgradeHeader.headerEnd_of_length_lt (header : UpgradeHeader)
    {response : List UInt8} (hpre : response <+: header.bytes)
    (hlt : response.length < header.bytes.length) : ¬WsReader.headerEnd <:+: response := by
  intro hend
  have hdrop : response <+: header.bytes.dropLast := by
    refine prefix_of_prefix_length_le hpre (List.dropLast_prefix _) ?_
    rw [length_dropLast]
    omega
  exact header.first (hend.trans hdrop.isInfix)

/-- The frames `fs`, sent when the beginning `pre` of a message was sent, carry the messages
`ms`. -/
inductive Carries : Option (List UInt8) → List WsFrame → List (List UInt8) → Prop
  | nil : Carries none [] []
  | control {pre : Option (List UInt8)} {f : WsFrame} {fs : List WsFrame}
      {ms : List (List UInt8)} (hf : f.WellFormed)
      (hop : f.opcode = kWsOpcodePing ∨ f.opcode = kWsOpcodePong) (h : Carries pre fs ms) :
      Carries pre (f :: fs) ms
  | text {f : WsFrame} {fs : List WsFrame} {ms : List (List UInt8)} (hf : f.WellFormed)
      (hop : f.opcode = kWsOpcodeText) (hfin : f.fin = true) (h : Carries none fs ms) :
      Carries none (f :: fs) (f.payload :: ms)
  | first {f : WsFrame} {fs : List WsFrame} {ms : List (List UInt8)} (hf : f.WellFormed)
      (hop : f.opcode = kWsOpcodeText) (hfin : f.fin = false)
      (h : Carries (some f.payload) fs ms) : Carries none (f :: fs) ms
  | more {pre : List UInt8} {f : WsFrame} {fs : List WsFrame} {ms : List (List UInt8)}
      (hf : f.WellFormed) (hop : f.opcode = kWsOpcodeContinuation) (hfin : f.fin = false)
      (hsize : pre.length + f.payload.length ≤ kMaxIncomingFrameBytes)
      (h : Carries (some (pre ++ f.payload)) fs ms) : Carries (some pre) (f :: fs) ms
  | last {pre : List UInt8} {f : WsFrame} {fs : List WsFrame} {ms : List (List UInt8)}
      (hf : f.WellFormed) (hop : f.opcode = kWsOpcodeContinuation) (hfin : f.fin = true)
      (hsize : pre.length + f.payload.length ≤ kMaxIncomingFrameBytes) (h : Carries none fs ms) :
      Carries (some pre) (f :: fs) ((pre ++ f.payload) :: ms)

theorem Carries.wellFormed {pre : Option (List UInt8)} {f : WsFrame} {fs : List WsFrame}
    {ms : List (List UInt8)} (h : Carries pre (f :: fs) ms) : f.WellFormed := by
  cases h <;> assumption

def encodeFrames (fs : List WsFrame) : List UInt8 := fs.flatMap WsFrame.encode

namespace WsReader

def start (header : UpgradeHeader) (fs : List WsFrame) : WsReader where
  stream := header.bytes ++ encodeFrames fs

def Up : WsReaderEvent → Prop
  | .recv n => 0 < n
  | .poll status => status = .timeout ∨ status = .ready true

def InTime (header : UpgradeHeader) (c : WsReader) : WsReaderEvent → Prop
  | .recv n =>
    match c.phase with
    | .connecting response => response.length + (c.chunk n).length ≤ header.bytes.length
    | .failed | .reading _ _ | .closed => True
  | .poll status =>
    match c.phase with
    | .reading _ awaitingContinuation => status = .timeout → awaitingContinuation = false
    | .connecting _ | .failed | .closed => True

instance : DecidablePred Up
  | .recv n => inferInstanceAs (Decidable (0 < n))
  | .poll status => inferInstanceAs (Decidable (status = .timeout ∨ status = .ready true))

instance (header : UpgradeHeader) (c : WsReader) : DecidablePred (InTime header c)
  | .recv n =>
    match c with
    | ⟨stream, .connecting response, texts⟩ =>
      inferInstanceAs (Decidable (response.length
        + (chunk ⟨stream, .connecting response, texts⟩ n).length ≤ header.bytes.length))
    | ⟨_, .failed, _⟩ | ⟨_, .reading _ _, _⟩ | ⟨_, .closed, _⟩ => .isTrue trivial
  | .poll status =>
    match c with
    | ⟨_, .reading _ awaitingContinuation, _⟩ =>
      inferInstanceAs (Decidable (status = .timeout → awaitingContinuation = false))
    | ⟨_, .connecting _, _⟩ | ⟨_, .failed, _⟩ | ⟨_, .closed, _⟩ => .isTrue trivial

/-! ### What is to come -/

def begun (fragmentedText : List UInt8) (awaitingContinuation : Bool) : Option (List UInt8) :=
  if awaitingContinuation then some fragmentedText else none

def Inv (header : UpgradeHeader) (msgs : List (List UInt8)) (c : WsReader) : Prop :=
  match c.phase with
  | .connecting response =>
    ∃ fs, response ++ c.stream = header.bytes ++ encodeFrames fs ∧
      response.length < header.bytes.length ∧ c.texts = [] ∧ Carries none fs msgs
  | .reading fragmentedText awaitingContinuation =>
    ∃ fs ms, c.stream = encodeFrames fs ∧ c.texts ++ ms = msgs ∧
      Carries (begun fragmentedText awaitingContinuation) fs ms
  | .failed | .closed => False

variable {header : UpgradeHeader} {msgs : List (List UInt8)} {c : WsReader}

variable {fragmentedText : List UInt8} {fs : List WsFrame} {f : WsFrame}
  {awaitingContinuation : Bool} {ms : List (List UInt8)}

theorem inv_reading {stream : List UInt8}
    {texts : List (List UInt8)} (hstr : stream = encodeFrames fs) (htxt : texts ++ ms = msgs)
    (h : Carries (begun fragmentedText awaitingContinuation) fs ms) :
    Inv header msgs ⟨stream, .reading fragmentedText awaitingContinuation, texts⟩ :=
  ⟨fs, ms, hstr, htxt, h⟩

theorem handleFrame_text (hop : f.opcode = kWsOpcodeText) (fragmentedText : List UInt8) :
    c.handleFrame fragmentedText false true f =
      if f.fin then c.gotText f.payload else { c with phase := .reading f.payload true } := by
  rw [handleFrame, hop, if_neg (by decide), if_neg (by decide), if_neg (by decide), if_pos rfl,
    if_neg Bool.false_ne_true]

theorem handleFrame_continuation (hop : f.opcode = kWsOpcodeContinuation)
    (hsize : fragmentedText.length + f.payload.length ≤ kMaxIncomingFrameBytes) :
    c.handleFrame fragmentedText true true f = if f.fin then c.gotText (fragmentedText ++ f.payload)
      else { c with phase := .reading (fragmentedText ++ f.payload) true } := by
  rw [handleFrame, hop, if_neg (by decide), if_neg (by decide), if_neg (by decide),
    if_neg (by decide), if_pos rfl, if_neg (by decide), if_neg (Nat.not_lt.mpr hsize)]

theorem inv_handleFrame (h : Carries (begun fragmentedText awaitingContinuation) (f :: fs) ms)
    (hstr : c.stream = encodeFrames fs) (htxt : c.texts ++ ms = msgs) :
    Inv header msgs (c.handleFrame fragmentedText awaitingContinuation true f) := by
  generalize hpre : begun fragmentedText awaitingContinuation = pre at h
  cases h with
  | control hf hop h =>
    subst hpre
    rcases hop with hop | hop
    · rw [handleFrame, hop, if_neg (by decide), if_pos rfl, if_pos rfl]
      exact inv_reading hstr htxt h
    · rw [handleFrame, hop, if_neg (by decide), if_neg (by decide), if_pos rfl]
      exact inv_reading hstr htxt h
  | text hf hop hfin h =>
    cases awaitingContinuation with
    | true => cases hpre
    | false =>
      rw [handleFrame_text hop, if_pos hfin]
      exact inv_reading hstr ((append_assoc _ _ _).trans htxt) h
  | first hf hop hfin h =>
    cases awaitingContinuation with
    | true => cases hpre
    | false =>
      rw [handleFrame_text hop, hfin, if_neg Bool.false_ne_true]
      exact inv_reading hstr htxt h
  | more hf hop hfin hsize h =>
    cases awaitingContinuation with
    | false => cases hpre
    | true =>
      cases hpre
      rw [handleFrame_continuation hop hsize, hfin, if_neg Bool.false_ne_true]
      exact inv_reading hstr htxt h
  | last hf hop hfin hsize h =>
    cases awaitingContinuation with
    | false => cases hpre
    | true =>
      cases hpre
      rw [handleFrame_continuation hop hsize, if_pos hfin]
      exact inv_reading hstr ((append_assoc _ _ _).trans htxt) h

theorem stream_handleFrame (fragmentedText : List UInt8) (awaitingContinuation pongSent : Bool)
    (f : WsFrame) :
    (c.handleFrame fragmentedText awaitingContinuation pongSent f).stream = c.stream := by
  unfold handleFrame
  split_ifs <;> rfl

theorem inv_recvFrame (h : Carries (begun fragmentedText awaitingContinuation) fs ms)
    (hstr : c.stream = encodeFrames fs) (htxt : c.texts ++ ms = msgs) (hne : c.stream ≠ []) :
    Inv header msgs (c.recvFrame fragmentedText awaitingContinuation true) ∧
      (c.recvFrame fragmentedText awaitingContinuation true).stream.length < c.stream.length := by
  match fs with
  | [] => exact absurd hstr hne
  | f :: fs =>
    have henc : c.stream = f.encode ++ encodeFrames fs := hstr
    have hrec : receiveWsFrame c.stream = some (f, encodeFrames fs) := by
      rw [henc, receiveWsFrame_encode h.wellFormed]
    unfold recvFrame
    rw [hrec]
    refine ⟨inv_handleFrame h rfl htxt, ?_⟩
    rw [stream_handleFrame, henc, length_append]
    exact Nat.lt_add_of_pos_left (Nat.succ_pos _)

theorem inv_recvResponse {response : List UInt8}
    (hstr : response ++ c.stream = header.bytes ++ encodeFrames fs)
    (htxt : c.texts = []) (h : Carries none fs msgs) {n : ℕ} (hn : 0 < n)
    (htime : response.length + (c.chunk n).length ≤ header.bytes.length) :
    Inv header msgs (c.recvResponse response n) := by
  have hspl : (response ++ c.chunk n) ++ c.stream.drop (min n 4096) =
      header.bytes ++ encodeFrames fs := by
    rw [append_assoc, chunk, take_append_drop, hstr]
  have hlen : (response ++ c.chunk n).length ≤ header.bytes.length := by
    rw [length_append]
    exact htime
  have hpre : response ++ c.chunk n <+: header.bytes :=
    prefix_of_prefix_length_le ⟨_, hspl⟩ (prefix_append _ _) hlen
  have hsize : ¬16384 < (response ++ c.chunk n).length :=
    Nat.not_lt.mpr (hlen.trans header.length_le)
  unfold recvResponse
  rw [if_neg (Nat.ne_of_gt hn), if_neg hsize]
  rcases Nat.lt_or_eq_of_le hlen with hlt | heq
  · rw [if_neg (header.headerEnd_of_length_lt hpre hlt)]
    exact ⟨fs, hspl, hlt, htxt, h⟩
  -- this was the last of the header
  have hall : response ++ c.chunk n = header.bytes := hpre.eq_of_length heq
  rw [hall] at hspl ⊢
  rw [if_pos header.ends.isInfix, if_pos header.status]
  exact inv_reading (append_cancel_left hspl) (by rw [htxt, nil_append]) h

theorem Inv.step (h : Inv header msgs c) {e : WsReaderEvent} (hup : Up e)
    (htime : InTime header c e) : Inv header msgs (c.step e) := by
  obtain ⟨_, phase, _⟩ := c
  match phase, e with
  | .connecting response, .recv n =>
    obtain ⟨fs, hstr, -, htxt, hcar⟩ := h
    exact inv_recvResponse hstr htxt hcar hup htime
  | .reading fragmentedText awaitingContinuation, .poll .timeout =>
    -- nothing was begun, so nothing is lost
    obtain ⟨fs, ms, hstr, htxt, hcar⟩ := h
    cases htime rfl
    exact inv_reading hstr htxt hcar
  | .reading fragmentedText awaitingContinuation, .poll (.ready pongSent) =>
    obtain rfl : pongSent := by simpa [Up] using hup
    rw [WsReader.step]
    dsimp only
    split
    · exact h
    rename_i hne
    obtain ⟨fs, ms, hstr, htxt, hcar⟩ := h
    exact (inv_recvFrame hcar hstr htxt hne).1
  | .reading _ _, .poll .closed => simp [Up] at hup
  | .connecting _, .poll _ => exact h
  | .reading _ _, .recv _ => exact h

theorem inv_start (h : Carries none fs msgs) : Inv header msgs (start header fs) := by
  refine ⟨fs, rfl, ?_, rfl, h⟩
  exact length_pos_iff.mpr fun hnil => absurd (hnil ▸ header.ends) (by decide)

theorem Inv.exists_step (h : Inv header msgs c) (hne : c.stream ≠ []) :
    ∃ e, (Up e ∧ InTime header c e) ∧ (c.step e).stream.length < c.stream.length := by
  obtain ⟨stream, phase, texts⟩ := c
  match phase with
  | .connecting response =>
    obtain ⟨fs, -, hlt, -, -⟩ := h
    have hlen := length_pos_iff.mpr hne
    refine ⟨.recv 1, ⟨Nat.one_pos, ?_⟩, ?_⟩
    · have hch : (chunk ⟨stream, .connecting response, texts⟩ 1).length ≤ 1 := by
        rw [chunk, length_take]
        omega
      exact (Nat.add_le_add_left hch _).trans hlt
    have hdrop : (WsReader.step ⟨stream, .connecting response, texts⟩ (.recv 1)).stream =
        stream.drop 1 := by
      unfold WsReader.step recvResponse
      dsimp only
      split_ifs <;> rfl
    rw [hdrop, length_drop]
    dsimp only at hlen ⊢
    omega
  | .reading fragmentedText awaitingContinuation =>
    obtain ⟨fs, _, hstr, htxt, hcar⟩ := h
    refine ⟨.poll (.ready true), ⟨.inr rfl, nofun⟩, ?_⟩
    rw [WsReader.step]
    dsimp only
    rw [if_neg hne]
    exact (@inv_recvFrame header msgs _ _ _ _ _ hcar hstr htxt hne).2

theorem Inv.texts_eq (h : Inv header msgs c) (hnil : c.stream = []) : c.texts = msgs := by
  obtain ⟨stream, phase, texts⟩ := c
  cases hnil
  match phase with
  | .connecting response =>
    obtain ⟨fs, hstr, _, -⟩ := h
    have hlen := congrArg List.length hstr
    rw [length_append, length_append, length_nil] at hlen
    omega
  | .reading fragmentedText awaitingContinuation =>
    obtain ⟨fs, _, hstr, htxt, hcar⟩ := h
    match fs with
    | [] =>
      generalize begun fragmentedText awaitingContinuation = pre at hcar
      cases hcar
      exact (append_nil _).symm.trans htxt
    | f :: fs => cases hstr

end WsReader

open WsReader

/-- The reader loop gets the messages in order, and all of them when everything was received;
what is still to come can be received. -/
structure Obtains (header : UpgradeHeader) (msgs : List (List UInt8)) (c : WsReader) : Prop where
  isUp : c.phase ≠ .failed ∧ c.phase ≠ .closed
  inOrder : c.texts <+: msgs
  all : c.stream = [] → c.texts = msgs
  goesOn : ∃ es, StepsMeet step (fun c e => Up e ∧ InTime header c e) c es ∧
    (runFrom step c es).texts = msgs

theorem WsReader.Inv.obtains {header : UpgradeHeader} {msgs : List (List UInt8)} {c : WsReader}
    (h : Inv header msgs c) : Obtains header msgs c where
  isUp := by
    constructor <;>
    · intro hph
      unfold Inv at h
      rw [hph] at h
      exact h
  inOrder := by
    obtain ⟨stream, phase, texts⟩ := c
    match phase with
    | .connecting _ =>
      obtain ⟨_, -, -, htxt, -⟩ := h
      exact htxt ▸ nil_prefix
    | .reading _ _ =>
      obtain ⟨_, _, -, htxt, -⟩ := h
      exact ⟨_, htxt⟩
  all := h.texts_eq
  goesOn := by
    refine @exists_runFrom_of_lt _ _ WsReader.step _ (fun c => c.texts = msgs) (Inv header msgs)
      (fun c => c.stream.length) (fun c hinv hgoal => ?_) c h
    obtain ⟨e, he, hlt⟩ := hinv.exists_step fun hnil => hgoal (hinv.texts_eq hnil)
    exact ⟨e, he, hinv.step he.1 he.2, hlt⟩

def shortHeader : UpgradeHeader where
  bytes := [72, 84, 84, 80, 47, 49, 46, 49, 32] ++ switchingProtocols ++ headerEnd
  ends := by decide
  first := by decide
  status := by decide
  length_le := by decide

/-- **A message can get lost.**  A text comes in together with the header: `connect` takes it and
nothing is left of it.  A text comes in two fragments, with a pause between them: the reader loop
drops the first one, and gives up the connection when the second one comes. -/
theorem wsReader_loses_text :
    (Carries none [⟨kWsOpcodeText, true, [104, 105]⟩] [[104, 105]] ∧
      runFrom step (start shortHeader [⟨kWsOpcodeText, true, [104, 105]⟩]) [.recv 4096] =
        ⟨[], .reading [] false, []⟩) ∧
      Carries none [⟨kWsOpcodeText, false, [104]⟩, ⟨kWsOpcodeContinuation, true, [105]⟩]
        [[104, 105]] ∧
      runFrom step
        (start shortHeader [⟨kWsOpcodeText, false, [104]⟩, ⟨kWsOpcodeContinuation, true, [105]⟩])
        [.recv 16, .poll (.ready true), .poll .timeout, .poll (.ready true)] =
          ⟨[], .closed, []⟩ := by
  have hsmall : ∀ (opcode : UInt8) (fin : Bool) (payload : List UInt8), opcode < 16 →
      payload.length ≤ 125 → ¬isControlFrame opcode → WsFrame.WellFormed ⟨opcode, fin, payload⟩ :=
    fun _ _ _ hopcode hsize hnot =>
      ⟨hopcode, hsize.trans (by decide), fun h => absurd h hnot⟩
  refine ⟨⟨.text (hsmall _ _ _ ?_ ?_ ?_) rfl rfl .nil, ?_⟩, .first (hsmall _ _ _ ?_ ?_ ?_) rfl rfl
      (.last (hsmall _ _ _ ?_ ?_ ?_) rfl rfl (by decide) .nil), ?_⟩ <;> decide

/-- **The reader loop gets the messages**, in every run in which no `recv` of `connect` takes more
than the header and the time of `recvText` is never up within a message. -/
theorem wsReader_obtains_texts (header : UpgradeHeader) (fs : List WsFrame)
    (msgs : List (List UInt8)) (hcarries : Carries none fs msgs) (es : List WsReaderEvent)
    (hup : ∀ e ∈ es, Up e) (htime : StepsMeet step (InTime header) (start header fs) es) :
    Obtains header msgs (runFrom step (start header fs) es) := by
  have hmeet := (stepsMeet_of_forall hup (start header fs)).and htime
  exact (hmeet.inv (Inv header msgs) (fun _ _ hinv he => hinv.step he.1 he.2) es _
    (inv_start hcarries)).obtains

/-- A message in two fragments with a ping between them, after a pause. -/
theorem wsReader_obtains_texts_pingBetween :
    ∃ (fs : List WsFrame) (es : List WsReaderEvent),
      StepsMeet step (InTime shortHeader) (start shortHeader fs) es ∧
        (runFrom step (start shortHeader fs) es).stream = [] ∧
        (runFrom step (start shortHeader fs) es).texts = [[104, 105]] := by
  let fs : List WsFrame := [⟨kWsOpcodeText, false, [104]⟩, ⟨kWsOpcodePing, true, [1]⟩,
    ⟨kWsOpcodeContinuation, true, [105]⟩]
  let es : List WsReaderEvent := [.recv 3, .recv 13, .poll .timeout, .poll (.ready true),
    .poll (.ready true), .poll (.ready true)]
  have hcar : Carries none fs [[104, 105]] :=
    .first ⟨by decide, by decide, by decide⟩ rfl rfl
      (.control ⟨by decide, by decide, by decide⟩ (.inl rfl)
        (.last ⟨by decide, by decide, by decide⟩ rfl rfl (by decide) .nil))
  have htime : StepsMeet step (InTime shortHeader) (start shortHeader fs) es := by decide
  have hnil : (runFrom step (start shortHeader fs) es).stream = [] := by decide
  exact ⟨fs, es, htime, hnil,
    (wsReader_obtains_texts shortHeader fs _ hcar es (by decide) htime).all hnil⟩

end MediasoupCpp
