import MediasoupCpp.Lib.Bytes

/-!
# WebSocket frames of the client

A frame begins with two bytes, for larger payloads with two or eight more that hold the size, and
with a mask if it has one.  The receiver waits for all the bytes of a frame.  The connection is
either the list of the bytes that are still to come or the list of the pieces they come in.

Main results: `receiveWsFrame_encode`, `receiveFrame_sendClientFrame`.

Source: `client/WsClient.cpp`.
-/

namespace MediasoupCpp

open Option

def kWsOpcodeContinuation : UInt8 := 0x0

def kWsOpcodeText : UInt8 := 0x1

def kWsOpcodeClose : UInt8 := 0x8

def kWsOpcodePing : UInt8 := 0x9

def kWsOpcodePong : UInt8 := 0xA

def kMaxIncomingFrameBytes : ℕ := 4 * 1024 * 1024

structure WsFrame where
  opcode : UInt8
  fin : Bool
  payload : List UInt8
  deriving DecidableEq

/-! ### The receiver -/

def recvAll (n : ℕ) (stream : List UInt8) : Option (List UInt8 × List UInt8) :=
  if n ≤ stream.length then some (stream.take n, stream.drop n) else none

/-- The loop of `recvAll` over the pieces a connection delivers: a call of `recv` gets one of them,
or what was asked for if the piece is longer.  An empty piece is a call that was interrupted. -/
def recvPieces : ℕ → List (List UInt8) → Option (List UInt8 × List (List UInt8))
  | 0, pieces => some ([], pieces)
  | _ + 1, [] => none
  | len + 1, piece :: pieces =>
    if len + 1 ≤ piece.length then some (piece.take (len + 1), piece.drop (len + 1) :: pieces)
    else (recvPieces (len + 1 - piece.length) pieces).map fun (bytes, pieces) =>
      (piece ++ bytes, pieces)

section Receiver

variable {σ : Type} (recv : ℕ → σ → Option (List UInt8 × σ))

def recvPayloadSize (size : UInt8) (stream : σ) : Option (ℕ × σ) :=
  if size = 126 then
    (recv 2 stream).map fun (ext, stream) =>
      ((ext.getD 0 0).toNat <<< 8 ||| (ext.getD 1 0).toNat, stream)
  else if size = 127 then
    (recv 8 stream).map fun (ext, stream) =>
      (ext.foldl (fun payloadSize byte => payloadSize <<< 8 ||| byte.toNat) 0, stream)
  else some (size.toNat, stream)

def isControlFrame (opcode : UInt8) : Prop :=
  opcode = kWsOpcodeClose ∨ opcode = kWsOpcodePing ∨ opcode = kWsOpcodePong

instance (opcode : UInt8) : Decidable (isControlFrame opcode) := inferInstanceAs (Decidable (_ ∨ _))

def recvPayload (masked : Bool) (payloadSize : ℕ) (stream : σ) : Option (List UInt8 × σ) :=
  (if masked then recv 4 stream else some ([0, 0, 0, 0], stream)).bind fun (mask, stream) =>
    (recv payloadSize stream).map fun (payload, stream) =>
      (if masked then payload.mapIdx fun i b => b ^^^ mask.getD (i % 4) 0 else payload, stream)

def receiveFrame (stream : σ) : Option (WsFrame × σ) :=
  (recv 2 stream).bind fun (hdr, stream) =>
    let fin := decide (hdr.getD 0 0 &&& 0x80 ≠ 0)
    let opcode := hdr.getD 0 0 &&& 0x0F
    let masked := decide (hdr.getD 1 0 &&& 0x80 ≠ 0)
    (recvPayloadSize recv (hdr.getD 1 0 &&& 0x7F) stream).bind fun (payloadSize, stream) =>
      if isControlFrame opcode ∧ (fin = false ∨ 125 < payloadSize) then none
      else if kMaxIncomingFrameBytes < payloadSize then none
      else
        (recvPayload recv masked payloadSize stream).map fun (payload, stream) =>
          ({ opcode, fin, payload }, stream)

end Receiver

def receiveWsFrame : List UInt8 → Option (WsFrame × List UInt8) := receiveFrame recvAll

/-! ### Frames of a server -/

structure WsFrame.WellFormed (f : WsFrame) : Prop where
  opcode_lt : f.opcode < 16
  size_le : f.payload.length ≤ kMaxIncomingFrameBytes
  control : isControlFrame f.opcode → f.fin = true ∧ f.payload.length ≤ 125

def encodePayloadSize (size : ℕ) : List UInt8 :=
  if size < 126 then [UInt8.ofNat size]
  else if size < 65536 then 126 :: Bytes.toBe 2 size
  else 127 :: Bytes.toBe 8 size

def WsFrame.encode (f : WsFrame) : List UInt8 :=
  ((if f.fin then 0x80 else 0x00) ||| f.opcode) ::
    (encodePayloadSize f.payload.length ++ f.payload)

theorem fin_or_opcode : ∀ (opcode : UInt8) (fin : Bool), opcode < 16 →
    decide (((if fin then 0x80 else 0x00) ||| opcode) &&& 0x80 ≠ 0) = fin ∧
      ((if fin then 0x80 else 0x00) ||| opcode) &&& 0x0F = opcode := by
  decide +kernel

theorem size_and : ∀ b : UInt8, b < 128 → b &&& 0x80 = 0 ∧ b &&& 0x7F = b := by
  decide +kernel

theorem recvAll_append {n : ℕ} {bytes : List UInt8} (h : bytes.length = n) (rest : List UInt8) :
    recvAll n (bytes ++ rest) = some (bytes, rest) := by
  subst h
  rw [recvAll, if_pos (by simp), List.take_left, List.drop_left]

theorem exists_encodePayloadSize {size : ℕ} (h : size ≤ kMaxIncomingFrameBytes) :
    ∃ (b : UInt8) (ext : List UInt8), encodePayloadSize size = b :: ext ∧ b < 128 ∧
      ∀ rest, recvPayloadSize recvAll b (ext ++ rest) = some (size, rest) := by
  rw [encodePayloadSize]
  split
  · -- the second byte is the size
    rename_i hsmall
    have hnat : (UInt8.ofNat size).toNat = size := by
      rw [UInt8.toNat_ofNat']
      omega
    have hne : ∀ n : UInt8, 126 ≤ n.toNat → UInt8.ofNat size ≠ n := by
      rintro n _ rfl
      omega
    have hlt : size < 128 := by omega
    refine ⟨_, [], rfl, UInt8.lt_iff_toNat_lt.mpr (hnat.trans_lt hlt), fun rest => ?_⟩
    rw [recvPayloadSize, if_neg (hne 126 (by decide)), if_neg (hne 127 (by decide)), hnat]
    rfl
  · split
    next hmedium =>
      refine ⟨126, _, rfl, by decide, fun rest => ?_⟩
      have hread : Bytes.ofBe (Bytes.toBe 2 size) = size := Bytes.ofBe_toBe hmedium
      rw [← Bytes.foldl_or_eq_ofBe] at hread
      refine congrArg (fun n => some (n, rest)) (Eq.trans ?_ hread)
      -- the loop over two bytes
      change _ = (0 <<< 8 ||| (UInt8.ofNat (size / 256)).toNat) <<< 8 ||| (UInt8.ofNat size).toNat
      rw [Nat.zero_shiftLeft, Nat.zero_or]
      rfl
    · refine ⟨127, _, rfl, by decide, fun rest => ?_⟩
      have hlt : size < 256 ^ 8 := Nat.lt_of_le_of_lt h (by decide)
      rw [recvPayloadSize, if_neg (by decide), if_pos rfl,
        recvAll_append (Bytes.length_toBe _ _), map_some]
      dsimp only
      rw [Bytes.foldl_or_eq_ofBe, Bytes.ofBe_toBe hlt]

theorem receiveFrame_bytes {a b c : UInt8} {ext : List UInt8} {size : ℕ} (hc : b &&& 0x7F = c)
    (hrecv : ∀ rest, recvPayloadSize recvAll c (ext ++ rest) = some (size, rest))
    (hcontrol : isControlFrame (a &&& 0x0F) → decide (a &&& 0x80 ≠ 0) = true ∧ size ≤ 125)
    (hsize : size ≤ kMaxIncomingFrameBytes) (rest : List UInt8) :
    receiveFrame recvAll (a :: b :: (ext ++ rest)) =
      (recvPayload recvAll (decide (b &&& 0x80 ≠ 0)) size rest).map fun (payload, stream) =>
        (⟨a &&& 0x0F, decide (a &&& 0x80 ≠ 0), payload⟩, stream) := by
  have hok : ¬(isControlFrame (a &&& 0x0F) ∧ (decide (a &&& 0x80 ≠ 0) = false ∨ 125 < size)) := by
    rintro ⟨hop, hbad⟩
    obtain ⟨hlast, _⟩ := hcontrol hop
    rcases hbad with hnot | _
    · rw [hlast] at hnot
      cases hnot
    · omega
  have hfst : [a, b].getD 0 0 = a ∧ [a, b].getD 1 0 = b := ⟨rfl, rfl⟩
  rw [receiveFrame, show a :: b :: (ext ++ rest) = [a, b] ++ (ext ++ rest) from rfl,
    recvAll_append (Eq.refl 2), bind_some]
  dsimp only
  rw [hfst.1, hfst.2, hc, hrecv, bind_some]
  rw [if_neg hok, if_neg (Nat.not_lt.mpr hsize)]

theorem receiveWsFrame_encode {f : WsFrame} (hf : f.WellFormed) (rest : List UInt8) :
    receiveWsFrame (f.encode ++ rest) = some (f, rest) := by
  obtain ⟨b, _, hsize, hb, hrecv⟩ := exists_encodePayloadSize hf.size_le
  obtain ⟨hfin, hop⟩ := fin_or_opcode f.opcode f.fin hf.opcode_lt
  obtain ⟨hmask, hseven⟩ := size_and b hb
  rw [receiveWsFrame, WsFrame.encode, hsize, List.cons_append, List.cons_append, List.cons_append,
    List.append_assoc, receiveFrame_bytes hseven hrecv (by rw [hop, hfin]; exact hf.control)
      hf.size_le, hfin, hop, decide_eq_false (not_not_intro hmask), recvPayload,
    if_neg Bool.false_ne_true, bind_some]
  dsimp only
  rw [recvAll_append rfl]
  rfl

/-! ### Frames of the client -/

/-- The bytes handed to `sendAll`. -/
def sendClientFrame (opcode : UInt8) (payload : List UInt8) (maskKey : Vector UInt8 4) :
    List UInt8 :=
  (0x80 ||| (opcode &&& 0x0F)) ::
    ((encodePayloadSize payload.length).modifyHead (0x80 ||| ·) ++ (maskKey.toList ++
      payload.mapIdx fun i b => b ^^^ maskKey.toList.getD (i % 4) 0))

theorem client_bytes : ∀ b : UInt8, (decide ((0x80 ||| (b &&& 0x0F)) &&& 0x80 ≠ 0) = true ∧
      (0x80 ||| (b &&& 0x0F)) &&& 0x0F = b &&& 0x0F ∧ (b < 16 → b &&& 0x0F = b)) ∧
    (b < 128 → decide ((0x80 ||| b) &&& 0x80 ≠ 0) = true ∧ (0x80 ||| b) &&& 0x7F = b) := by
  decide +kernel

theorem recvPayload_masked (payload : List UInt8) (maskKey : Vector UInt8 4) (rest : List UInt8) :
    recvPayload recvAll true payload.length (maskKey.toList ++
      ((payload.mapIdx fun i b => b ^^^ maskKey.toList.getD (i % 4) 0) ++ rest)) =
        some (payload, rest) := by
  rw [recvPayload, if_pos rfl, recvAll_append (by simp), bind_some]
  dsimp only
  rw [recvAll_append (by simp), map_some]
  dsimp only
  -- a byte is masked twice at the same position
  refine congrArg (fun l => some (l, rest)) (List.ext_getElem (by simp) fun i _ _ => ?_)
  simp [UInt8.xor_assoc]

theorem recvAll_append_of_le {piece : List UInt8} {n : ℕ} (h : piece.length ≤ n)
    (stream : List UInt8) : recvAll n (piece ++ stream) =
      (recvAll (n - piece.length) stream).map fun (bytes, rest) => (piece ++ bytes, rest) := by
  have hle : n ≤ (piece ++ stream).length ↔ n - piece.length ≤ stream.length := by
    rw [List.length_append]
    omega
  rw [recvAll, recvAll, List.take_append, List.drop_append, List.take_of_length_le h,
    List.drop_of_length_le h, if_congr hle rfl rfl]
  split <;> rfl

theorem recvPieces_flatten (len : ℕ) (pieces : List (List UInt8)) :
    recvAll len pieces.flatten = (recvPieces len pieces).map (Prod.map id List.flatten) := by
  induction pieces generalizing len with
  | nil => cases len <;> rfl
  | cons piece pieces ih =>
    cases len with
    | zero => rfl
    | succ len =>
      rw [recvPieces, List.flatten_cons]
      split
      next hle =>
        rw [recvAll, if_pos (hle.trans (by simp)), List.take_append_of_le_length hle,
          List.drop_append_of_le_length hle]
        rfl
      · rw [recvAll_append_of_le (by omega), ih, map_map, map_map]
        rfl

section Receiver

variable {σ τ : Type} {recv : ℕ → σ → Option (List UInt8 × σ)}
  {recv' : ℕ → τ → Option (List UInt8 × τ)} {f : σ → τ}

theorem receiveFrame_map (h : ∀ n s, recv' n (f s) = (recv n s).map (Prod.map id f)) (s : σ) :
    receiveFrame recv' (f s) = (receiveFrame recv s).map (Prod.map id f) := by
  have hsize : ∀ size s, recvPayloadSize recv' size (f s) =
      (recvPayloadSize recv size s).map (Prod.map id f) := by
    intro size s
    rw [recvPayloadSize, recvPayloadSize, h, h]
    split
    · cases recv 2 s <;> rfl
    split
    · cases recv 8 s <;> rfl
    · rfl
  have hpay : ∀ masked size s, recvPayload recv' masked size (f s) =
      (recvPayload recv masked size s).map (Prod.map id f) := by
    intro masked size s
    rw [recvPayload, recvPayload, h]
    cases masked with
    | false => simp [h]
    | true => cases recv 4 s <;> simp [h, Function.comp_def]
  rw [receiveFrame, receiveFrame, h]
  cases recv 2 s with
  | none => rfl
  | some p =>
    dsimp only [map_some, bind_some, Prod.map, id]
    rw [hsize]
    cases recvPayloadSize recv _ p.2 with
    | none => rfl
    | some q =>
      dsimp only [map_some, bind_some, Prod.map, id]
      split
      · rfl
      split
      · rfl
      rw [hpay]
      cases recvPayload recv _ q.1 q.2 <;> rfl

end Receiver

theorem receiveFrame_sendClientFrame {opcode : UInt8} {payload : List UInt8}
    (hsize : payload.length ≤ kMaxIncomingFrameBytes)
    (hcontrol : isControlFrame (opcode &&& 0x0F) → payload.length ≤ 125)
    (maskKey : Vector UInt8 4) {pieces : List (List UInt8)} {rest : List UInt8}
    (hpieces : pieces.flatten = sendClientFrame opcode payload maskKey ++ rest) :
    (∃ pieces', receiveFrame recvPieces pieces = some (⟨opcode &&& 0x0F, true, payload⟩, pieces') ∧
      pieces'.flatten = rest) ∧ (opcode < 16 → opcode &&& 0x0F = opcode) := by
  obtain ⟨b, _, henc, hb, hrecv⟩ := exists_encodePayloadSize hsize
  obtain ⟨⟨hfin, hop, hsame⟩, -⟩ := client_bytes opcode
  obtain ⟨hmask, hseven⟩ := (client_bytes b).2 hb
  refine ⟨?_, hsame⟩
  have hflat : receiveFrame recvAll pieces.flatten =
      some (⟨opcode &&& 0x0F, true, payload⟩, rest) := by
    rw [hpieces, sendClientFrame, henc, List.modifyHead_cons, List.cons_append,
      List.cons_append, List.cons_append, List.append_assoc, List.append_assoc,
      receiveFrame_bytes hseven hrecv (by rw [hop, hfin]; exact fun h => ⟨rfl, hcontrol h⟩)
        hsize, hfin, hop, hmask, recvPayload_masked]
    rfl
  rw [receiveFrame_map recvPieces_flatten, map_eq_some_iff] at hflat
  obtain ⟨⟨_, pieces'⟩, hrec, heq⟩ := hflat
  obtain ⟨rfl, rfl⟩ := Prod.mk.inj heq
  exact ⟨pieces', hrec, rfl⟩

theorem receiveFrame_sendClientFrame_ping :
    ∃ pieces', receiveFrame recvPieces [[0x89, 0x83, 1], [2, 3, 4, 9], [], [9, 9, 7]] =
      some (⟨kWsOpcodePing, true, [8, 11, 10]⟩, pieces') ∧ pieces'.flatten = [7] :=
  (@receiveFrame_sendClientFrame kWsOpcodePing [8, 11, 10] (by decide) (by decide) #v[1, 2, 3, 4]
    [[0x89, 0x83, 1], [2, 3, 4, 9], [], [9, 9, 7]] [7] (by decide)).1

end MediasoupCpp
