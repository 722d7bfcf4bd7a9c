import MediasoupCpp.Lib.Bytes

/-!
# RTP headers

The packetizer writes the fixed header of twelve bytes; the parser also takes headers with
contributing sources, an extension and padding.

## Main results

* `RtpHeader.parse_writeRtpHeader` — **a header that was written is read back**.

Source: `common/media/rtp/RtpHeader.h`, `common/media/rtp/H264Packetizer.cpp`.
-/

namespace MediasoupCpp

structure RtpHeader where
  payloadType : UInt8
  sequenceNumber : UInt16
  timestamp : UInt32
  ssrc : UInt32
  marker : Bool
  payload : List UInt8
  deriving DecidableEq

namespace RtpHeader

variable (data : List UInt8)

def headerLen : Option ℕ :=
  let flags := data.getD 0 0
  let fixed := 12 + (flags &&& 0x0F).toNat * 4
  if flags &&& 0x10 ≠ 0 then
    if data.length < fixed + 4 then none
    else
      let extLenWords := (data.getD (fixed + 2) 0).toNat <<< 8 ||| (data.getD (fixed + 3) 0).toNat
      some (fixed + (4 + extLenWords * 4))
  else some fixed

def payloadSize (headerLen : ℕ) : Option ℕ :=
  let size := data.length - headerLen
  if data.getD 0 0 &&& 0x20 ≠ 0 then
    let paddingSize := (data.getD (data.length - 1) 0).toNat
    if size = 0 ∨ paddingSize = 0 ∨ size < paddingSize then none else some (size - paddingSize)
  else some size

def parse : Option RtpHeader :=
  if data.length < 12 ∨ data.getD 0 0 >>> 6 ≠ 2 then none
  else
    (headerLen data).bind fun headerLen =>
      if data.length < headerLen then none
      else
        (payloadSize data headerLen).map fun payloadSize =>
          let byte := fun i => data.getD i 0
          { marker := byte 1 &&& 0x80 ≠ 0
            payloadType := byte 1 &&& 0x7F
            sequenceNumber := (byte 2).toUInt16 <<< 8 ||| (byte 3).toUInt16
            timestamp := (byte 4).toUInt32 <<< 24 ||| (byte 5).toUInt32 <<< 16
              ||| (byte 6).toUInt32 <<< 8 ||| (byte 7).toUInt32
            ssrc := (byte 8).toUInt32 <<< 24 ||| (byte 9).toUInt32 <<< 16
              ||| (byte 10).toUInt32 <<< 8 ||| (byte 11).toUInt32
            payload := (data.drop headerLen).take payloadSize }

end RtpHeader

def writeRtpHeader (payloadType : UInt8) (sequenceNumber : UInt16) (rtpTimestamp ssrc : UInt32)
    (marker : Bool) : List UInt8 :=
  [0x80, (if marker then 0x80 else 0x00) ||| (payloadType &&& 0x7F),
    (sequenceNumber >>> 8).toUInt8, (sequenceNumber &&& 0xFF).toUInt8,
    (rtpTimestamp >>> 24).toUInt8, (rtpTimestamp >>> 16).toUInt8,
    (rtpTimestamp >>> 8).toUInt8, (rtpTimestamp &&& 0xFF).toUInt8,
    (ssrc >>> 24).toUInt8, (ssrc >>> 16).toUInt8, (ssrc >>> 8).toUInt8, (ssrc &&& 0xFF).toUInt8]

theorem marker_or_payloadType : ∀ (payloadType : UInt8) (marker : Bool),
    decide (((if marker then 0x80 else 0x00) ||| (payloadType &&& 0x7F)) &&& 0x80 ≠ 0) = marker ∧
      ((if marker then 0x80 else 0x00) ||| (payloadType &&& 0x7F)) &&& 0x7F
        = payloadType &&& 0x7F := by
  decide +kernel

theorem payloadType_and : ∀ payloadType : UInt8, payloadType < 128 →
    payloadType &&& 0x7F = payloadType := by
  decide +kernel

theorem RtpHeader.parse_writeRtpHeader {payloadType : UInt8} (hpt : payloadType < 128)
    (sequenceNumber : UInt16) (rtpTimestamp ssrc : UInt32) (marker : Bool) (payload : List UInt8) :
    parse (writeRtpHeader payloadType sequenceNumber rtpTimestamp ssrc marker ++ payload) =
      some { payloadType, sequenceNumber, timestamp := rtpTimestamp, ssrc, marker, payload } := by
  obtain ⟨hmarker, htype⟩ := marker_or_payloadType payloadType marker
  let data := writeRtpHeader payloadType sequenceNumber rtpTimestamp ssrc marker ++ payload
  have hlen : data.length = 12 + payload.length := by
    rw [List.length_append]
    rfl
  -- the first byte says that there are no sources, no extension and no padding
  have hflags : data.getD 0 0 = 0x80 := rfl
  have hhead : headerLen data = some 12 := by
    rw [headerLen, hflags]
    rfl
  have hpay : payloadSize data 12 = some payload.length := by
    rw [payloadSize, hflags, hlen, Nat.add_sub_cancel_left]
    rfl
  have hnot : ¬(12 + payload.length < 12) := by omega
  have hval : ¬(12 + payload.length < 12 ∨ (0x80 : UInt8) >>> 6 ≠ 2) :=
    not_or.mpr ⟨hnot, by decide⟩
  change parse data = _
  rw [parse, hlen, hflags, if_neg hval, hhead, Option.bind_some, if_neg hnot, hpay, Option.map_some]
  refine congrArg some ?_
  rw [RtpHeader.mk.injEq]
  exact ⟨htype.trans (payloadType_and payloadType hpt), Bytes.or_be16 sequenceNumber,
    Bytes.or_be32 rtpTimestamp, Bytes.or_be32 ssrc, hmarker, List.take_length⟩

end MediasoupCpp
