import MediasoupCpp.Media.Recorder

/-!
# Times of a recording

Main result: `unwrapTimestamps_eq`.

Source: `src/Recorder.cpp`.
-/

namespace MediasoupCpp

/-! ### Timestamps of 32 bits -/

/-- What a packet says of a media time. -/
def rtpTimestamp (time : ℤ) : UInt32 := UInt32.ofNat (time % 2 ^ 32).toNat

def unwrapTimestamps : StreamClock → List UInt32 → List UInt64
  | _, [] => []
  | clock, ts :: rest =>
    (unwrapTimestamp ts clock).1 :: unwrapTimestamps (unwrapTimestamp ts clock).2 rest

/-- The times are counted in cycles of timestamps.  This one is in the cycle of the base or in one
of those behind it that can be counted. -/
def InCycles (base time : ℤ) : Prop :=
  base / 2 ^ 32 ≤ time / 2 ^ 32 ∧ time / 2 ^ 32 - base / 2 ^ 32 < 2 ^ 32

structure ClockAt (base time : ℤ) (clock : StreamClock) : Prop where
  baseTs : clock.baseTs = rtpTimestamp base
  lastTs : clock.lastTs = rtpTimestamp time
  wraps : clock.wrapCount.toNat = (time / 2 ^ 32 - base / 2 ^ 32).toNat

theorem toNat_rtpTimestamp (time : ℤ) : (rtpTimestamp time).toNat = (time % 2 ^ 32).toNat := by
  rw [rtpTimestamp, UInt32.toNat_ofNat']
  omega

theorem ClockAt.unwrap {base time next : ℤ} {clock : StreamClock} (h : ClockAt base time clock)
    (htime : InCycles base time) (hnext : InCycles base next) (hnear : |next - time| < 2 ^ 31) :
    (unwrapTimestamp (rtpTimestamp next) clock).1.toNat = (next - base).toNat ∧
      ClockAt base next (unwrapTimestamp (rtpTimestamp next) clock).2 := by
  obtain ⟨hbase, hlast, hwraps⟩ := h
  rw [abs_lt] at hnear
  unfold InCycles at htime hnext
  generalize hcnt : (if rtpTimestamp next < clock.lastTs then
      if 0x80000000 < clock.lastTs - rtpTimestamp next then clock.wrapCount + 1
      else clock.wrapCount
    else if 0x80000000 < rtpTimestamp next - clock.lastTs ∧ 0 < clock.wrapCount then
      clock.wrapCount - 1
    else clock.wrapCount) = wrapCount
  have hwraps' : wrapCount.toNat = (next / 2 ^ 32 - base / 2 ^ 32).toNat := by
    rw [← hcnt, hlast]
    simp only [UInt32.lt_iff_toNat_lt, UInt64.lt_iff_toNat_lt, apply_ite UInt64.toNat,
      UInt32.toNat_sub, UInt64.toNat_sub, UInt64.toNat_add, toNat_rtpTimestamp, hwraps,
      UInt32.reduceToNat, UInt64.reduceToNat]
    split
    · split <;> omega
    · split <;> omega
  have hticks : ((wrapCount <<< 32) + (rtpTimestamp next).toUInt64).toNat =
      (next - 2 ^ 32 * (base / 2 ^ 32)).toNat := by
    simp only [UInt64.toNat_add, UInt64.toNat_shiftLeft, UInt32.toNat_toUInt64, Nat.shiftLeft_eq,
      toNat_rtpTimestamp, hwraps', UInt64.reduceToNat, Nat.reduceMod]
    omega
  rw [unwrapTimestamp, hcnt, hbase]
  refine ⟨?_, rfl, rfl, hwraps'⟩
  simp only [UInt64.le_iff_toNat_le, apply_ite UInt64.toNat, UInt64.toNat_sub, hticks,
    UInt32.toNat_toUInt64, toNat_rtpTimestamp, UInt64.reduceToNat]
  split <;> omega

theorem ClockAt.unwrapTimestamps {base time : ℤ} {times : List ℤ} {clock : StreamClock}
    (h : ClockAt base time clock) (htime : InCycles base time)
    (hnear : (time :: times).IsChain fun time next => |next - time| < 2 ^ 31)
    (hcycles : ∀ time ∈ times, InCycles base time) :
    (MediasoupCpp.unwrapTimestamps clock (times.map rtpTimestamp)).map UInt64.toNat =
      times.map fun time => (time - base).toNat := by
  induction times generalizing time clock with
  | nil => rfl
  | cons next times ih =>
    obtain ⟨hnext, hcycles⟩ := List.forall_mem_cons.mp hcycles
    obtain ⟨hstep, hnear⟩ := List.isChain_cons_cons.mp hnear
    obtain ⟨hticks, hclk⟩ := h.unwrap htime hnext hstep
    exact congrArg₂ List.cons hticks (ih hclk hnext hnear hcycles)

/-- **The true times come out**, if none of them is before the first cycle. -/
theorem unwrapTimestamps_eq {base : ℤ} {times : List ℤ}
    (hnear : (base :: times).IsChain fun time next => |next - time| < 2 ^ 31)
    (hcycles : ∀ time ∈ times, InCycles base time) :
    (unwrapTimestamps (({} : StreamClock).start (rtpTimestamp base))
      (times.map rtpTimestamp)).map UInt64.toNat = times.map fun time => (time - base).toNat :=
  ClockAt.unwrapTimestamps ⟨rfl, rfl, by simp [StreamClock.start]⟩ ⟨le_rfl, by simp⟩ hnear hcycles

theorem unwrapTimestamps_eq_wraps :
    (unwrapTimestamps (({} : StreamClock).start (rtpTimestamp 4294967290))
      ([4294967290, 4294967300, 4294967285, 4294967310].map rtpTimestamp)).map UInt64.toNat =
        [0, 10, 0, 20] :=
  unwrapTimestamps_eq (by decide) (by unfold InCycles; decide)

/-- A packet from before the first cycle: it is placed at the end of it, and the packets behind it
are off by a cycle. -/
theorem unwrapTimestamps_before_cycle :
    (unwrapTimestamps (({} : StreamClock).start (rtpTimestamp 5))
      ([5, -5, 10].map rtpTimestamp)).map UInt64.toNat = [0, 4294967286, 4294967301] := by
  decide

end MediasoupCpp
