import Mathlib.Data.Rat.Defs
import Mathlib.Tactic.Linarith
import Mathlib.Tactic.Ring
import MediasoupCpp.Lib.Run
import MediasoupCpp.Qos.Planner

/-!
# What a client makes of the statistics of a sender

The client reads the counters of a sender from time to time.  From one reading, the one before and
what it made of that, it derives the signals its state machine goes by: rates from differences of
counters, and smoothed values of the loss, the round trip time and the jitter.

Main result: `signals_inRange_iff`.

Source: `src/client/lib/qos/signals.js`, `src/client/lib/qos/types.d.ts`.
-/

namespace MediasoupCpp

open List Runs Option

/-! ### Readings and signals -/

inductive QosReason
  | network
  | cpu
  | manual
  | serverOverride
  | unknown
  deriving DecidableEq

inductive QualityLimitationReason
  | bandwidth
  | cpu
  | other
  | none
  | unknown
  deriving DecidableEq

/-- A reading of the statistics of a sender.  (The names and sizes that are only passed on are left
out.) -/
structure RawSenderSnapshot where
  timestampMs : Option ℚ := none
  bytesSent : Option ℚ := none
  packetsSent : Option ℚ := none
  packetsLost : Option ℚ := none
  retransmittedPacketsSent : Option ℚ := none
  targetBitrateBps : Option ℚ := none
  configuredBitrateBps : Option ℚ := none
  roundTripTimeMs : Option ℚ := none
  jitterMs : Option ℚ := none
  qualityLimitationReason : Option QualityLimitationReason := none

structure DerivedQosSignals where
  packetsSentDelta : ℚ := 0
  packetsLostDelta : ℚ := 0
  retransmittedPacketsSentDelta : ℚ := 0
  sendBitrateBps : ℚ := 0
  targetBitrateBps : ℚ := 0
  bitrateUtilization : ℚ := 0
  lossRate : ℚ := 0
  lossEwma : ℚ := 0
  rttMs : ℚ := 0
  rttEwma : ℚ := 0
  jitterMs : ℚ := 0
  jitterEwma : ℚ := 0
  cpuLimited : Bool := false
  bandwidthLimited : Bool := false
  reason : QosReason := .unknown

/-! ### Deriving signals -/

def kDefaultEwmaAlpha : ℚ := 35 / 100

def kDefaultNetworkWarnLossRate : ℚ := 4 / 100

def kDefaultNetworkWarnRttMs : ℚ := 220

def kDefaultNetworkCongestedUtilization : ℚ := 65 / 100

def kDefaultCpuReasonMinSamples : ℕ := 2

def asFiniteOrZero (value : Option ℚ) : ℚ := value.getD 0

def clampToUnitRange (value : ℚ) : ℚ := if value < 0 then 0 else if 1 < value then 1 else value

def computeCounterDelta (currentValue previousValue : Option ℚ) : ℚ :=
  if asFiniteOrZero currentValue ≤ asFiniteOrZero previousValue then 0
  else asFiniteOrZero currentValue - asFiniteOrZero previousValue

def computeBitrateBps (currentBytesSent previousBytesSent : Option ℚ) (currentTimestampMs : ℚ)
    (previousTimestampMs : Option ℚ) : ℚ :=
  let deltaBytes := computeCounterDelta currentBytesSent previousBytesSent
  let previousTs := asFiniteOrZero previousTimestampMs
  if currentTimestampMs ≤ previousTs ∨ deltaBytes ≤ 0 then 0
  else deltaBytes * 8 * 1000 / (currentTimestampMs - previousTs)

variable (packetsSentDelta packetsLostDelta : ℚ)

def computeLossRate : ℚ :=
  let sent := max 0 packetsSentDelta
  let lost := max 0 packetsLostDelta
  if sent + lost ≤ 0 then 0 else clampToUnitRange (lost / (sent + lost))

def computeEwma (alpha currentValue : ℚ) (previousEwma : Option ℚ) : ℚ :=
  let safeAlpha := clampToUnitRange alpha
  if safeAlpha ≤ 0 then asFiniteOrZero previousEwma
  else if 1 ≤ safeAlpha then currentValue
  else
    match previousEwma with
    | none => currentValue
    | some prev => safeAlpha * currentValue + (1 - safeAlpha) * prev

def computeBitrateUtilization (sendBitrateBps targetBitrateBps : ℚ)
    (configuredBitrateBps : Option ℚ) : ℚ :=
  let send := max 0 sendBitrateBps
  let target := max 0 targetBitrateBps
  let configured := max 0 (asFiniteOrZero configuredBitrateBps)
  let denominator := if 0 < target then target else configured
  if denominator ≤ 0 then (if 0 < send then 1 else 0) else send / denominator

structure ReasonContext where
  activeOverride : Bool := false
  manual : Bool := false
  cpuSampleCount : ℕ := 0

def classifyReason (bandwidthLimited cpuLimited : Bool) (lossEwma rttEwma : ℚ)
    (context : ReasonContext) : QosReason :=
  if context.activeOverride then .serverOverride
  else if context.manual then .manual
  else if cpuLimited && kDefaultCpuReasonMinSamples ≤ context.cpuSampleCount then .cpu
  else if bandwidthLimited || kDefaultNetworkWarnLossRate ≤ lossEwma ||
      kDefaultNetworkWarnRttMs ≤ rttEwma then .network
  else .unknown

def smoothed (alpha : ℚ) (current : Option ℚ) (previous previousEwma : Option ℚ) : ℚ × ℚ :=
  match current with
  | some value => (max 0 value, computeEwma alpha (max 0 value) previousEwma)
  | none => (max 0 (asFiniteOrZero previous), asFiniteOrZero previousEwma)

def deriveSignals (current : RawSenderSnapshot) (previous : Option RawSenderSnapshot)
    (previousSignals : Option DerivedQosSignals) (context : ReasonContext)
    (ewmaAlpha : ℚ := kDefaultEwmaAlpha) : DerivedQosSignals :=
  let packetsSentDelta :=
    computeCounterDelta current.packetsSent (previous.bind RawSenderSnapshot.packetsSent)
  let packetsLostDelta :=
    computeCounterDelta current.packetsLost (previous.bind RawSenderSnapshot.packetsLost)
  let sendBitrateBps :=
    computeBitrateBps current.bytesSent (previous.bind RawSenderSnapshot.bytesSent)
      (asFiniteOrZero current.timestampMs) (previous.bind RawSenderSnapshot.timestampMs)
  let targetBitrateBps := max 0 (asFiniteOrZero current.targetBitrateBps)
  let bitrateUtilization :=
    computeBitrateUtilization sendBitrateBps targetBitrateBps current.configuredBitrateBps
  let lossRate := computeLossRate packetsSentDelta packetsLostDelta
  let lossEwma := computeEwma ewmaAlpha lossRate (previousSignals.map DerivedQosSignals.lossEwma)
  let rtt := smoothed ewmaAlpha current.roundTripTimeMs
    (previousSignals.map DerivedQosSignals.rttMs) (previousSignals.map DerivedQosSignals.rttEwma)
  let jitter := smoothed ewmaAlpha current.jitterMs
    (previousSignals.map DerivedQosSignals.jitterMs)
    (previousSignals.map DerivedQosSignals.jitterEwma)
  let qualityReason := current.qualityLimitationReason.getD .unknown
  let cpuLimited := decide (qualityReason = .cpu)
  -- browsers also report "bandwidth" after the client's own cap, so the sender has to lag behind
  let bandwidthLimited := decide
    (qualityReason = .bandwidth ∧ bitrateUtilization < kDefaultNetworkCongestedUtilization)
  { packetsSentDelta := packetsSentDelta
    packetsLostDelta := packetsLostDelta
    retransmittedPacketsSentDelta :=
      computeCounterDelta current.retransmittedPacketsSent
        (previous.bind RawSenderSnapshot.retransmittedPacketsSent)
    sendBitrateBps := sendBitrateBps
    targetBitrateBps := targetBitrateBps
    bitrateUtilization := bitrateUtilization
    lossRate := lossRate
    lossEwma := lossEwma
    rttMs := rtt.1
    rttEwma := rtt.2
    jitterMs := jitter.1
    jitterEwma := jitter.2
    cpuLimited := cpuLimited
    bandwidthLimited := bandwidthLimited
    reason := classifyReason bandwidthLimited cpuLimited lossEwma rtt.2 context }

/-! ### Ranges -/

theorem clampToUnitRange_mem (value : ℚ) :
    0 ≤ clampToUnitRange value ∧ clampToUnitRange value ≤ 1 := by
  unfold clampToUnitRange
  split_ifs
  · simp
  · simp
  · constructor <;> linarith

theorem computeLossRate_mem : 0 ≤ computeLossRate packetsSentDelta packetsLostDelta ∧
      computeLossRate packetsSentDelta packetsLostDelta ≤ 1 := by
  unfold computeLossRate
  dsimp only
  split
  · simp
  · exact clampToUnitRange_mem _

theorem computeBitrateBps_nonneg (currentBytesSent previousBytesSent previousTimestampMs : Option ℚ)
    (currentTimestampMs : ℚ) :
    0 ≤ computeBitrateBps currentBytesSent previousBytesSent currentTimestampMs
      previousTimestampMs := by
  unfold computeBitrateBps
  dsimp only
  split
  · exact le_rfl
  rename_i hgrow
  push Not at hgrow
  have hbits := mul_nonneg (mul_nonneg hgrow.2.le (by norm_num : (0 : ℚ) ≤ 8))
    (by norm_num : (0 : ℚ) ≤ 1000)
  exact div_nonneg hbits (sub_nonneg.mpr hgrow.1.le)

def Among (x : ℚ) (values : List ℚ) : Prop := (∃ lo ∈ values, lo ≤ x) ∧ ∃ hi ∈ values, x ≤ hi

theorem Among.mono {x : ℚ} {values values' : List ℚ} (h : Among x values)
    (hsub : values ⊆ values') : Among x values' := by
  obtain ⟨⟨lo, hlo, hle⟩, hi, hhi, hge⟩ := h
  exact ⟨⟨lo, hsub hlo, hle⟩, hi, hsub hhi, hge⟩

section Smoothing

variable {alpha : ℚ} (hpos : 0 < alpha) (hlt : alpha < 1)

include hpos hlt

theorem clampToUnitRange_eq : clampToUnitRange alpha = alpha := by
  rw [clampToUnitRange, if_neg hpos.not_gt, if_neg hlt.not_gt]

theorem computeEwma_some (value prev : ℚ) :
    computeEwma alpha value (some prev) = alpha * value + (1 - alpha) * prev := by
  simp only [computeEwma, clampToUnitRange_eq hpos hlt]
  rw [if_neg hpos.not_ge, if_neg hlt.not_ge]

theorem computeEwma_none (value : ℚ) : computeEwma alpha value none = value := by
  simp only [computeEwma, clampToUnitRange_eq hpos hlt]
  rw [if_neg hpos.not_ge, if_neg hlt.not_ge]

theorem among_computeEwma {value prev : ℚ} {values : List ℚ} (hv : value ∈ values)
    (hprev : Among prev values) : Among (computeEwma alpha value (some prev)) values := by
  obtain ⟨⟨lo, hlo, _⟩, hi, hhi, _⟩ := hprev
  rw [computeEwma_some hpos hlt]
  constructor
  · rcases le_total value prev with h | h
    · exact ⟨value, hv, by nlinarith⟩
    · exact ⟨lo, hlo, by nlinarith⟩
  · rcases le_total value prev with h | h
    · exact ⟨hi, hhi, by nlinarith⟩
    · exact ⟨value, hv, by nlinarith⟩

end Smoothing

/-! ### Runs of readings -/

def smooth (alpha : ℚ) (ewma current : Option ℚ) : Option ℚ :=
  some (smoothed alpha current none ewma).2

def reported (readings : List (Option ℚ)) : List ℚ := readings.filterMap fun r => r.map (max 0)

def StartsKnown : List (Option ℚ) → Prop
  | none :: readings => ∀ value ∈ (reported readings).head?, value = 0
  | _ => True

section Smoothing

variable {alpha : ℚ} (hpos : 0 < alpha) (hlt : alpha < 1)

include hpos hlt

theorem among_runFrom_smooth (readings : List (Option ℚ)) {values : List ℚ} {x : ℚ}
    (h : Among x values) : ∃ y, runFrom (smooth alpha) (some x) readings = some y ∧
      Among y (values ++ reported readings) := by
  induction readings generalizing values x with
  | nil => exact ⟨x, rfl, h.mono (subset_append_left _ _)⟩
  | cons reading readings ih =>
    cases reading with
    | none => exact ih h
    | some value =>
      obtain ⟨y, hy, hamong⟩ := ih (among_computeEwma hpos hlt
        (mem_append_right values (mem_singleton_self (max 0 value)))
        (h.mono (subset_append_left _ _)))
      refine ⟨y, hy, hamong.mono ?_⟩
      rw [append_assoc]
      exact List.Subset.refl _

theorem among_of_startsKnown {readings : List (Option ℚ)} (h : StartsKnown readings)
    (hrep : reported readings ≠ []) :
    ∃ y, runFrom (smooth alpha) none readings = some y ∧ Among y (reported readings) := by
  match readings with
  | some value :: readings =>
    have hst : smooth alpha none (some value) = some (max 0 value) :=
      congrArg some (computeEwma_none hpos hlt _)
    obtain ⟨y, hy, hamong⟩ := among_runFrom_smooth hpos hlt readings
      (⟨⟨_, mem_singleton_self _, le_rfl⟩, _, mem_singleton_self _, le_rfl⟩ :
        Among (max 0 value) [max 0 value])
    rw [runFrom_cons, hst]
    exact ⟨y, hy, hamong⟩
  | none :: readings =>
    obtain ⟨y, hy, hamong⟩ := among_runFrom_smooth hpos hlt readings
      (⟨⟨_, mem_singleton_self _, le_rfl⟩, _, mem_singleton_self _, le_rfl⟩ : Among 0 [0])
    refine ⟨y, hy, hamong.mono (append_subset.mpr ⟨?_, List.Subset.refl _⟩)⟩
    obtain ⟨value, _, hvals⟩ := exists_cons_of_ne_nil hrep
    have hzero : value = 0 := h value (by change reported readings = _ at hvals; simp [hvals])
    rw [hvals, hzero]
    exact cons_subset_cons 0 (nil_subset _)

theorem exists_pulled {readings : List (Option ℚ)} {value : ℚ}
    (h : (reported readings).head? = some value) :
    ∃ n, runFrom (smooth alpha) (some 0) (readings.take n) = some (alpha * value) ∧
      reported (readings.take n) = [value] := by
  induction readings with
  | nil => cases h
  | cons reading readings ih =>
    cases reading with
    | none =>
      obtain ⟨n, hrun, hvals⟩ := ih h
      exact ⟨n + 1, hrun, hvals⟩
    | some current =>
      obtain rfl : max 0 current = value := some.inj h
      refine ⟨1, congrArg some ?_, rfl⟩
      exact (computeEwma_some hpos hlt _ _).trans (by ring)

end Smoothing

theorem StartsKnown.take {readings : List (Option ℚ)} (h : StartsKnown readings) (n : ℕ) :
    StartsKnown (readings.take n) := by
  match readings, n with
  | [], n => rwa [take_nil]
  | _ :: _, 0 => trivial
  | some _ :: _, n + 1 => trivial
  | none :: readings, n + 1 =>
    intro value hv
    refine h value ?_
    rw [← take_append_drop n readings, reported, filterMap_append, List.head?_append]
    exact mem_def.mpr (by rw [← reported, mem_def.mp hv, some_or])

def observeSample (ewmaAlpha : ℚ) (s : Option (RawSenderSnapshot × DerivedQosSignals))
    (e : RawSenderSnapshot × ReasonContext) : Option (RawSenderSnapshot × DerivedQosSignals) :=
  some (e.1, deriveSignals e.1 (s.map Prod.fst) (s.map Prod.snd) e.2 ewmaAlpha)

def signalsAfter (ewmaAlpha : ℚ) (es : List (RawSenderSnapshot × ReasonContext)) :
    Option DerivedQosSignals :=
  (runFrom (observeSample ewmaAlpha) none es).map Prod.snd

variable (es : List (RawSenderSnapshot × ReasonContext))

def rtts : List (Option ℚ) :=
  es.map fun e => e.1.roundTripTimeMs

def jitters : List (Option ℚ) :=
  es.map fun e => e.1.jitterMs

/-- The signals are in their ranges, given the values that were reported so far. -/
structure DerivedQosSignals.InRange (signals : DerivedQosSignals) (rtts jitters : List ℚ) :
    Prop where
  lossRate : 0 ≤ signals.lossRate ∧ signals.lossRate ≤ 1
  lossEwma : 0 ≤ signals.lossEwma ∧ signals.lossEwma ≤ 1
  sendBitrateBps : 0 ≤ signals.sendBitrateBps
  rttEwma : rtts ≠ [] → Among signals.rttEwma rtts
  jitterEwma : jitters ≠ [] → Among signals.jitterEwma jitters

section Run

variable {alpha : ℚ}

theorem ewmas_runFrom (es : List (RawSenderSnapshot × ReasonContext)) :
    (signalsAfter alpha es).map DerivedQosSignals.rttEwma = runFrom (smooth alpha) none (rtts es) ∧
      (signalsAfter alpha es).map DerivedQosSignals.jitterEwma =
        runFrom (smooth alpha) none (jitters es) := by
  induction es using List.reverseRecOn with
  | nil => exact ⟨rfl, rfl⟩
  | append_singleton es e ih =>
    have hsm : ∀ current previous previous' ewma,
        (smoothed alpha current previous ewma).2 = (smoothed alpha current previous' ewma).2 := by
      intro current previous previous' ewma
      cases current <;> rfl
    simp only [rtts, jitters, map_append, map_cons, map_nil, runFrom_concat, signalsAfter] at ih ⊢
    rw [← ih.1, ← ih.2]
    cases runFrom (observeSample alpha) none es <;>
      exact ⟨congrArg some (hsm _ _ _ _), congrArg some (hsm _ _ _ _)⟩

theorem loss_runFrom (hpos : 0 < alpha) (hlt : alpha < 1)
    (es : List (RawSenderSnapshot × ReasonContext)) {signals : DerivedQosSignals}
    (h : signalsAfter alpha es = some signals) :
    (0 ≤ signals.lossRate ∧ signals.lossRate ≤ 1) ∧ (0 ≤ signals.lossEwma ∧ signals.lossEwma ≤ 1) ∧
      0 ≤ signals.sendBitrateBps := by
  induction es using List.reverseRecOn generalizing signals with
  | nil => cases h
  | append_singleton es e ih =>
    rw [signalsAfter, runFrom_concat] at h
    cases h
    refine ⟨computeLossRate_mem _ _, ?_, computeBitrateBps_nonneg _ _ _ _⟩
    dsimp only [deriveSignals]
    have hrate := computeLossRate_mem (computeCounterDelta e.1.packetsSent
      (((runFrom (observeSample alpha) none es).map Prod.fst).bind RawSenderSnapshot.packetsSent))
      (computeCounterDelta e.1.packetsLost
      (((runFrom (observeSample alpha) none es).map Prod.fst).bind RawSenderSnapshot.packetsLost))
    generalize computeLossRate _ _ = rate at hrate ⊢
    cases hbef : runFrom (observeSample alpha) none es with
    | none =>
      simp only [map_none, computeEwma_none hpos hlt]
      exact hrate
    | some before =>
      obtain ⟨-, ⟨_, _⟩, -⟩ := @ih before.2 (by rw [signalsAfter, hbef]; rfl)
      simp only [map_some, computeEwma_some hpos hlt]
      constructor <;> nlinarith [hrate.1, hrate.2]

end Run

theorem exists_signalsAfter {alpha : ℚ} {es : List (RawSenderSnapshot × ReasonContext)}
    (h : es ≠ []) : ∃ signals, signalsAfter alpha es = some signals := by
  rw [← dropLast_concat_getLast h, signalsAfter, runFrom_concat]
  exact ⟨_, rfl⟩

theorem rtts_take (n : ℕ) (es : List (RawSenderSnapshot × ReasonContext)) :
    rtts (es.take n) = (rtts es).take n :=
  map_take

theorem jitters_take (n : ℕ) (es : List (RawSenderSnapshot × ReasonContext)) :
    jitters (es.take n) = (jitters es).take n :=
  map_take

def lateRtt : List (RawSenderSnapshot × ReasonContext) :=
  [({}, {}), ({ roundTripTimeMs := some 100 }, {})]

/-- **The round trip time has never been below 100 ms, but the smoothed value is 35 ms.** -/
theorem rttEwma_below_all_values :
    ∃ signals, signalsAfter kDefaultEwmaAlpha lateRtt = some signals ∧
      reported (rtts lateRtt) = [100] ∧ ¬signals.InRange (reported (rtts lateRtt)) [] := by
  have hvals : reported (rtts lateRtt) = [100] := by
    change [max 0 (100 : ℚ)] = [100]
    norm_num
  refine ⟨_, rfl, hvals, fun h => ?_⟩
  obtain ⟨⟨_, hlo, hle⟩, -⟩ := h.rttEwma (by rw [hvals]; exact cons_ne_nil _ _)
  rw [hvals, mem_singleton] at hlo
  subst hlo
  norm_num [observeSample, deriveSignals, smoothed, computeEwma, clampToUnitRange,
    kDefaultEwmaAlpha, asFiniteOrZero] at hle

/-- **Smoothed values stay among the values reported so far** exactly if the first reading has a
value, or the first value there is counts as 0; loss and bitrate are in their ranges anyway. -/
theorem signals_inRange_iff {alpha : ℚ} (hpos : 0 < alpha) (hlt : alpha < 1)
    (es : List (RawSenderSnapshot × ReasonContext)) :
    (∀ n, ∀ signals ∈ signalsAfter alpha (es.take n),
      signals.InRange (reported (rtts (es.take n))) (reported (jitters (es.take n)))) ↔
      StartsKnown (rtts es) ∧ StartsKnown (jitters es) := by
  have hneeds : ∀ readings, (∀ n, reported (readings.take n) ≠ [] →
      ∃ y, runFrom (smooth alpha) none (readings.take n) = some y ∧
        Among y (reported (readings.take n))) → StartsKnown readings := by
    intro readings h
    match readings with
    | [] => trivial
    | some _ :: _ => trivial
    | none :: readings =>
      intro value hv
      obtain ⟨n, hrun, hvals⟩ := exists_pulled hpos hlt hv
      have htake : reported ((none :: readings).take (n + 1)) = [value] := hvals
      obtain ⟨y, hy, ⟨⟨_, hlo, _⟩, -⟩⟩ := h (n + 1) (by rw [htake]; exact cons_ne_nil _ _)
      cases hrun.symm.trans hy
      rw [htake, mem_singleton] at hlo
      have hnn : 0 ≤ value := by
        obtain ⟨_, -, hmax⟩ := mem_filterMap.mp (mem_of_mem_head? hv)
        obtain ⟨current, -, rfl⟩ := map_eq_some_iff.mp hmax
        exact le_max_left 0 current
      nlinarith
  constructor
  · intro h
    constructor
    · refine hneeds _ fun n hrep => ?_
      rw [← rtts_take] at hrep ⊢
      obtain ⟨signals, hsigs⟩ := @exists_signalsAfter alpha (es.take n)
        (by rintro hnil; exact hrep (by rw [hnil]; rfl))
      refine ⟨signals.rttEwma, ?_, (h n signals hsigs).rttEwma hrep⟩
      rw [← (ewmas_runFrom _).1, hsigs, map_some]
    · refine hneeds _ fun n hrep => ?_
      rw [← jitters_take] at hrep ⊢
      obtain ⟨signals, hsigs⟩ := @exists_signalsAfter alpha (es.take n)
        (by rintro hnil; exact hrep (by rw [hnil]; rfl))
      refine ⟨signals.jitterEwma, ?_, (h n signals hsigs).jitterEwma hrep⟩
      rw [← (ewmas_runFrom _).2, hsigs, map_some]
  · rintro ⟨hrtts, hjitters⟩ n signals hsigs
    obtain ⟨hrate, hloss, hbitrate⟩ := loss_runFrom hpos hlt _ hsigs
    have hewmas := @ewmas_runFrom alpha (es.take n)
    rw [mem_def.mp hsigs, map_some, map_some] at hewmas
    refine ⟨hrate, hloss, hbitrate, fun hrep => ?_, fun hrep => ?_⟩
    · obtain ⟨y, hy, hamong⟩ := among_of_startsKnown hpos hlt (rtts_take n es ▸ hrtts.take n)
        hrep
      rwa [some.inj (hewmas.1.trans hy)]
    · obtain ⟨y, hy, hamong⟩ :=
        among_of_startsKnown hpos hlt (jitters_take n es ▸ hjitters.take n) hrep
      rwa [some.inj (hewmas.2.trans hy)]

def earlyRtt : List (RawSenderSnapshot × ReasonContext) :=
  [({ roundTripTimeMs := some 100 }, {}), ({ jitterMs := some 0 }, {})]

theorem signals_inRange_earlyRtt :
    (StartsKnown (rtts earlyRtt) ∧ StartsKnown (jitters earlyRtt)) ∧
      ∀ n, ∀ signals ∈ signalsAfter kDefaultEwmaAlpha (earlyRtt.take n),
        signals.InRange (reported (rtts (earlyRtt.take n)))
          (reported (jitters (earlyRtt.take n))) := by
  have hstarts : StartsKnown (rtts earlyRtt) ∧ StartsKnown (jitters earlyRtt) :=
    ⟨trivial, by intro value hv; simpa [reported, eq_comm] using hv⟩
  exact ⟨hstarts, (signals_inRange_iff (by norm_num [kDefaultEwmaAlpha])
    (by norm_num [kDefaultEwmaAlpha]) _).mpr hstarts⟩

end MediasoupCpp
