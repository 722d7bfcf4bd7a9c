import Mathlib.Algebra.Order.Field.Rat
import Mathlib.Data.List.Induction
import Mathlib.Tactic.NormNum
import MediasoupCpp.Lib.Run

/-!
# The health of a subscriber's downlink

What a subscriber reports about the tracks it receives, and the monitor that turns a stream of
such snapshots into a health state and a level by which the subscriber's tracks are degraded.  The
monitor counts: every congested snapshot raises the level, and it takes three stable ones to lower
it by one.

Main results: `afterRun_spec`, `recoversOnThree_iff`.

Source: `src/qos/DownlinkHealthMonitor.h`, `src/qos/DownlinkHealthMonitor.cpp`,
`src/qos/DownlinkQosTypes.h`.
-/

namespace MediasoupCpp

open List Runs

structure DownlinkSubscription where
  consumerId : String
  producerId : String
  visible : Bool := true
  packetsLost : ℕ := 0
  jitter : ℚ := 0
  framesPerSecond : ℚ := 0
  freezeRate : ℚ := 0
  /-- The kind of the consumer, `video` or `audio`. -/
  kind : String := "video"
  pinned : Bool := false
  activeSpeaker : Bool := false
  isScreenShare : Bool := false
  targetWidth : ℕ := 0
  targetHeight : ℕ := 0
  frameWidth : ℕ := 0
  frameHeight : ℕ := 0

structure DownlinkSnapshot where
  seq : ℕ
  tsMs : ℤ := 0
  subscriberPeerId : String
  currentRoundTripTime : ℚ := 0
  subscriptions : List DownlinkSubscription := []
  availableIncomingBitrate : ℚ := 0

inductive DownlinkHealth
  | stable
  | earlyWarning
  | congested
  | recovering
  deriving DecidableEq

structure WorstSignals where
  freeze : ℚ := 0
  jitter : ℚ := 0
  loss : ℚ := 0
  /-- The lowest frame rate that is not zero; 999 if there is none. -/
  fps : ℚ := 999

def WorstSignals.add (worst : WorstSignals) (sub : DownlinkSubscription) : WorstSignals :=
  if !sub.visible then worst
  else
    { freeze := max worst.freeze sub.freezeRate
      jitter := max worst.jitter sub.jitter
      loss := max worst.loss (if 0 < sub.packetsLost then min 1 (sub.packetsLost / 100) else 0)
      fps := if 0 < sub.framesPerSecond then min worst.fps sub.framesPerSecond else worst.fps }

def classify (snapshot : DownlinkSnapshot) : DownlinkHealth :=
  let worst := snapshot.subscriptions.foldl WorstSignals.add {}
  let rtt := snapshot.currentRoundTripTime
  if 15 / 100 ≤ worst.freeze ∨ 8 / 100 ≤ worst.loss ∨ 6 / 100 ≤ worst.jitter ∨ 4 / 10 ≤ rtt then
    .congested
  else if 5 / 100 ≤ worst.freeze ∨ 3 / 100 ≤ worst.loss ∨ 3 / 100 ≤ worst.jitter ∨ 2 / 10 ≤ rtt ∨
      (worst.fps < 10 ∧ worst.fps < 999) then
    .earlyWarning
  else .stable

def kMaxDegradeLevel : ℕ := 3

structure DownlinkHealthMonitor where
  state : DownlinkHealth := .stable
  degradeLevel : ℕ := 0
  stableCount : ℕ := 0
  degradeLevel_le : degradeLevel ≤ kMaxDegradeLevel := by decide
  deriving DecidableEq

namespace DownlinkHealthMonitor

variable (m : DownlinkHealthMonitor)

def worsen (state : DownlinkHealth) (levels : ℕ) : DownlinkHealthMonitor where
  state := state
  degradeLevel := min (m.degradeLevel + levels) kMaxDegradeLevel
  stableCount := 0
  degradeLevel_le := min_le_right _ _

def stayCongested : DownlinkHealthMonitor where
  state := .congested
  degradeLevel := min (m.degradeLevel + 1) kMaxDegradeLevel
  stableCount := m.stableCount
  degradeLevel_le := min_le_right _ _

def startRecovery : DownlinkHealthMonitor := { m with state := .recovering, stableCount := 1 }

def recover : DownlinkHealthMonitor :=
  if 3 ≤ m.stableCount + 1 ∧ 0 < m.degradeLevel then
    { state := if m.degradeLevel - 1 = 0 then .stable else m.state
      degradeLevel := m.degradeLevel - 1
      stableCount := 0
      degradeLevel_le := (Nat.sub_le _ _).trans m.degradeLevel_le }
  else { m with stableCount := m.stableCount + 1 }

variable (snapshot : DownlinkSnapshot)

def update : DownlinkHealthMonitor :=
  match m.state, classify snapshot with
  | .stable, .congested => m.worsen .congested 2
  | .stable, .earlyWarning => m.worsen .earlyWarning 1
  | .stable, _ => m
  | .earlyWarning, .congested => m.worsen .congested 2
  | .earlyWarning, .stable => m.startRecovery
  | .earlyWarning, _ => m
  | .congested, .congested => m.stayCongested
  | .congested, _ => m.startRecovery
  | .recovering, .congested => m.worsen .congested 2
  | .recovering, .stable => m.recover
  | .recovering, _ => { m with stableCount := 0 }

theorem update_congested {snapshot : DownlinkSnapshot} (h : classify snapshot = .congested) :
    (m.update snapshot).state = .congested ∧
      min (m.degradeLevel + 1) kMaxDegradeLevel ≤ (m.update snapshot).degradeLevel := by
  unfold update
  rw [h]
  cases m.state with
  | congested => exact ⟨rfl, le_rfl⟩
  | stable | earlyWarning | recovering =>
    exact ⟨rfl, min_le_min_right _ (Nat.add_le_add_left (by decide) _)⟩

/-! ### Runs -/

def initial : DownlinkHealthMonitor where
  degradeLevel_le := Nat.zero_le _

def afterRun (snapshots : List DownlinkSnapshot) : DownlinkHealthMonitor :=
  Runs.runFrom update initial snapshots

variable (snapshots : List DownlinkSnapshot)

@[simp] theorem afterRun_concat :
    afterRun (snapshots ++ [snapshot]) = (afterRun snapshots).update snapshot :=
  runFrom_concat _ _ _

theorem classify_ne_recovering : classify snapshot ≠ .recovering := by
  unfold classify
  dsimp only
  split
  · exact nofun
  · split <;> exact nofun

/-- What an update can do, by the state of the monitor and what the snapshot looks like. -/
inductive Transition (m : DownlinkHealthMonitor) (observed : DownlinkHealth) :
    DownlinkHealthMonitor → Prop
  | congest (hstate : m.state ≠ .congested) (hobs : observed = .congested) :
    Transition m observed (m.worsen .congested 2)
  | stayCongested (hstate : m.state = .congested) (hobs : observed = .congested) :
    Transition m observed m.stayCongested
  | warn (hstate : m.state = .stable) (hobs : observed = .earlyWarning) :
    Transition m observed (m.worsen .earlyWarning 1)
  | stayStable (hstate : m.state = .stable) (hobs : observed = .stable) : Transition m observed m
  | stayWarned (hstate : m.state = .earlyWarning) (hobs : observed = .earlyWarning) :
    Transition m observed m
  | startFromWarning (hstate : m.state = .earlyWarning) (hobs : observed = .stable) :
    Transition m observed m.startRecovery
  | startFromCongestion (hstate : m.state = .congested)
    (hobs : observed = .stable ∨ observed = .earlyWarning) :
    Transition m observed m.startRecovery
  | recover (hstate : m.state = .recovering) (hobs : observed = .stable) :
    Transition m observed m.recover
  | restart (hstate : m.state = .recovering) (hobs : observed = .earlyWarning) :
    Transition m observed { m with state := .recovering, stableCount := 0 }

theorem update_transition : Transition m (classify snapshot) (m.update snapshot) := by
  unfold update
  cases hobs : classify snapshot with
  | recovering => exact absurd hobs (classify_ne_recovering snapshot)
  | congested =>
    cases hstate : m.state with
    | congested => exact .stayCongested hstate rfl
    | stable | earlyWarning | recovering =>
      exact .congest (hstate.trans_ne (by decide)) rfl
  | earlyWarning =>
    cases hstate : m.state with
    | stable => exact .warn hstate rfl
    | earlyWarning => exact .stayWarned hstate rfl
    | congested => exact .startFromCongestion hstate (.inr rfl)
    | recovering => exact .restart hstate rfl
  | stable =>
    cases hstate : m.state with
    | stable => exact .stayStable hstate rfl
    | earlyWarning => exact .startFromWarning hstate rfl
    | congested => exact .startFromCongestion hstate (.inl rfl)
    | recovering => exact .recover hstate rfl

structure Coupled (m : DownlinkHealthMonitor) : Prop where
  stable_iff : m.state = .stable ↔ m.degradeLevel = 0
  count_le : m.state = .recovering → m.stableCount ≤ 2

variable {m} {m' : DownlinkHealthMonitor} {observed : DownlinkHealth}

theorem Coupled.pos (h : m.Coupled) (hstate : m.state ≠ .stable) : 0 < m.degradeLevel :=
  Nat.pos_of_ne_zero fun hzero => hstate (h.stable_iff.mpr hzero)

theorem Coupled.pos_of_recovering (h : m.Coupled) (hstate : m.state = .recovering) :
    0 < m.degradeLevel :=
  h.pos (hstate.trans_ne (by decide))

theorem coupled_initial : initial.Coupled where
  stable_iff := ⟨fun _ => rfl, fun _ => rfl⟩
  count_le := nofun

theorem recover_cases (hstate : m.state = .recovering) (hpos : 0 < m.degradeLevel) :
    (m.stableCount < 2 ∧ m.recover = { m with stableCount := m.stableCount + 1 }) ∨
      (2 ≤ m.stableCount ∧ m.recover.degradeLevel + 1 = m.degradeLevel ∧ m.recover.stableCount = 0 ∧
        m.recover.state = if m.degradeLevel = 1 then .stable else .recovering) := by
  unfold recover
  by_cases hcnt : 2 ≤ m.stableCount
  · rw [if_pos ⟨Nat.succ_le_succ hcnt, hpos⟩]
    refine .inr ⟨hcnt, Nat.sub_add_cancel hpos, rfl, ?_⟩
    rw [hstate]
    exact if_congr (by omega) rfl rfl
  · rw [if_neg fun h => hcnt (Nat.le_of_succ_le_succ h.1)]
    exact .inl ⟨Nat.lt_of_not_le hcnt, rfl⟩

theorem Coupled.recover (h : m.Coupled) (hstate : m.state = .recovering) : m.recover.Coupled := by
  rcases recover_cases hstate (h.pos_of_recovering hstate) with
    ⟨hcnt, heq⟩ | ⟨_, hlev, hzero, hnext⟩
  · rw [heq]
    exact ⟨h.stable_iff, fun _ => Nat.succ_le_of_lt hcnt⟩
  refine ⟨?_, fun _ => by omega⟩
  rw [hnext]
  split
  · exact ⟨fun _ => by omega, fun _ => rfl⟩
  · exact ⟨nofun, fun _ => by omega⟩

theorem coupled_of_pos (hstab : m.state ≠ .stable) (hrec : m.state ≠ .recovering)
    (hpos : 0 < m.degradeLevel) : m.Coupled where
  stable_iff := ⟨fun h => absurd h hstab, fun h => absurd h hpos.ne'⟩
  count_le h := absurd h hrec

theorem raised_pos {level levels : ℕ} (hlevels : 0 < levels) :
    0 < min (level + levels) kMaxDegradeLevel :=
  lt_min (Nat.add_pos_right _ hlevels) (by decide)

theorem Coupled.startRecovery (h : m.Coupled) (hstate : m.state ≠ .stable) :
    m.startRecovery.Coupled where
  stable_iff := ⟨nofun, fun hzero => absurd hzero (h.pos hstate).ne'⟩
  count_le _ := Nat.le_succ 1

theorem Coupled.step (h : m.Coupled) (ht : Transition m observed m') : m'.Coupled := by
  cases ht with
  | congest | stayCongested | warn =>
    exact coupled_of_pos nofun nofun (raised_pos (by decide))
  | stayStable | stayWarned => exact h
  | startFromWarning hstate | startFromCongestion hstate =>
    exact h.startRecovery (hstate.trans_ne (by decide))
  | recover hstate => exact h.recover hstate
  | restart hstate =>
    exact ⟨⟨nofun, fun hzero => absurd hzero (h.pos_of_recovering hstate).ne'⟩,
      fun _ => Nat.zero_le _⟩

theorem coupled_afterRun : (afterRun snapshots).Coupled :=
  runFrom_inv _ (fun m snapshot h => h.step (m.update_transition snapshot)) snapshots _
    coupled_initial

/-! ### The level -/

theorem Transition.degradeLevel_le (ht : Transition m observed m') (hobs : observed ≠ .stable) :
    m.degradeLevel ≤ m'.degradeLevel := by
  have hraise (levels : ℕ) : m.degradeLevel ≤ min (m.degradeLevel + levels) kMaxDegradeLevel :=
    le_min (Nat.le_add_right _ _) m.degradeLevel_le
  cases ht with
  | congest | stayCongested | warn => exact hraise _
  | stayStable | stayWarned | startFromWarning | startFromCongestion | restart => exact le_rfl
  | recover _ hstab => exact absurd hstab hobs

def remaining (m : DownlinkHealthMonitor) : ℕ :=
  if m.state = .recovering then 3 * m.degradeLevel - m.stableCount else 3 * m.degradeLevel

theorem remaining_le : m.remaining ≤ 3 * m.degradeLevel := by
  unfold remaining
  split
  · exact Nat.sub_le _ _
  · exact le_rfl

theorem remaining_of_ne (hstate : m.state ≠ .recovering) : m.remaining = 3 * m.degradeLevel :=
  if_neg hstate

theorem Coupled.remaining_recover (h : m.Coupled) (hstate : m.state = .recovering) :
    m.recover.degradeLevel ≤ m.degradeLevel ∧
      m.degradeLevel ≤ m.recover.degradeLevel + 1 ∧ m.recover.remaining + 1 ≤ m.remaining := by
  have hpos := h.pos_of_recovering hstate
  have hcnt := h.count_le hstate
  have hrem : m.remaining = 3 * m.degradeLevel - m.stableCount := if_pos hstate
  rcases recover_cases hstate hpos with ⟨_, heq⟩ | ⟨_, _, _, hnext⟩
  · have hnext : m.recover.remaining = 3 * m.degradeLevel - (m.stableCount + 1) := by
      rw [heq]
      exact if_pos hstate
    rw [heq] at hnext ⊢
    dsimp only
    omega
  · have hle := @remaining_le m.recover
    omega

theorem Coupled.step_stable (h : m.Coupled) (ht : Transition m .stable m') :
    m'.degradeLevel ≤ m.degradeLevel ∧ m.degradeLevel ≤ m'.degradeLevel + 1 ∧
      m'.remaining ≤ m.remaining - 1 := by
  cases ht with
  | congest _ hobs | stayCongested _ hobs | warn _ hobs | stayWarned _ hobs | restart _ hobs =>
    cases hobs
  | stayStable hstate =>
    have hle := @remaining_le m
    have hzero := h.stable_iff.mp hstate
    omega
  | startFromWarning hstate | startFromCongestion hstate =>
    -- the snapshot that starts the recovery counts
    have hbef := remaining_of_ne (hstate.trans_ne (by decide))
    have haft : m.startRecovery.remaining = 3 * m.degradeLevel - 1 := if_pos rfl
    exact ⟨le_rfl, Nat.le_succ _, by omega⟩
  | recover hstate =>
    obtain ⟨hle, _, _⟩ := h.remaining_recover hstate
    omega

theorem remaining_runFrom (hstab : ∀ snapshot ∈ snapshots, classify snapshot = .stable) :
    ∀ {m : DownlinkHealthMonitor}, m.Coupled →
      (Runs.runFrom update m snapshots).remaining ≤ m.remaining - snapshots.length := by
  induction snapshots with
  | nil => exact fun _ => le_rfl
  | cons snapshot snapshots ih =>
    intro m h
    have ht := m.update_transition snapshot
    have hrest := ih (fun s hs => hstab s (mem_cons_of_mem _ hs)) (h.step ht)
    rw [hstab snapshot mem_cons_self] at ht
    have hhead := (h.step_stable ht).2.2
    rw [runFrom_cons, length_cons]
    omega

theorem Coupled.stable_of_remaining (h : m.Coupled) (hzero : m.remaining = 0) :
    m.state = .stable ∧ m.degradeLevel = 0 := by
  suffices hlev : m.degradeLevel = 0 from ⟨h.stable_iff.mpr hlev, hlev⟩
  unfold remaining at hzero
  split at hzero
  next hstate =>
    have hcnt := h.count_le hstate
    omega
  · omega

/-- **Level and state along every run.**  The level is within its bounds, and zero exactly if
the state is stable; it rises only on a snapshot that is not stable, falls by at most one and
only on a stable one; and three times the level of stable snapshots bring it back to zero. -/
theorem afterRun_spec (snapshots : List DownlinkSnapshot) :
    (afterRun snapshots).degradeLevel ≤ 3 ∧
      ((afterRun snapshots).state = .stable ↔ (afterRun snapshots).degradeLevel = 0) ∧
      (∀ snapshot,
        ((afterRun snapshots).degradeLevel < (afterRun (snapshots ++ [snapshot])).degradeLevel →
          classify snapshot ≠ .stable) ∧
        (afterRun snapshots).degradeLevel ≤ (afterRun (snapshots ++ [snapshot])).degradeLevel + 1 ∧
        ((afterRun (snapshots ++ [snapshot])).degradeLevel < (afterRun snapshots).degradeLevel →
          classify snapshot = .stable)) ∧
      ∀ more : List DownlinkSnapshot, more.length = 3 * (afterRun snapshots).degradeLevel →
        (∀ snapshot ∈ more, classify snapshot = .stable) →
        (afterRun (snapshots ++ more)).state = .stable ∧
          (afterRun (snapshots ++ more)).degradeLevel = 0 := by
  have h := coupled_afterRun snapshots
  refine ⟨(afterRun snapshots).degradeLevel_le, h.stable_iff, fun snapshot => ?_, ?_⟩
  · rw [afterRun_concat]
    have ht := (afterRun snapshots).update_transition snapshot
    by_cases hstab : classify snapshot = .stable
    · rw [hstab] at ht
      obtain ⟨hle, hlt, -⟩ := h.step_stable ht
      exact ⟨fun hrise => absurd hrise hle.not_gt, hlt, fun _ => hstab⟩
    · have hle := ht.degradeLevel_le hstab
      exact ⟨fun _ => hstab, hle.trans (Nat.le_succ _), fun hfall => absurd hfall hle.not_gt⟩
  · intro more hlen hstab
    have hrem := remaining_runFrom more hstab h
    have hbd := @remaining_le (afterRun snapshots)
    have hrun : afterRun (snapshots ++ more) = runFrom update (afterRun snapshots) more :=
      runFrom_append _ _ _
    refine (coupled_afterRun _).stable_of_remaining ?_
    rw [hrun]
    omega

/-! ### Three stable snapshots in a row -/

def RecoversOnThree (snapshots : List DownlinkSnapshot) : Prop :=
  ∀ before snapshot, before ++ [snapshot] <+: snapshots →
    (afterRun (before ++ [snapshot])).degradeLevel < (afterRun before).degradeLevel →
    [.stable, .stable, .stable] <:+ (before ++ [snapshot]).map classify

def earlyRecovery : List DownlinkHealth := [.congested, .earlyWarning, .stable, .stable]

structure Counts (seen : List DownlinkHealth) (m : DownlinkHealthMonitor) : Prop where
  congested : m.state = .congested → [.congested] <:+ seen
  one : m.state = .recovering → m.stableCount = 1 →
    [.stable] <:+ seen ∨ [.congested, .earlyWarning] <:+ seen
  two : m.state = .recovering → m.stableCount = 2 →
    [.stable, .stable] <:+ seen ∨ [.congested, .earlyWarning, .stable] <:+ seen

theorem suffix_concat {α : Type*} {xs ys : List α} (h : xs <:+ ys) (a : α) :
    xs ++ [a] <:+ ys ++ [a] := by
  obtain ⟨front, rfl⟩ := h
  exact ⟨front, append_assoc _ _ _ |>.symm⟩

theorem counts_of_ne {seen : List DownlinkHealth} (hcong : m.state ≠ .congested)
    (hcnt : m.state = .recovering → m.stableCount = 0) : Counts seen m where
  congested h := absurd h hcong
  one h hone := by rw [hcnt h] at hone; cases hone
  two h htwo := by rw [hcnt h] at htwo; cases htwo

theorem Counts.step {seen : List DownlinkHealth} (h : Counts seen m) (hm : m.Coupled)
    (ht : Transition m observed m') : Counts (seen ++ [observed]) m' := by
  have hlast : [observed] <:+ seen ++ [observed] := suffix_append _ _
  cases ht with
  | congest _ hobs | stayCongested _ hobs =>
    subst hobs
    exact ⟨fun _ => hlast, nofun, nofun⟩
  | warn => exact counts_of_ne nofun nofun
  | stayStable hst | stayWarned hst =>
    exact counts_of_ne (hst.trans_ne (by decide)) fun h =>
      absurd h (hst.trans_ne (by decide))
  | startFromWarning _ hobs =>
    subst hobs
    exact ⟨nofun, fun _ _ => .inl hlast, nofun⟩
  | startFromCongestion hst hobs =>
    refine ⟨nofun, fun _ _ => ?_, nofun⟩
    rcases hobs with rfl | rfl
    · exact .inl hlast
    · exact .inr (suffix_concat (h.congested hst) _)
  | restart => exact counts_of_ne nofun fun _ => rfl
  | recover hst hobs =>
    subst hobs
    rcases recover_cases hst (hm.pos_of_recovering hst) with
      ⟨hlt, heq⟩ | ⟨_, _, hzero, hnext⟩
    · rw [heq]
      refine ⟨fun h => absurd h (hst.trans_ne (by decide)), fun _ _ => .inl hlast, fun _ htwo => ?_⟩
      exact (h.one hst (Nat.succ.inj htwo)).imp (suffix_concat · _) (suffix_concat · _)
    · refine counts_of_ne (fun h => ?_) fun _ => hzero
      rw [hnext] at h
      split at h <;> cases h

theorem counts_afterRun : Counts (snapshots.map classify) (afterRun snapshots) := by
  induction snapshots using List.reverseRecOn with
  | nil => exact counts_of_ne nofun nofun
  | append_singleton snapshots snapshot ih =>
    rw [afterRun_concat, map_append]
    exact ih.step (coupled_afterRun _) (update_transition _ _)

theorem Coupled.of_lt (h : m.Coupled) (ht : Transition m observed m')
    (hlt : m'.degradeLevel < m.degradeLevel) :
    observed = .stable ∧ m.state = .recovering ∧ m.stableCount = 2 := by
  have hobs : observed = .stable := by
    by_contra hobs
    exact absurd hlt (ht.degradeLevel_le hobs).not_gt
  subst hobs
  cases ht with
  | congest _ hobs | stayCongested _ hobs | warn _ hobs | stayWarned _ hobs | restart _ hobs =>
    cases hobs
  | stayStable | startFromWarning | startFromCongestion => exact absurd hlt (lt_irrefl _)
  | recover hst =>
    refine ⟨rfl, hst, ?_⟩
    rcases recover_cases hst (h.pos_of_recovering hst) with ⟨_, heq⟩ | ⟨hge, -⟩
    · rw [heq] at hlt
      exact absurd hlt (lt_irrefl _)
    · exact le_antisymm (h.count_le hst) hge

theorem lt_of_earlyRecovery {warned first second : DownlinkSnapshot} (hm : m.Coupled)
    (hst : m.state = .congested) (hwarn : classify warned = .earlyWarning)
    (hfst : classify first = .stable) (hsec : classify second = .stable) :
    (((m.update warned).update first).update second).degradeLevel <
      ((m.update warned).update first).degradeLevel := by
  have hstr : m.update warned = m.startRecovery := by
    unfold update
    rw [hst, hwarn]
  have hpos : 0 < m.degradeLevel := hm.pos (hst.trans_ne (by decide))
  have hone : m.startRecovery.update first = { m.startRecovery with stableCount := 2 } := by
    unfold update
    rw [hfst]
    rfl
  have htwo : ({ m.startRecovery with stableCount := 2 } : DownlinkHealthMonitor).update second =
      ({ m.startRecovery with stableCount := 2 } : DownlinkHealthMonitor).recover := by
    unfold update
    rw [hsec]
    rfl
  rw [hstr, hone, htwo, recover, if_pos ⟨le_rfl, hpos⟩]
  exact Nat.sub_lt hpos Nat.one_pos

/-- **Three stable snapshots in a row.**  In a run the level falls only on the third of three
stable snapshots in a row, exactly if congestion, a warning and two stable snapshots never
follow one another. -/
theorem recoversOnThree_iff (snapshots : List DownlinkSnapshot) :
    RecoversOnThree snapshots ↔ ¬earlyRecovery <:+: snapshots.map classify := by
  constructor
  · rintro h ⟨_, _, heq⟩
    simp only [earlyRecovery, append_assoc, cons_append, nil_append,
      append_eq_map_iff, map_eq_cons_iff] at heq
    obtain ⟨before, _, rfl, rfl, congested, _, rfl, hcong, warned, _, rfl, hwarn, first, _,
      rfl, hfst, second, after, rfl, hsec, rfl⟩ := heq
    have hlt := lt_of_earlyRecovery (coupled_afterRun (before ++ [congested]))
      (by rw [afterRun_concat]; exact (update_congested _ hcong).1) hwarn hfst hsec
    simp only [← afterRun_concat, append_assoc, cons_append, nil_append] at hlt
    have hthree := h (before ++ [congested, warned, first]) second ⟨after, by simp⟩
      (by simpa using hlt)
    -- the snapshot before the two stable ones is a warning
    rw [← reverse_prefix] at hthree
    simp [hwarn, hfst, hsec] at hthree
  · intro h before snapshot hearlier hlt
    rw [afterRun_concat] at hlt
    obtain ⟨hobs, hst, hcnt⟩ := (coupled_afterRun before).of_lt (update_transition _ _) hlt
    rw [map_append, map_singleton, hobs]
    refine ((counts_afterRun before).two hst hcnt).elim (suffix_concat · _) fun hearly => ?_
    -- the warning was counted
    have hfnd : earlyRecovery <:+ (before ++ [snapshot]).map classify := by
      rw [map_append, map_singleton, hobs]
      exact suffix_concat hearly _
    exact absurd (hfnd.isInfix.trans (hearlier.map classify).isInfix) h

def reportOf (currentRoundTripTime : ℚ) : DownlinkSnapshot where
  seq := 0
  subscriberPeerId := "bob"
  currentRoundTripTime := currentRoundTripTime

/-- Congestion, a warning and two stable reports: the level is two and falls to one. -/
theorem not_recoversOnThree :
    ((afterRun [reportOf (1 / 2), reportOf (3 / 10), reportOf 0]).degradeLevel = 2 ∧
      (afterRun [reportOf (1 / 2), reportOf (3 / 10), reportOf 0, reportOf 0]).degradeLevel = 1 ∧
      classify (reportOf (3 / 10)) ≠ .stable) ∧
    ¬RecoversOnThree [reportOf (1 / 2), reportOf (3 / 10), reportOf 0, reportOf 0] := by
  refine ⟨by decide +kernel, fun h => ?_⟩
  have hthree := h [reportOf (1 / 2), reportOf (3 / 10), reportOf 0] (reportOf 0) (by simp)
    (by decide +kernel)
  revert hthree
  decide +kernel

end DownlinkHealthMonitor

end MediasoupCpp
