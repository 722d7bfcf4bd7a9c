import MediasoupCpp.Lib.Dict
import MediasoupCpp.Qos.Override

/-!
# The overrides in force on a publisher's client

The controller of a track on the client keeps the overrides it was sent, each under its reason and
with the time it expires at.  An override with no time to live clears others; which ones depends
on its reason.

## Main results

* `ActiveOverrides.hasPause_iff` — **a pause is in force if one was sent that has not expired**.

Source: `src/client/lib/qos/controller.js`, `src/client/lib/qos/adapters/signalChannel.js`.
-/

namespace MediasoupCpp

open Option

structure ActiveOverride where
  data : ClientOverride
  expiresAtMs : ℤ

abbrev ActiveOverrides : Type := Dict String ActiveOverride

def startsWith (s start : String) : Bool := start.toList.isPrefixOf s.toList

def withoutEnding (s ending : String) : String :=
  if ending.toList.isSuffixOf s.toList then
    String.ofList (s.toList.take (s.toList.length - ending.toList.length))
  else s

/-- Which reasons a clear removes.  `server_ttl_expired` clears everything; the clears of
the downlink planner remove its own overrides; a clear that is not from the server
removes all that are not from the server; any other one removes what starts as it does,
up to the ending. -/
def clears (reason key : String) : Bool :=
  if reason = "server_ttl_expired" then true
  else if startsWith reason "downlink_v2_" || startsWith reason "downlink_v3_" then
    startsWith key "downlink_v2_" || startsWith key "downlink_v3_"
  else if !startsWith reason "server_" then !startsWith key "server_"
  else startsWith key (withoutEnding (withoutEnding reason "_clear") "_expired")

inductive OverrideFlag
  | forceAudioOnly
  | disableRecovery
  | pauseUpstream
  | resumeUpstream
  deriving DecidableEq

def ClientOverride.flag (override : ClientOverride) : OverrideFlag → Option Bool
  | .forceAudioOnly => override.forceAudioOnly
  | .disableRecovery => override.disableRecovery
  | .pauseUpstream => override.pauseUpstream
  | .resumeUpstream => override.resumeUpstream

namespace ActiveOverride

def merge (merged entry : ActiveOverride) : ActiveOverride where
  data :=
    { merged.data with
      maxLevelClamp :=
        match merged.data.maxLevelClamp, entry.data.maxLevelClamp with
        | some m, some c => some (min m c)
        | none, some c => some c
        | m, none => m
      forceAudioOnly :=
        if entry.data.forceAudioOnly = some true then some true else merged.data.forceAudioOnly
      disableRecovery :=
        if entry.data.disableRecovery = some true then some true else merged.data.disableRecovery
      pauseUpstream :=
        if entry.data.pauseUpstream = some true then some true else merged.data.pauseUpstream
      resumeUpstream :=
        if entry.data.resumeUpstream = some true then some true else merged.data.resumeUpstream }
  expiresAtMs := min merged.expiresAtMs entry.expiresAtMs

theorem flag_merge (merged entry : ActiveOverride) (flag : OverrideFlag) :
    (merged.merge entry).data.flag flag =
      if entry.data.flag flag = some true then some true else merged.data.flag flag := by
  cases flag <;> rfl

end ActiveOverride

namespace ActiveOverrides

variable (active : ActiveOverrides) (nowMs : ℤ)

def purge : ActiveOverrides := active.filter fun _ entry => decide (nowMs < entry.expiresAtMs)

def mergeOverrides : Option ActiveOverride :=
  match (active.purge nowMs).toPairs.map Prod.snd with
  | [] => none
  | entry :: entries => some (entries.foldl ActiveOverride.merge entry)

def getActiveOverride : Option ClientOverride :=
  (active.mergeOverrides nowMs).bind fun merged =>
    if merged.expiresAtMs ≤ nowMs then none else some merged.data

/-- The controller of a track is sent an override.  Overrides of other tracks are ignored;
merging what is kept afterwards drops what has expired. -/
def handleOverride (trackId : String) (override : ClientOverride) : ActiveOverrides :=
  if override.scope = .track ∧ override.trackId ≠ some (some trackId) then active
  else if override.ttlMs = 0 then
    ActiveOverrides.purge (active.filter fun key _ => !clears override.reason key) nowMs
  else
    ActiveOverrides.purge
      (active.set (if override.reason = "" then "_default" else override.reason)
        ⟨override, nowMs + override.ttlMs⟩) nowMs

/-- The controller of a track gets the data of an override notification.  What cannot be
read is dropped. -/
def handleMessage (trackId : String) (data : Json) : ActiveOverrides :=
  match parseQosOverride data with
  | .error _ => active
  | .ok override => active.handleOverride nowMs trackId override

def HasPause : Prop := ∃ data, active.getActiveOverride nowMs = some data ∧
  data.pauseUpstream = some true

instance : Decidable (active.HasPause nowMs) :=
  match h : active.getActiveOverride nowMs with
  | none => .isFalse (by rintro ⟨data, hdata, -⟩; rw [h] at hdata; exact nomatch hdata)
  | some data =>
    decidable_of_iff (data.pauseUpstream = some true)
      ⟨fun hpause => ⟨data, h, hpause⟩, fun ⟨data', hdata, hpause⟩ => by
        rw [h] at hdata
        cases hdata
        exact hpause⟩

def clampInForce : Option ℕ :=
  (active.getActiveOverride nowMs).bind ClientOverride.maxLevelClamp

/-! ### What is in force -/

variable {active nowMs}

theorem lookup_purge (active : ActiveOverrides) (nowMs : ℤ) (key : String) :
    (active.purge nowMs).lookup key =
      (active.lookup key).filter fun entry => decide (nowMs < entry.expiresAtMs) :=
  Dict.lookup_filter _ _ _

theorem flag_foldl_merge (flag : OverrideFlag) (entries : List ActiveOverride)
    (entry : ActiveOverride) :
    (entries.foldl ActiveOverride.merge entry).data.flag flag = some true ↔
      ∃ e ∈ entry :: entries, e.data.flag flag = some true := by
  induction entries generalizing entry with
  | nil => simp
  | cons next entries ih =>
    rw [List.foldl_cons, ih (entry.merge next)]
    simp only [List.exists_mem_cons_iff, ActiveOverride.flag_merge, ite_eq_left_iff]
    by_cases hnext : next.data.flag flag = some true <;> simp [hnext]

theorem maxLevelClamp_foldl_merge (entries : List ActiveOverride) (entry : ActiveOverride)
    (clamp : ℕ) : (entries.foldl ActiveOverride.merge entry).data.maxLevelClamp = some clamp ↔
      (∃ e ∈ entry :: entries, e.data.maxLevelClamp = some clamp) ∧
        ∀ e ∈ entry :: entries, ∀ clamp', e.data.maxLevelClamp = some clamp' → clamp ≤ clamp' := by
  induction entries generalizing entry with
  | nil => simp +contextual
  | cons next entries ih =>
    rw [List.foldl_cons, ih (entry.merge next)]
    simp only [List.exists_mem_cons_iff, List.forall_mem_cons, ActiveOverride.merge]
    cases hent : entry.data.maxLevelClamp with
    | none => cases hnext : next.data.maxLevelClamp <;> simp
    | some m =>
      cases hnext : next.data.maxLevelClamp with
      | none => simp
      | some n =>
        grind

theorem lt_expiresAtMs_foldl_merge {t : ℤ} (entries : List ActiveOverride) (entry : ActiveOverride)
    (ht : ∀ e ∈ entry :: entries, t < e.expiresAtMs) :
    t < (entries.foldl ActiveOverride.merge entry).expiresAtMs := by
  induction entries generalizing entry with
  | nil => exact ht entry List.mem_cons_self
  | cons next entries ih =>
    simp only [List.forall_mem_cons] at ht
    refine ih (entry.merge next) ?_
    rw [List.forall_mem_cons]
    exact ⟨lt_min ht.1 ht.2.1, ht.2.2⟩

def IsLive (active : ActiveOverrides) (nowMs : ℤ) (entry : ActiveOverride) : Prop :=
  ∃ key, active.lookup key = some entry ∧ nowMs < entry.expiresAtMs

variable {entry : ActiveOverride}

theorem mem_live :
    entry ∈ (active.purge nowMs).toPairs.map Prod.snd ↔ active.IsLive nowMs entry := by
  constructor
  · intro h
    obtain ⟨⟨key, entry⟩, hmem, rfl⟩ := List.mem_map.mp h
    have hlook := Dict.mem_toPairs.mp hmem
    rw [lookup_purge, filter_eq_some_iff] at hlook
    exact ⟨key, hlook.1, by simpa using hlook.2⟩
  · rintro ⟨key, hlook, hlive⟩
    refine List.mem_map.mpr ⟨(key, entry), Dict.mem_toPairs.mpr ?_, rfl⟩
    rw [lookup_purge, hlook]
    simp [hlive]

theorem getActiveOverride_eq (active : ActiveOverrides) (nowMs : ℤ) :
    active.getActiveOverride nowMs = match (active.purge nowMs).toPairs.map Prod.snd with
      | [] => none
      | entry :: entries => some (entries.foldl ActiveOverride.merge entry).data := by
  have hexp : ∀ entry ∈ (active.purge nowMs).toPairs.map Prod.snd,
      nowMs < entry.expiresAtMs := fun entry hent => (mem_live.mp hent).choose_spec.2
  rw [getActiveOverride, mergeOverrides]
  cases hents : (active.purge nowMs).toPairs.map Prod.snd with
  | nil => rfl
  | cons entry entries =>
    rw [hents] at hexp
    exact if_neg (not_le.mpr (lt_expiresAtMs_foldl_merge entries entry hexp))

theorem hasPause_iff : active.HasPause nowMs ↔
    ∃ key entry, active.lookup key = some entry ∧ nowMs < entry.expiresAtMs ∧
      entry.data.pauseUpstream = some true := by
  have hlive : (∃ key entry, active.lookup key = some entry ∧ nowMs < entry.expiresAtMs ∧
      entry.data.pauseUpstream = some true) ↔ ∃ entry ∈ (active.purge nowMs).toPairs.map Prod.snd,
          entry.data.pauseUpstream = some true := by
    simp only [mem_live]
    constructor
    · rintro ⟨key, entry, hlook, hexp, hpau⟩
      exact ⟨entry, ⟨key, hlook, hexp⟩, hpau⟩
    · rintro ⟨entry, ⟨key, hlook, hexp⟩, hpau⟩
      exact ⟨key, entry, hlook, hexp, hpau⟩
  rw [hlive, HasPause, getActiveOverride_eq]
  cases (active.purge nowMs).toPairs.map Prod.snd with
  | nil => simp
  | cons entry entries =>
    simp only [some.injEq, exists_eq_left']
    exact flag_foldl_merge .pauseUpstream entries entry

theorem clampInForce_eq_some_iff {clamp : ℕ} : active.clampInForce nowMs = some clamp ↔
      (∃ entry, active.IsLive nowMs entry ∧ entry.data.maxLevelClamp = some clamp) ∧
        ∀ entry, active.IsLive nowMs entry →
          ∀ clamp', entry.data.maxLevelClamp = some clamp' → clamp ≤ clamp' := by
  simp only [← mem_live]
  rw [clampInForce, getActiveOverride_eq]
  cases (active.purge nowMs).toPairs.map Prod.snd with
  | nil => simp
  | cons entry entries => exact maxLevelClamp_foldl_merge entries entry clamp

theorem clampInForce_eq_none_iff : active.clampInForce nowMs = none ↔
      ∀ entry, active.IsLive nowMs entry → entry.data.maxLevelClamp = none := by
  constructor
  · intro hnone entry hlive
    by_contra hcl
    -- of the clamps there are, the lowest one would be in force
    have hex : ∃ clamp entry, active.IsLive nowMs entry ∧
        entry.data.maxLevelClamp = some clamp := by
      obtain ⟨clamp, hcl⟩ := ne_none_iff_exists'.mp hcl
      exact ⟨clamp, entry, hlive, hcl⟩
    classical
    have hleast : active.clampInForce nowMs = some (Nat.find hex) :=
      clampInForce_eq_some_iff.mpr ⟨Nat.find_spec hex, fun entry hlive clamp' h =>
        Nat.find_min' hex ⟨entry, hlive, h⟩⟩
    rw [hnone] at hleast
    cases hleast
  · intro hnone
    cases hcl : active.clampInForce nowMs with
    | none => rfl
    | some clamp =>
      obtain ⟨⟨entry, hlive, hent⟩, -⟩ := clampInForce_eq_some_iff.mp hcl
      rw [hnone entry hlive] at hent
      cases hent

theorem isLive_set {key : String}
    (hnew : ∀ old, active.lookup key = some old → old.expiresAtMs ≤ nowMs)
    (hexp : nowMs < entry.expiresAtMs) (e : ActiveOverride) :
    IsLive (active.set key entry) nowMs e ↔ e = entry ∨ active.IsLive nowMs e := by
  simp only [IsLive, Dict.lookup_set]
  constructor
  · rintro ⟨key', he, hlive⟩
    split at he
    · exact .inl (some.inj he).symm
    · exact .inr ⟨key', he, hlive⟩
  rintro (rfl | ⟨key', he, hlive⟩)
  · exact ⟨key, if_pos rfl, hexp⟩
  refine ⟨key', ?_, hlive⟩
  rw [if_neg]
  · exact he
  · rintro rfl
    exact absurd (hnew e he) (not_le.mpr hlive)

theorem clampInForce_set {key : String} {clamp : ℕ}
    (hnew : ∀ old, active.lookup key = some old → old.expiresAtMs ≤ nowMs)
    (hexp : nowMs < entry.expiresAtMs) (hcl : entry.data.maxLevelClamp = some clamp) :
    clampInForce (active.set key entry) nowMs = some (match active.clampInForce nowMs with
        | some clamp' => min clamp' clamp
        | none => clamp) := by
  rw [clampInForce_eq_some_iff]
  simp only [isLive_set hnew hexp, exists_eq_or_imp, forall_eq_or_imp, hcl, some.injEq, forall_eq']
  cases hbef : active.clampInForce nowMs with
  | none =>
    have hnone := clampInForce_eq_none_iff.mp hbef
    refine ⟨.inl rfl, le_rfl, fun e he clamp' h => ?_⟩
    rw [hnone e he] at h
    cases h
  | some clamp' =>
    obtain ⟨_, hleast⟩ := clampInForce_eq_some_iff.mp hbef
    refine ⟨?_, min_le_right _ _, fun e he c h => (min_le_left _ _).trans (hleast e he c h)⟩
    rcases le_total clamp' clamp with hle | hle
    · refine .inr ?_
      dsimp only
      rwa [min_eq_left hle]
    · exact .inl (min_eq_right hle).symm

end ActiveOverrides

end MediasoupCpp
