import Mathlib.Data.List.Infix
import MediasoupCpp.Lib.Run
import MediasoupCpp.Qos.OverrideClient

/-!
# What overrides add up to, and what a clear takes away

A controller merges the overrides it keeps in the order they came in, and drops those that have
expired while it reads them.  Neither shows in the result: the clamp is the lowest of those that
have not expired, a flag is set if one of them sets it, and so taking an override away can only
relax what is in force.

Main results: `effective_override`, `clearsFamily_iff`.

Source: `src/client/lib/qos/controller.js`.
-/

namespace MediasoupCpp

open Option Bool

/-! ### Flags -/

def ClientOverride.AppliesTo (override : ClientOverride) (trackId : String) : Prop :=
  ¬(override.scope = .track ∧ override.trackId ≠ some (some trackId))

instance (override : ClientOverride) (trackId : String) :
    Decidable (override.AppliesTo trackId) :=
  inferInstanceAs (Decidable (¬_))

namespace ActiveOverrides

variable {active : ActiveOverrides} {nowMs : ℤ}

def flagInForce (active : ActiveOverrides) (nowMs : ℤ) (flag : OverrideFlag) : Bool :=
  (active.getActiveOverride nowMs).any fun override => override.flag flag = some true

theorem flagInForce_iff (flag : OverrideFlag) : active.flagInForce nowMs flag ↔
      ∃ entry, active.IsLive nowMs entry ∧ entry.data.flag flag = some true := by
  simp only [← mem_live]
  rw [flagInForce, getActiveOverride_eq]
  cases (active.purge nowMs).toPairs.map Prod.snd with
  | nil => simp
  | cons entry entries => simpa using flag_foldl_merge flag entries entry

theorem isSome_getActiveOverride_iff :
    (active.getActiveOverride nowMs).isSome ↔ ∃ entry, active.IsLive nowMs entry := by
  simp only [← mem_live]
  rw [getActiveOverride_eq]
  cases (active.purge nowMs).toPairs.map Prod.snd with
  | nil | cons => simp

/-! ### Order and removal -/

/-- What one controller has in force restricts no more than what the other one has. -/
structure Relaxes (active active' : ActiveOverrides) (nowMs : ℤ) : Prop where
  flag : ∀ flag, active.flagInForce nowMs flag = true → active'.flagInForce nowMs flag = true
  clamp : ∀ clamp, active.clampInForce nowMs = some clamp →
    ∃ clamp', active'.clampInForce nowMs = some clamp' ∧ clamp' ≤ clamp

variable {active' : ActiveOverrides}

theorem relaxes_of_isLive (h : ∀ entry, active.IsLive nowMs entry →
      ∃ entry', active'.IsLive nowMs entry' ∧ entry'.data = entry.data) :
    active.Relaxes active' nowMs := by
  constructor
  · intro flag hflag
    obtain ⟨entry, hlive, hset⟩ := (flagInForce_iff flag).mp hflag
    obtain ⟨entry', hlive', hdata⟩ := h entry hlive
    exact (flagInForce_iff flag).mpr ⟨entry', hlive', hdata ▸ hset⟩
  intro clamp hcl
  obtain ⟨⟨entry, hlive, hset⟩, -⟩ := clampInForce_eq_some_iff.mp hcl
  obtain ⟨entry', hlive', hdata⟩ := h entry hlive
  cases hcl' : active'.clampInForce nowMs with
  | none =>
    have hnone := clampInForce_eq_none_iff.mp hcl' entry' hlive'
    rw [hdata, hset] at hnone
    cases hnone
  | some clamp' =>
    have hleast := (clampInForce_eq_some_iff.mp hcl').2 entry' hlive' clamp
    exact ⟨clamp', rfl, hleast (hdata ▸ hset)⟩

theorem Relaxes.antisymm (h : active.Relaxes active' nowMs) (h' : active'.Relaxes active nowMs) :
    active.clampInForce nowMs = active'.clampInForce nowMs ∧
      ∀ flag, active.flagInForce nowMs flag = active'.flagInForce nowMs flag := by
  constructor
  · cases hcl : active.clampInForce nowMs with
    | none =>
      cases hcl' : active'.clampInForce nowMs with
      | none => rfl
      | some clamp' =>
        obtain ⟨clamp, hsome, -⟩ := h'.clamp clamp' hcl'
        rw [hcl] at hsome
        cases hsome
    | some clamp =>
      obtain ⟨clamp', hcl', hle⟩ := h.clamp clamp hcl
      obtain ⟨clamp'', hcl'', hle'⟩ := h'.clamp clamp' hcl'
      obtain rfl : clamp = clamp'' := some.inj (hcl.symm.trans hcl'')
      rw [hcl', le_antisymm hle hle']
  · intro flag
    exact eq_iff_iff.mpr ⟨h.flag flag, h'.flag flag⟩

def HasLive (active : ActiveOverrides) (nowMs : ℤ) (override : ClientOverride) : Prop :=
  ∃ entry, active.IsLive nowMs entry ∧ entry.data = override

theorem relaxes_of_hasLive
    (h : ∀ override, active.HasLive nowMs override → active'.HasLive nowMs override) :
    active.Relaxes active' nowMs :=
  relaxes_of_isLive fun entry hlive => h entry.data ⟨entry, hlive, rfl⟩

theorem isLive_of_erase {key : String} {entry : ActiveOverride}
    (h : IsLive (active.erase key) nowMs entry) : active.IsLive nowMs entry := by
  obtain ⟨key', hlook, hlive⟩ := h
  rw [Dict.lookup_erase_eq] at hlook
  split at hlook
  · cases hlook
  · exact ⟨key', hlook, hlive⟩

theorem isLive_purge {t : ℤ} (ht : t ≤ nowMs) (entry : ActiveOverride) :
    IsLive (active.purge t) nowMs entry ↔ active.IsLive nowMs entry := by
  simp only [IsLive, lookup_purge, filter_eq_some_iff, decide_eq_true_eq]
  constructor
  · rintro ⟨key, ⟨hlook, -⟩, hlive⟩
    exact ⟨key, hlook, hlive⟩
  · rintro ⟨key, hlook, hlive⟩
    exact ⟨key, ⟨hlook, by omega⟩, hlive⟩

end ActiveOverrides

/-! ### Histories -/

/-- What happens to the overrides of a controller: one comes in, or they are read, which drops
those that have expired. -/
inductive OverrideStoreEvent
  | received (nowMs : ℤ) (override : ClientOverride)
  | read (nowMs : ℤ)

namespace ActiveOverrides

variable (trackId : String)

def step (active : ActiveOverrides) : OverrideStoreEvent → ActiveOverrides
  | .received nowMs override => active.handleOverride nowMs trackId override
  | .read nowMs => active.purge nowMs

abbrev reach (es : List OverrideStoreEvent) : ActiveOverrides :=
  Runs.runFrom (step trackId) ∅ es

def ForTrack (active : ActiveOverrides) : Prop :=
  ∀ key entry, active.lookup key = some entry → entry.data.AppliesTo trackId

theorem ForTrack.filter {trackId : String} {active : ActiveOverrides} (h : active.ForTrack trackId)
    (p : String → ActiveOverride → Bool) : ForTrack trackId (active.filter p) := by
  intro key entry hlook
  rw [Dict.lookup_filter, filter_eq_some_iff] at hlook
  exact h key entry hlook.1

theorem ForTrack.step {trackId : String} {active : ActiveOverrides} (h : active.ForTrack trackId)
    (e : OverrideStoreEvent) : ForTrack trackId (active.step trackId e) := by
  cases e with
  | read nowMs => exact h.filter _
  | received nowMs override =>
    simp only [ActiveOverrides.step, handleOverride]
    split
    · exact h
    rename_i happ
    split
    · exact (h.filter _).filter _
    apply ForTrack.filter
    intro key entry hlook
    rw [Dict.lookup_set] at hlook
    by_cases hkey : key = if override.reason = "" then "_default" else override.reason
    · rw [if_pos hkey] at hlook
      cases hlook
      exact happ
    · rw [if_neg hkey] at hlook
      exact h key entry hlook

theorem forTrack_reach (es : List OverrideStoreEvent) : ForTrack trackId (reach trackId es) :=
  Runs.runFrom_inv (ForTrack trackId) (fun _ e h => h.step e) es ∅
    (fun _ _ hlook => nomatch hlook)

/-- **What is in force is the lowest clamp and the union of the flags.**  After every history a
controller keeps only overrides for its track, and for all overrides it may keep and at every time:
the clamp in force is the lowest one of those that have not expired, and there is none if none of
them has one; a flag is in force if one of them sets it; two controllers for which the same
overrides have not expired have the same in force, dropping expired ones early included; and with
one override less nothing is restricted more. -/
theorem effective_override :
    (∀ es key entry, (reach trackId es).lookup key = some entry →
        entry.data.AppliesTo trackId) ∧
      ∀ (active : ActiveOverrides) (nowMs : ℤ),
        (∀ clamp, active.clampInForce nowMs = some clamp ↔
          (∃ entry, active.IsLive nowMs entry ∧ entry.data.maxLevelClamp = some clamp) ∧
            ∀ entry, active.IsLive nowMs entry →
              ∀ clamp', entry.data.maxLevelClamp = some clamp' → clamp ≤ clamp') ∧
        (active.clampInForce nowMs = none ↔
          ∀ entry, active.IsLive nowMs entry → entry.data.maxLevelClamp = none) ∧
        (∀ flag, active.flagInForce nowMs flag = true ↔
          ∃ entry, active.IsLive nowMs entry ∧ entry.data.flag flag = some true) ∧
        (∀ active' : ActiveOverrides,
          (∀ override, active.HasLive nowMs override ↔ active'.HasLive nowMs override) →
            (active.getActiveOverride nowMs).isSome = (active'.getActiveOverride nowMs).isSome ∧
            active.clampInForce nowMs = active'.clampInForce nowMs ∧
            ∀ flag, active.flagInForce nowMs flag = active'.flagInForce nowMs flag) ∧
        (∀ t ≤ nowMs, ∀ entry,
          IsLive (active.purge t) nowMs entry ↔ active.IsLive nowMs entry) ∧
        ∀ key, Relaxes (active.erase key) active nowMs := by
  refine ⟨forTrack_reach trackId, fun active nowMs => ⟨fun _ => clampInForce_eq_some_iff,
    clampInForce_eq_none_iff, flagInForce_iff, ?_, fun t ht => isLive_purge ht, ?_⟩⟩
  · intro active' hsame
    have hto : active.Relaxes active' nowMs := relaxes_of_hasLive fun o => (hsame o).mp
    have hfrom : active'.Relaxes active nowMs := relaxes_of_hasLive fun o => (hsame o).mpr
    refine ⟨?_, hto.antisymm hfrom⟩
    rw [Bool.eq_iff_iff, isSome_getActiveOverride_iff, isSome_getActiveOverride_iff]
    constructor
    · rintro ⟨entry, hlive⟩
      obtain ⟨entry', hlive', -⟩ := (hsame entry.data).mp ⟨entry, hlive, rfl⟩
      exact ⟨entry', hlive'⟩
    · rintro ⟨entry, hlive⟩
      obtain ⟨entry', hlive', -⟩ := (hsame entry.data).mpr ⟨entry, hlive, rfl⟩
      exact ⟨entry', hlive'⟩
  · intro key
    apply relaxes_of_isLive
    intro entry hlive
    exact ⟨entry, isLive_of_erase hlive, rfl⟩

end ActiveOverrides

/-! ### Starts of reasons -/

theorem startsWith_exclusive {s start start' : String} (h : startsWith s start)
    (hapart : ¬start.toList <+: start'.toList ∧ ¬start'.toList <+: start.toList) :
    startsWith s start' = false := by
  by_contra hst'
  rw [not_eq_false, startsWith, List.isPrefixOf_iff_prefix] at hst'
  rw [startsWith, List.isPrefixOf_iff_prefix] at h
  rcases List.prefix_or_prefix_of_prefix h hst' with hle | hle
  · exact hapart.1 hle
  · exact hapart.2 hle

theorem startsWith_trans {s start start' : String} (h : startsWith s start)
    (hst : startsWith start start') : startsWith s start' := by
  rw [startsWith, List.isPrefixOf_iff_prefix] at h hst ⊢
  exact hst.trans h

theorem startsWith_withoutEnding {s start ending : String} (h : startsWith s start)
    (hapart : ∀ l ∈ start.toList.tails, l = [] ∨ ¬l <+: ending.toList) :
    startsWith (withoutEnding s ending) start := by
  unfold withoutEnding
  split
  next hend =>
    rw [List.isSuffixOf_iff_suffix] at hend
    obtain ⟨rest, hrest⟩ := hend
    have htake : s.toList.take (s.toList.length - ending.toList.length) = rest := by
      rw [← hrest]
      simp
    rw [startsWith, List.isPrefixOf_iff_prefix] at h ⊢
    rw [htake, String.toList_ofList]
    rw [← hrest] at h
    -- either the start lies within the rest, or its end begins the ending
    rcases List.prefix_or_prefix_of_prefix h (List.prefix_append rest ending.toList) with hle | hle
    · exact hle
    obtain ⟨beyond, hbeyond⟩ := hle
    rw [← hbeyond, List.prefix_append_right_inj] at h
    have htail : beyond ∈ start.toList.tails := by
      rw [List.mem_tails, ← hbeyond]
      exact List.suffix_append rest beyond
    rcases hapart beyond htail with hnil | hnot
    · rw [← hbeyond, hnil, List.append_nil]
    · exact absurd h hnot
  · exact h

/-! ### Families -/

inductive OverrideFamily
  /-- The server's answer to the reports of the peer. -/
  | automatic
  /-- The server's answer to the reports of the room. -/
  | roomPressure
  /-- The downlink planner's control of a track. -/
  | downlink
  | manual
  deriving DecidableEq

def overrideFamily (reason : String) : Option OverrideFamily :=
  if startsWith reason "server_auto" then some .automatic
  else if startsWith reason "server_room_pressure" then some .roomPressure
  else if startsWith reason "server_" then none
  else if startsWith reason "downlink_v2_" || startsWith reason "downlink_v3_" then some .downlink
  else some .manual

def OverrideFamily.start : OverrideFamily → String
  | .automatic => "server_auto"
  | .roomPressure => "server_room_pressure"
  | .downlink => "downlink_v"
  | .manual => ""

section Family

variable {reason : String}

theorem overrideFamily_eq_automatic :
    overrideFamily reason = some .automatic ↔ startsWith reason "server_auto" := by
  unfold overrideFamily
  split_ifs <;> simp_all

theorem overrideFamily_eq_roomPressure : overrideFamily reason = some .roomPressure ↔
      startsWith reason "server_room_pressure" := by
  constructor
  · intro h
    unfold overrideFamily at h
    split_ifs at h <;> simp_all
  · intro h
    have hauto : startsWith reason "server_auto" = false := startsWith_exclusive h (by decide)
    simp [overrideFamily, hauto, h]

theorem overrideFamily_of_server (h : startsWith reason "server_") :
    overrideFamily reason ≠ some .downlink ∧ overrideFamily reason ≠ some .manual := by
  unfold overrideFamily
  split_ifs <;> simp

theorem overrideFamily_of_not_server (h : startsWith reason "server_" = false) :
    overrideFamily reason =
      if startsWith reason "downlink_v2_" || startsWith reason "downlink_v3_" then some .downlink
      else some .manual := by
  have hapart : ∀ start, startsWith start "server_" → startsWith reason start = false := by
    intro start hst
    by_contra hwhy
    rw [not_eq_false] at hwhy
    rw [startsWith_trans hwhy hst] at h
    cases h
  rw [overrideFamily, hapart "server_auto" (by decide), hapart "server_room_pressure" (by decide),
    h]
  rfl

theorem overrideFamily_eq_downlink : overrideFamily reason = some .downlink ↔
      (startsWith reason "downlink_v2_" || startsWith reason "downlink_v3_") := by
  cases hserv : startsWith reason "server_" with
  | true =>
    have hv2 : startsWith reason "downlink_v2_" = false := startsWith_exclusive hserv (by decide)
    have hv3 : startsWith reason "downlink_v3_" = false := startsWith_exclusive hserv (by decide)
    simp [overrideFamily_of_server hserv, hv2, hv3]
  | false =>
    rw [overrideFamily_of_not_server hserv]
    split_ifs with h <;> simp [h]

theorem overrideFamily_eq_manual : overrideFamily reason = some .manual ↔
      startsWith reason "server_" = false ∧
        (startsWith reason "downlink_v2_" || startsWith reason "downlink_v3_") = false := by
  cases hserv : startsWith reason "server_" with
  | true => simp [overrideFamily_of_server hserv]
  | false =>
    rw [overrideFamily_of_not_server hserv]
    split_ifs with h <;> simp [h]

theorem overrideFamily_eq_start {family : OverrideFamily}
    (hfam : family = .automatic ∨ family = .roomPressure) :
    overrideFamily reason = some family ↔ startsWith reason family.start := by
  rcases hfam with rfl | rfl
  · exact overrideFamily_eq_automatic
  · exact overrideFamily_eq_roomPressure

end Family

/-! ### What a clear removes -/

def clearStart (reason : String) : String :=
  withoutEnding (withoutEnding reason "_clear") "_expired"

section Clears

variable {reason : String}

theorem startsWith_clearStart {family : OverrideFamily}
    (hfam : family = .automatic ∨ family = .roomPressure)
    (h : overrideFamily reason = some family) : startsWith (clearStart reason) family.start := by
  have hst := (overrideFamily_eq_start hfam).mp h
  rcases hfam with rfl | rfl
  · exact startsWith_withoutEnding (startsWith_withoutEnding hst (by decide)) (by decide)
  · exact startsWith_withoutEnding (startsWith_withoutEnding hst (by decide)) (by decide)

theorem clears_of_server_family {family : OverrideFamily}
    (hfam : family = .automatic ∨ family = .roomPressure)
    (h : overrideFamily reason = some family) (key : String) :
    clears reason key = startsWith key (clearStart reason) := by
  have hst := (overrideFamily_eq_start hfam).mp h
  have hserv : startsWith reason "server_" := by
    rcases hfam with rfl | rfl <;> exact startsWith_trans hst (by decide)
  have hv2 : startsWith reason "downlink_v2_" = false := startsWith_exclusive hserv (by decide)
  have hv3 : startsWith reason "downlink_v3_" = false := startsWith_exclusive hserv (by decide)
  have hexp : reason ≠ "server_ttl_expired" := by
    rintro rfl
    rcases hfam with rfl | rfl <;> cases hst
  simp [clears, clearStart, hexp, hv2, hv3, hserv]

theorem clears_of_downlink (h : overrideFamily reason = some .downlink) (key : String) :
    clears reason key ↔ overrideFamily key = some .downlink := by
  have hdown := overrideFamily_eq_downlink.mp h
  have hexp : reason ≠ "server_ttl_expired" := by
    rintro rfl
    cases h
  rw [overrideFamily_eq_downlink, clears, if_neg hexp, if_pos hdown]

theorem clears_of_manual (h : overrideFamily reason = some .manual) (key : String) :
    clears reason key = !startsWith key "server_" := by
  obtain ⟨hserv, hdown⟩ := overrideFamily_eq_manual.mp h
  have hexp : reason ≠ "server_ttl_expired" := by
    rintro rfl
    cases hserv
  simp [clears, hexp, hdown, hserv]

end Clears

namespace ActiveOverrides

theorem lookup_handleOverride_clear {active : ActiveOverrides} {nowMs : ℤ} {trackId : String}
    {override : ClientOverride} (httl : override.ttlMs = 0)
    (happ : override.AppliesTo trackId) (key : String) :
    (active.handleOverride nowMs trackId override).lookup key =
      if clears override.reason key then none
      else (active.lookup key).filter fun entry => decide (nowMs < entry.expiresAtMs) := by
  rw [handleOverride, if_neg happ, if_pos httl, lookup_purge, Dict.lookup_filter]
  cases hclr : clears override.reason key <;> cases active.lookup key <;> simp

end ActiveOverrides

/-- A clear removes every override of one family, and leaves what has not expired of the other
families as it is. -/
structure ClearsFamily (before after : ActiveOverrides) (nowMs : ℤ) (family : OverrideFamily) :
    Prop where
  removes : ∀ key, overrideFamily key = some family → after.lookup key = none
  keeps : ∀ key other entry, overrideFamily key = some other → other ≠ family →
    before.lookup key = some entry → nowMs < entry.expiresAtMs → after.lookup key = some entry

/-- What has to be so for a clear to affect its family only.  A manual clear must not find
overrides of the downlink planner, a clear of the server must name the start of all overrides of
its family that have not expired, and a clear for another track is for this one only if there is
nothing to clear. -/
def ActiveOverrides.Separable (active : ActiveOverrides) (nowMs : ℤ) (trackId : String)
    (clear : ClientOverride) (family : OverrideFamily) : Prop :=
  if clear.AppliesTo trackId then
    match family with
    | .downlink => True
    | .manual => ∀ key entry, overrideFamily key = some .downlink →
        active.lookup key = some entry → entry.expiresAtMs ≤ nowMs
    | .automatic | .roomPressure => ∀ key entry, overrideFamily key = some family →
        active.lookup key = some entry → nowMs < entry.expiresAtMs →
          startsWith key (clearStart clear.reason) = true
  else ∀ key, overrideFamily key = some family → active.lookup key = none

section ClearsFamily

variable {active : ActiveOverrides} {nowMs : ℤ} {trackId : String} {clear : ClientOverride}
  {family : OverrideFamily}

theorem clearsFamily_iff_clears (httl : clear.ttlMs = 0) (happ : clear.AppliesTo trackId) :
    ClearsFamily active (active.handleOverride nowMs trackId clear) nowMs family ↔
      ∀ key entry, active.lookup key = some entry → nowMs < entry.expiresAtMs →
        (overrideFamily key = some family → clears clear.reason key) ∧
          ∀ other, overrideFamily key = some other → other ≠ family →
            clears clear.reason key = false := by
  have hlook : ∀ key, (active.handleOverride nowMs trackId clear).lookup key =
      if clears clear.reason key then none
      else (active.lookup key).filter fun entry => decide (nowMs < entry.expiresAtMs) :=
    ActiveOverrides.lookup_handleOverride_clear httl happ
  constructor
  · intro h key entry hent hlive
    have haft := hlook key
    rw [hent, filter_some_pos (by simpa using hlive)] at haft
    constructor
    · intro hfam
      by_contra hclr
      rw [h.removes key hfam, if_neg hclr] at haft
      cases haft
    intro other hoth hne
    by_contra hclr
    rw [not_eq_false] at hclr
    rw [h.keeps key other entry hoth hne hent hlive, if_pos hclr] at haft
    cases haft
  · intro h
    constructor
    · intro key hfam
      rw [hlook]
      split
      · rfl
      rename_i hclr
      -- what is left over of the family has expired
      rw [filter_eq_none_iff]
      intro entry hent hlive
      exact hclr ((h key entry hent (by simpa using hlive)).1 hfam)
    · intro key other entry hoth hne hent hlive
      rw [hlook, (h key entry hent hlive).2 other hoth hne, hent]
      simp [hlive]

theorem clearsFamily_iff_of_server (hserv : family = .automatic ∨ family = .roomPressure)
    (httl : clear.ttlMs = 0) (happ : clear.AppliesTo trackId)
    (hfam : overrideFamily clear.reason = some family) :
    ClearsFamily active (active.handleOverride nowMs trackId clear) nowMs family ↔
      ∀ key entry, overrideFamily key = some family → active.lookup key = some entry →
        nowMs < entry.expiresAtMs → startsWith key (clearStart clear.reason) := by
  have hclr := clears_of_server_family hserv hfam
  have hst := startsWith_clearStart hserv hfam
  rw [clearsFamily_iff_clears httl happ]
  constructor
  · intro h key entry hkey hent hlive
    rw [← hclr]
    exact (h key entry hent hlive).1 hkey
  intro h key entry hent hlive
  rw [hclr]
  constructor
  · intro hkey
    exact h key entry hkey hent hlive
  intro other hoth hne
  by_contra hclear
  rw [not_eq_false] at hclear
  have hkey := (overrideFamily_eq_start hserv).mpr (startsWith_trans hclear hst)
  exact hne (some.inj (hoth.symm.trans hkey))

theorem clearsFamily_of_downlink (httl : clear.ttlMs = 0) (happ : clear.AppliesTo trackId)
    (hfam : overrideFamily clear.reason = some .downlink) :
    ClearsFamily active (active.handleOverride nowMs trackId clear) nowMs .downlink := by
  rw [clearsFamily_iff_clears httl happ]
  intro key entry _ _
  refine ⟨(clears_of_downlink hfam key).mpr, ?_⟩
  intro other hoth hne
  by_contra hclear
  rw [not_eq_false, clears_of_downlink hfam, hoth] at hclear
  exact hne (some.inj hclear)

theorem clearsFamily_iff_of_manual (httl : clear.ttlMs = 0) (happ : clear.AppliesTo trackId)
    (hfam : overrideFamily clear.reason = some .manual) :
    ClearsFamily active (active.handleOverride nowMs trackId clear) nowMs .manual ↔
      ∀ key entry, overrideFamily key = some .downlink → active.lookup key = some entry →
        entry.expiresAtMs ≤ nowMs := by
  have hclr := clears_of_manual hfam
  rw [clearsFamily_iff_clears httl happ]
  constructor
  · intro h key entry hkey hent
    by_contra hlive
    have hkept := (h key entry hent (not_le.mp hlive)).2 .downlink hkey (by decide)
    rw [hclr, not_eq_false'] at hkept
    exact (overrideFamily_of_server hkept).1 hkey
  intro h key entry hent hlive
  rw [hclr]
  constructor
  · intro hkey
    simp [(overrideFamily_eq_manual.mp hkey).1]
  intro other hoth hne
  by_contra hclear
  -- what does not begin as the server's is the planner's, and has expired
  rw [not_eq_false, not_eq_true'] at hclear
  rw [overrideFamily_of_not_server hclear] at hoth
  split at hoth
  next hdown =>
    have hexp := h key entry (overrideFamily_eq_downlink.mpr hdown) hent
    omega
  · exact hne (some.inj hoth).symm

/-- **A clear affects its own family only if the overrides are separable.**  Whatever overrides a
controller keeps, a clear whose reason is in a family removes all overrides of the family and
leaves what has not expired of the other families as it is, exactly when they are separable. -/
theorem clearsFamily_iff (active : ActiveOverrides) (nowMs : ℤ) (trackId : String)
    (clear : ClientOverride) (family : OverrideFamily) (httl : clear.ttlMs = 0)
    (hfam : overrideFamily clear.reason = some family) :
    ClearsFamily active (active.handleOverride nowMs trackId clear) nowMs family ↔
      active.Separable nowMs trackId clear family := by
  unfold ActiveOverrides.Separable
  by_cases happ : clear.AppliesTo trackId
  · rw [if_pos happ]
    cases family with
    | automatic => exact clearsFamily_iff_of_server (.inl rfl) httl happ hfam
    | roomPressure => exact clearsFamily_iff_of_server (.inr rfl) httl happ hfam
    | downlink => exact iff_of_true (clearsFamily_of_downlink httl happ hfam) trivial
    | manual => exact clearsFamily_iff_of_manual httl happ hfam
  · -- a clear for another track does nothing
    have hsame : active.handleOverride nowMs trackId clear = active :=
      if_pos (not_not.mp happ)
    rw [if_neg happ, hsame]
    constructor
    · intro h
      exact h.removes
    · intro h
      exact ⟨h, fun _ _ _ _ _ hent _ => hent⟩

end ClearsFamily

def cameraPauseKept : ActiveOverrides :=
  ActiveOverrides.handleOverride ∅ 0 "camera" (makeTrackPause "camera" 15000).toClient

def peerClear (reason : String) : ClientOverride where
  scope := .peer
  trackId := some none
  maxLevelClamp := none
  forceAudioOnly := none
  disableRecovery := none
  pauseUpstream := none
  resumeUpstream := none
  ttlMs := 0
  reason := reason

theorem clearsFamily_downlink_pause :
    overrideFamily "downlink_v3_zero_demand_pause" = some .downlink ∧
      ClearsFamily cameraPauseKept
        (cameraPauseKept.handleOverride 1000 "camera" (peerClear "downlink_v3_zero_demand_pause"))
        1000 .downlink :=
  ⟨by decide, (clearsFamily_iff cameraPauseKept 1000 "camera"
    (peerClear "downlink_v3_zero_demand_pause") .downlink rfl (by decide)).mpr (by
      rw [ActiveOverrides.Separable, if_pos (by decide)]
      trivial)⟩

/-- **A manual clear takes a pause of the planner away**, long before it expires. -/
theorem manual_clear_removes_downlink_pause :
    overrideFamily "manual_clear" = some .manual ∧ cameraPauseKept.HasPause 1000 ∧
      ¬ActiveOverrides.HasPause
        (cameraPauseKept.handleOverride 1000 "camera" (peerClear "manual_clear")) 1000 ∧
      ¬ClearsFamily cameraPauseKept
        (cameraPauseKept.handleOverride 1000 "camera" (peerClear "manual_clear")) 1000 .manual := by
  refine ⟨by decide, by decide, by decide, ?_⟩
  intro h
  have hkept := h.keeps "downlink_v3_zero_demand_pause" .downlink
    ⟨(makeTrackPause "camera" 15000).toClient, 15000⟩ (by decide) (by decide) rfl (by decide)
  cases hkept

end MediasoupCpp
