import Mathlib.Algebra.Order.Ring.Rat
import Mathlib.Data.Prod.Lex
import Mathlib.Data.String.Basic
import Mathlib.Tactic.Linarith
import MediasoupCpp.Lib.StrictWeak

/-!
# Choosing the node for a new room

A node that finds a room unclaimed does not simply keep it: it scores the nodes it knows of and
sends the client to the best one.  With a geo lookup of the client the candidates are ordered by
distance, with a 100 km band inside which the number of rooms decides; without one they are
ordered by the number of rooms, then the deciding node itself, then the address.

Main result: `geoOrderSound_iff`.

Source: `src/RoomRegistrySelection.h`, `src/RoomRegistrySync.cpp`, `src/RoomRegistry.h`.
-/

namespace MediasoupCpp

/-! ### Nodes, candidates and the geo lookup -/

structure NodeInfo where
  address : String := ""
  rooms : ℕ := 0
  /-- The capacity of the node; `0` is no limit. -/
  maxRooms : ℕ := 0
  lat : ℚ := 0
  lng : ℚ := 0
  isp : String := ""
  country : String := ""
  deriving DecidableEq

structure GeoInfo where
  country : String := ""
  isp : String := ""
  lat : ℚ := 0
  lng : ℚ := 0
  valid : Bool := false

structure GeoRouter where
  lookup : String → GeoInfo
  score : GeoInfo → ℚ → ℚ → String → ℚ

structure LoadCandidate where
  address : String
  rooms : ℕ := 0
  score : ℚ := 0
  deriving DecidableEq

structure RegistryConfig where
  nodeId : String
  nodeAddress : String
  nodeLat : ℚ := 0
  nodeLng : ℚ := 0
  nodeIsp : String := ""
  nodeCountry : String := ""
  /-- Only nodes in the client's own country are offered. -/
  countryIsolation : Bool := false
  geo : Option GeoRouter := none
  /-- The sort of the standard library the node was built with. -/
  stdSort : StdSort LoadCandidate

/-! ### The comparators -/

def compareGeoCandidates (a b : LoadCandidate) : Bool :=
  if |a.score - b.score| > 100 then a.score < b.score else a.rooms < b.rooms

variable (selfAddress : String)

def compareNoGeoCandidates (a b : LoadCandidate) : Bool :=
  if a.rooms ≠ b.rooms then a.rooms < b.rooms
  else if (a.address == selfAddress) ≠ (b.address == selfAddress) then a.address == selfAddress
  else a.address < b.address

variable {a b : LoadCandidate}

theorem compareGeoCandidates_eq_true : compareGeoCandidates a b ↔
      a.score + 100 < b.score ∨ |a.score - b.score| ≤ 100 ∧ a.rooms < b.rooms := by
  unfold compareGeoCandidates
  split_ifs with hfar
  · simp only [decide_eq_true_eq]
    rcases lt_abs.mp hfar with h | h
    · exact ⟨fun hlt => by linarith, fun hor => hor.elim (fun hlt => by linarith)
        fun hcl => absurd hcl.1 (not_le.mpr hfar)⟩
    · exact ⟨fun _ => .inl (by linarith), fun _ => by linarith⟩
  · have hfar : |a.score - b.score| ≤ 100 := not_lt.mp hfar
    simp only [decide_eq_true_eq]
    refine ⟨fun hlt => .inr ⟨hfar, hlt⟩, fun hor => hor.elim (fun hlt => ?_) And.right⟩
    linarith [(abs_le.mp hfar).1]

theorem compareGeoCandidates_eq_false : compareGeoCandidates a b = false ↔
      b.score + 100 < a.score ∨ |a.score - b.score| ≤ 100 ∧ b.rooms ≤ a.rooms := by
  rw [← Bool.not_eq_true, compareGeoCandidates_eq_true, not_or, not_and, not_lt, not_lt]
  constructor
  · rintro ⟨_, hrms⟩
    by_cases hcl : |a.score - b.score| ≤ 100
    · exact .inr ⟨hcl, hrms hcl⟩
    rcases lt_abs.mp (not_le.mp hcl) with h | h
    · exact .inl (by linarith)
    · linarith
  · rintro (_ | ⟨hcl, hrms⟩)
    · refine ⟨by linarith, fun hcl => ?_⟩
      linarith [(abs_le.mp hcl).2]
    · exact ⟨by linarith [(abs_le.mp hcl).1], fun _ => hrms⟩

theorem compareGeoCandidates_asymm
    (h : compareGeoCandidates a b) : compareGeoCandidates b a = false := by
  rw [compareGeoCandidates_eq_true] at h
  rw [compareGeoCandidates_eq_false, abs_sub_comm]
  exact h.imp id fun hcl => ⟨hcl.1, hcl.2.le⟩

private def noGeoKey (c : LoadCandidate) : ℕ ×ₗ Bool ×ₗ String :=
  toLex (c.rooms, toLex (!(c.address == selfAddress), c.address))

theorem compareNoGeoCandidates_strictWeak (l : List LoadCandidate) :
    StrictWeakOn (compareNoGeoCandidates selfAddress) l := by
  refine strictWeakOn_of_key (noGeoKey selfAddress) (fun a b => ?_) l
  simp only [noGeoKey, Prod.Lex.toLex_lt_toLex]
  unfold compareNoGeoCandidates
  by_cases hrms : a.rooms = b.rooms
  · cases ha : a.address == selfAddress <;> cases hb : b.address == selfAddress <;>
      simp [hrms]
  · simp [hrms]

theorem rooms_le_of_compareNoGeoCandidates {selfAddress : String} {c d : LoadCandidate}
    (h : compareNoGeoCandidates selfAddress d c = false) : c.rooms ≤ d.rooms := by
  by_contra hlt
  have hne : d.rooms ≠ c.rooms := by omega
  simp only [compareNoGeoCandidates, ne_eq, hne, not_false_eq_true, if_true,
    decide_eq_false_iff_not] at h
  omega

theorem address_eq_of_compareNoGeoCandidates {c d : LoadCandidate}
    (h : compareNoGeoCandidates d.address d c = false) (hrms : d.rooms = c.rooms) :
    c.address = d.address := by
  by_contra hne
  simp [compareNoGeoCandidates, hrms, hne] at h

/-! ### The choice -/

section Choice

variable (cfg : RegistryConfig)

def RegistryConfig.clientGeo (clientIp : String) : GeoInfo :=
  match cfg.geo with
  | some geo => if clientIp ≠ "" then geo.lookup clientIp else {}
  | none => {}

def RegistryConfig.candidateScore (clientGeo : GeoInfo) (info : NodeInfo) : ℚ :=
  match cfg.geo with
  | some geo =>
    if clientGeo.valid ∧ (info.lat ≠ 0 ∨ info.lng ≠ 0) then
      geo.score clientGeo info.lat info.lng info.isp
    else if clientGeo.valid then 99999 else 0
  | none => if clientGeo.valid then 99999 else 0

def RegistryConfig.offers (clientGeo : GeoInfo) (info : NodeInfo) : Bool :=
  !(info.address == "") &&
    !(decide (info.maxRooms > 0) && decide (info.rooms ≥ info.maxRooms)) &&
      !(cfg.countryIsolation && clientGeo.valid && !(clientGeo.country == "") &&
        !(info.country == "") && !(info.country == clientGeo.country))

variable (nodes : List (String × NodeInfo))

def RegistryConfig.loadCandidates (clientIp : String) :
    List LoadCandidate :=
  let clientGeo := cfg.clientGeo clientIp
  nodes.filterMap fun (_, info) =>
    if cfg.offers clientGeo info then
      some ⟨info.address, info.rooms, cfg.candidateScore clientGeo info⟩
    else none

def RegistryConfig.compareCandidates (clientIp : String) : LoadCandidate → LoadCandidate → Bool :=
  if (cfg.clientGeo clientIp).valid then compareGeoCandidates
  else compareNoGeoCandidates cfg.nodeAddress

def findBestNodeCached (clientIp : String) : String :=
  let candidates := cfg.loadCandidates nodes clientIp
  if candidates.isEmpty then ""
  else
    match cfg.stdSort.sort (cfg.compareCandidates clientIp) candidates with
    | [] => ""
    | front :: _ => front.address

variable {nodes : List (String × NodeInfo)} {clientIp : String}

theorem findBestNodeCached_minimal
    (hweak : StrictWeakOn (cfg.compareCandidates clientIp) (cfg.loadCandidates nodes clientIp))
    (hne : cfg.loadCandidates nodes clientIp ≠ []) :
    ∃ c ∈ cfg.loadCandidates nodes clientIp, findBestNodeCached cfg nodes clientIp = c.address ∧
      ∀ d ∈ cfg.loadCandidates nodes clientIp, cfg.compareCandidates clientIp d c = false := by
  have hemp : (cfg.loadCandidates nodes clientIp).isEmpty = false := by simpa using hne
  unfold findBestNodeCached
  simp only [hemp]
  cases hsort : cfg.stdSort.sort (cfg.compareCandidates clientIp)
      (cfg.loadCandidates nodes clientIp) with
  | nil => exact absurd hsort (cfg.stdSort.sort_ne_nil hweak hne)
  | cons front rest =>
    obtain ⟨hmem, hmin⟩ := cfg.stdSort.front_minimal hweak hsort
    exact ⟨front, hmem, rfl, hmin⟩

theorem mem_loadCandidates_of_not_valid
    (hgeo : (cfg.clientGeo clientIp).valid = false) {c : LoadCandidate} :
    c ∈ cfg.loadCandidates nodes clientIp ↔
      ∃ e ∈ nodes, e.2.address ≠ "" ∧ (e.2.maxRooms = 0 ∨ e.2.rooms < e.2.maxRooms) ∧
        c = ⟨e.2.address, e.2.rooms, 0⟩ := by
  have hscore : ∀ info, cfg.candidateScore (cfg.clientGeo clientIp) info = 0 := by
    unfold RegistryConfig.candidateScore
    split <;> simp [hgeo]
  have hoffer : ∀ info, cfg.offers (cfg.clientGeo clientIp) info ↔
      info.address ≠ "" ∧ (info.maxRooms = 0 ∨ info.rooms < info.maxRooms) := by
    intro info
    simp only [RegistryConfig.offers, hgeo]
    simp only [Bool.and_false, Bool.false_and, Bool.not_false, Bool.and_true, Bool.and_eq_true,
      Bool.not_eq_true', beq_eq_false_iff_ne, Bool.and_eq_false_iff, decide_eq_false_iff_not]
    exact and_congr_right fun _ => by omega
  simp only [RegistryConfig.loadCandidates, List.mem_filterMap, hscore]
  refine exists_congr fun e => and_congr_right fun _ => ?_
  split
  next hoff =>
    have := (hoffer _).mp hoff
    simp [this, eq_comm]
  rename_i hoff
  rw [hoffer, not_and] at hoff
  simp only [reduceCtorEq, false_iff, not_and]
  exact fun hne hroom => absurd hroom (hoff hne)

@[simp] theorem findBestNodeCached_of_no_candidate (h : cfg.loadCandidates nodes clientIp = []) :
    findBestNodeCached cfg nodes clientIp = "" := by
  simp [findBestNodeCached, h]

end Choice

/-! ### When the geo comparator is a strict weak ordering

Inside the band the rooms decide, outside it the score, and "inside the band" is
not transitive.  A chain of two steps inside the band can therefore lead outside
it, and the comparator then runs in a circle if the rooms do not grow along the
chain. -/

variable (l : List LoadCandidate)

def BandInversion : Prop :=
  ∃ lo ∈ l, ∃ mid ∈ l, ∃ hi ∈ l, lo.score + 100 < hi.score ∧
    |lo.score - mid.score| ≤ 100 ∧ |mid.score - hi.score| ≤ 100 ∧
      hi.rooms ≤ mid.rooms ∧ mid.rooms ≤ lo.rooms

/-- Sorting by the geo comparator is defined on `l` and does what the choice of a
node relies on: the comparator is a strict weak ordering on `l`, a nonempty `l`
has a least candidate, and `findBestNodeCached` picks a candidate that no other
is ordered before whenever `l` are its candidates. -/
structure GeoOrderSound : Prop where
  strictWeak : StrictWeakOn compareGeoCandidates l
  least : l ≠ [] → ∃ c ∈ l, ∀ d ∈ l, compareGeoCandidates d c = false
  picked : ∀ (cfg : RegistryConfig) (nodes : List (String × NodeInfo)) (clientIp : String),
    (cfg.clientGeo clientIp).valid = true → cfg.loadCandidates nodes clientIp = l → l ≠ [] →
      ∃ c ∈ l, findBestNodeCached cfg nodes clientIp = c.address ∧
        ∀ d ∈ l, compareGeoCandidates d c = false

private theorem bandInversion_of_not_negTrans {l : List LoadCandidate} {a b c : LoadCandidate}
    (ha : a ∈ l) (hb : b ∈ l) (hc : c ∈ l) (hab : compareGeoCandidates a b = false)
    (hbc : compareGeoCandidates b c = false) (hac : compareGeoCandidates a c) :
    BandInversion l := by
  rw [compareGeoCandidates_eq_false] at hab hbc
  rw [compareGeoCandidates_eq_true] at hac
  rcases hac with hac | ⟨hac, hrms⟩
  · -- `a` far below `c`: `b` must be in the band of both
    rcases hab with hab | ⟨hab, hab'⟩
    · rcases hbc with hbc | ⟨hbc, -⟩
      · linarith
      · linarith [(abs_le.mp hbc).1]
    · rcases hbc with hbc | ⟨hbc, hbc'⟩
      · linarith [(abs_le.mp hab).1]
      · exact ⟨a, ha, b, hb, c, hc, hac, hab, hbc, hbc', hab'⟩
  · -- `a` and `c` in one band: `b` lies far below `a` or far above `c`
    rcases hab with hab | ⟨hab, hab'⟩
    · rcases hbc with hbc | ⟨hbc, hbc'⟩
      · linarith [(abs_le.mp hac).2]
      · rw [abs_sub_comm] at hac
        exact ⟨b, hb, c, hc, a, ha, hab, hbc, hac, hrms.le, hbc'⟩
    · rcases hbc with hbc | ⟨hbc, hbc'⟩
      · rw [abs_sub_comm] at hac
        exact ⟨c, hc, a, ha, b, hb, hbc, hac, hab, hab', hrms.le⟩
      · omega

theorem strictWeakOn_compareGeoCandidates_iff :
    StrictWeakOn compareGeoCandidates l ↔ ¬BandInversion l := by
  rw [strictWeakOn_iff fun a _ b _ => compareGeoCandidates_asymm]
  constructor
  · rintro hneg ⟨lo, hlo, mid, hmid, hi, hhi, hfar, hlm, hmh, hrms, hrms'⟩
    have h := hneg lo hlo mid hmid hi hhi
      (compareGeoCandidates_eq_false.mpr (.inr ⟨hlm, hrms'⟩))
      (compareGeoCandidates_eq_false.mpr (.inr ⟨hmh, hrms⟩))
    rw [compareGeoCandidates_eq_true.mpr (.inl hfar)] at h
    exact Bool.noConfusion h
  · intro hno a ha b hb c hc hab hbc
    by_contra hac
    exact hno (bandInversion_of_not_negTrans ha hb hc hab hbc (by simpa using hac))

/-- **Sorting by distance is sound exactly on the lists without a band
inversion.** -/
theorem geoOrderSound_iff (l : List LoadCandidate) : GeoOrderSound l ↔ ¬BandInversion l := by
  rw [← strictWeakOn_compareGeoCandidates_iff]
  refine ⟨GeoOrderSound.strictWeak, fun hweak => ⟨hweak, hweak.exists_minimal, ?_⟩⟩
  rintro cfg _ clientIp hval rfl hne
  have hcmp : cfg.compareCandidates clientIp = compareGeoCandidates := by
    simp [RegistryConfig.compareCandidates, hval]
  obtain ⟨c, hc, hbest, hmin⟩ := findBestNodeCached_minimal cfg (hcmp ▸ hweak) hne
  exact ⟨c, hc, hbest, hcmp ▸ hmin⟩

/-- Three nodes at 0, 80 and 160 km with 3, 2 and 1 rooms: each is ordered before
the next one nearer to the client, and the first before the last. -/
theorem not_geoOrderSound_three : ¬GeoOrderSound
    [⟨"ws://a", 3, 0⟩, ⟨"ws://b", 2, 80⟩, ⟨"ws://c", 1, 160⟩] := by
  intro hsnd
  refine (strictWeakOn_compareGeoCandidates_iff _).mp hsnd.strictWeak
    ⟨⟨"ws://a", 3, 0⟩, by simp, ⟨"ws://b", 2, 80⟩, by simp, ⟨"ws://c", 1, 160⟩, by simp, ?_⟩
  norm_num [abs_le]

end MediasoupCpp
