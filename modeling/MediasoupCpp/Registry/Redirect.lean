import MediasoupCpp.Registry.Program

/-!
# Following the redirects of an unclaimed room

A client that asks any node for a room nobody holds is sent to the node with the fewest rooms and
asks again there.  Every node prefers itself among the nodes with as few rooms, so two nodes need
not agree on the best one; but the node a client is sent to does have the fewest rooms, and so
keeps the room.

Main result: `followRedirects_le_one`.

Source: `src/RoomRegistry.cpp`, `src/RoomRegistrySync.cpp`, `src/RoomRegistrySelection.h`.
-/

namespace MediasoupCpp

/-! ### A client following redirects -/

structure RegistryCluster where
  shared : RegistryShared := {}
  node : String → RegistryLocal := fun _ => {}

section Follow

variable (cfg : String → RegistryConfig) (roomId clientIp : String)

def claimAt (i : String) (s : RegistryCluster) : Except String String × RegistryCluster :=
  let out := call i (claimRoom (cfg i) roomId clientIp) (s.shared, s.node i)
  (out.1, ⟨out.2.1, Function.update s.node i out.2.2⟩)

/-- A client asks the node `i` and goes wherever it is sent, making `fuel` calls
at most.  The outcome is the node that took the room and the number of redirects;
`none` if a call failed, an address is unknown, or the calls ran out. -/
def followRedirects (nodes : List String) : ℕ → String → RegistryCluster → Option (String × ℕ)
  | 0, _, _ => none
  | fuel + 1, i, s =>
    match claimAt cfg roomId clientIp i s with
    | (.error _, _) => none
    | (.ok address, s') =>
      if address = "" then some (i, 0)
      else
        match nodes.find? fun j => (cfg j).nodeAddress == address with
        | none => none
        | some j => (followRedirects nodes fuel j s').map fun (m, n) => (m, n + 1)

end Follow

/-- The nodes of the table `table` agree on it, nobody holds the room `roomId`,
and the client cannot be located. -/
structure UnclaimedRoom (cfg : String → RegistryConfig) (table : Dict String NodeInfo)
    (roomId clientIp : String) (s : RegistryCluster) : Prop where
  /-- Every entry of the table is the node of that id at its own address. -/
  entry : ∀ i info, table.lookup i = some info → info.address = (cfg i).nodeAddress
  address_ne : ∀ i ∈ table, (cfg i).nodeAddress ≠ ""
  address_inj : ∀ i ∈ table, ∀ j ∈ table, (cfg i).nodeAddress = (cfg j).nodeAddress → i = j
  /-- Every node holds the table, each in an iteration order of its own. -/
  same_table : ∀ i ∈ table, ∀ j, (s.node i).cache.nodes.lookup j = table.lookup j
  no_geo : ∀ i ∈ table, ((cfg i).clientGeo clientIp).valid = false
  reachable : s.shared.reachable = true
  no_key : s.shared.redis.rooms.lookup roomId = none
  no_cached : ∀ i ∈ table, (s.node i).cache.roomAddress roomId = none

section FollowLemmas

variable {cfg : String → RegistryConfig} {roomId clientIp i j address : String}
  {nodes : List String} {s : RegistryCluster}

theorem followRedirects_of_local (fuel : ℕ) (h : (claimAt cfg roomId clientIp i s).1 = .ok "") :
    followRedirects cfg roomId clientIp nodes (fuel + 1) i s = some (i, 0) := by
  rcases hcall : claimAt cfg roomId clientIp i s with ⟨res, _⟩
  obtain rfl : res = .ok "" := by simpa [hcall] using h
  simp [followRedirects, hcall]

theorem followRedirects_of_redirect (fuel : ℕ)
    (h : (claimAt cfg roomId clientIp i s).1 = .ok address) (hne : address ≠ "")
    (hfind : nodes.find? (fun k => (cfg k).nodeAddress == address) = some j) :
    followRedirects cfg roomId clientIp nodes (fuel + 1) i s =
      (followRedirects cfg roomId clientIp nodes fuel j (claimAt cfg roomId clientIp i s).2).map
        fun (m, n) => (m, n + 1) := by
  rcases hcall : claimAt cfg roomId clientIp i s with ⟨res, _⟩
  obtain rfl : res = .ok address := by simpa [hcall] using h
  simp [followRedirects, hcall, hne, hfind]

end FollowLemmas

/-! ### Two nodes with one table -/

section Agreement

variable {cfg : String → RegistryConfig} {table : Dict String NodeInfo} {roomId clientIp : String}
  {s : RegistryCluster}

def bestOf (cfg : String → RegistryConfig) (clientIp : String) (s : RegistryCluster)
    (i : String) : String :=
  findBestNodeCached (cfg i) (s.node i).cache.nodes.toPairs clientIp

theorem UnclaimedRoom.granted (h : UnclaimedRoom cfg table roomId clientIp s) (i : String) :
    (s.shared.redis.evalClaim i roomId).1 = .granted := by
  simp only [Redis.evalClaim, h.no_key]

variable {i : String}

section

variable (h : UnclaimedRoom cfg table roomId clientIp s) (hi : i ∈ table)
include h hi

theorem UnclaimedRoom.mem_loadCandidates {c : LoadCandidate} :
    c ∈ (cfg i).loadCandidates (s.node i).cache.nodes.toPairs clientIp ↔
      ∃ j info, table.lookup j = some info ∧ info.address ≠ "" ∧
        (info.maxRooms = 0 ∨ info.rooms < info.maxRooms) ∧ c = ⟨info.address, info.rooms, 0⟩ := by
  rw [mem_loadCandidates_of_not_valid (cfg i) (h.no_geo i hi)]
  simp only [Prod.exists, Dict.mem_toPairs, h.same_table i hi]

theorem UnclaimedRoom.bestOf_spec :
    (cfg i).loadCandidates (s.node i).cache.nodes.toPairs clientIp = [] ∧
        bestOf cfg clientIp s i = "" ∨
      ∃ c ∈ (cfg i).loadCandidates (s.node i).cache.nodes.toPairs clientIp,
        bestOf cfg clientIp s i = c.address ∧
          ∀ d ∈ (cfg i).loadCandidates (s.node i).cache.nodes.toPairs clientIp,
            compareNoGeoCandidates (cfg i).nodeAddress d c = false := by
  by_cases hne : (cfg i).loadCandidates (s.node i).cache.nodes.toPairs clientIp = []
  · exact .inl ⟨hne, findBestNodeCached_of_no_candidate (cfg i) hne⟩
  have hcmp : (cfg i).compareCandidates clientIp = compareNoGeoCandidates (cfg i).nodeAddress := by
    simp [RegistryConfig.compareCandidates, h.no_geo i hi]
  obtain ⟨c, hc, hbest, hmin⟩ := findBestNodeCached_minimal (cfg i)
    (hcmp ▸ compareNoGeoCandidates_strictWeak _ _) hne
  exact .inr ⟨c, hc, hbest, fun d hd => hcmp ▸ hmin d hd⟩

theorem UnclaimedRoom.exists_bestOf (hne : bestOf cfg clientIp s i ≠ "") :
    ∃ j ∈ table, bestOf cfg clientIp s i = (cfg j).nodeAddress := by
  obtain ⟨-, hemp⟩ | ⟨_, hc, hbest, -⟩ := h.bestOf_spec hi
  · exact absurd hemp hne
  · obtain ⟨j, info, hj, -, -, rfl⟩ := (h.mem_loadCandidates hi).mp hc
    exact ⟨j, AList.lookup_isSome.mp (by simp [hj]), by rw [hbest, h.entry j info hj]⟩

theorem findBestNodeCached_agrees {j : String} (hj : j ∈ table)
    (hbest : bestOf cfg clientIp s i = (cfg j).nodeAddress) :
    bestOf cfg clientIp s j = (cfg j).nodeAddress := by
  obtain ⟨-, hemp⟩ | ⟨c, hc, hc_addr, hc_min⟩ := h.bestOf_spec hi
  · exact absurd (hbest.symm.trans hemp) (h.address_ne j hj)
  have hself : c.address = (cfg j).nodeAddress := hc_addr.symm.trans hbest
  -- `i` and `j` choose among the same candidates
  have hsame : ∀ d, d ∈ (cfg j).loadCandidates (s.node j).cache.nodes.toPairs clientIp ↔
      d ∈ (cfg i).loadCandidates (s.node i).cache.nodes.toPairs clientIp := fun d => by
    rw [h.mem_loadCandidates hi, h.mem_loadCandidates hj]
  have hcj := (hsame c).mpr hc
  obtain ⟨hnil, -⟩ | ⟨d, hd, hd_addr, hd_min⟩ := h.bestOf_spec hj
  · exact absurd (hnil ▸ hcj) (by simp)
  have hle : c.rooms ≤ d.rooms := rooms_le_of_compareNoGeoCandidates (hc_min d ((hsame d).mp hd))
  have hge : d.rooms ≤ c.rooms := rooms_le_of_compareNoGeoCandidates (hd_min c hcj)
  rw [hd_addr, ← hself]
  exact address_eq_of_compareNoGeoCandidates (hself ▸ hd_min c hcj) (le_antisymm hle hge)

theorem UnclaimedRoom.claimAt_local
    (hbest : bestOf cfg clientIp s i = "" ∨ bestOf cfg clientIp s i = (cfg i).nodeAddress) :
    (claimAt cfg roomId clientIp i s).1 = .ok "" := by
  simp only [claimAt]
  rw [call_claimRoom_kept h.reachable (h.no_cached i hi) (.inr ⟨h.granted i, hbest⟩)]

theorem UnclaimedRoom.claimAt_redirect
    (hbest : ¬(bestOf cfg clientIp s i = "" ∨ bestOf cfg clientIp s i = (cfg i).nodeAddress)) :
    (claimAt cfg roomId clientIp i s).1 = .ok (bestOf cfg clientIp s i) ∧
      UnclaimedRoom cfg table roomId clientIp (claimAt cfg roomId clientIp i s).2 ∧
        ∀ j, ((claimAt cfg roomId clientIp i s).2.node j).cache = (s.node j).cache := by
  have hcall := call_claimRoom_redirected h.reachable (h.no_cached i hi) (h.granted i)
    (not_or.mp hbest)
  have hsame : ∀ j, ((claimAt cfg roomId clientIp i s).2.node j).cache = (s.node j).cache := by
    intro j
    by_cases hj : j = i
    · subst hj; simp [claimAt, hcall]
    · simp [claimAt, hj]
  refine ⟨by simp only [claimAt, hcall]; rfl, { h with
    same_table := fun j hj k => by rw [hsame j]; exact h.same_table j hj k
    reachable := by simpa only [claimAt, hcall] using h.reachable
    no_key := by simp [claimAt, hcall, Redis.delRoom_lookup]
    no_cached := fun j hj => by rw [hsame j]; exact h.no_cached j hj }, hsame⟩

end

theorem UnclaimedRoom.find_address (h : UnclaimedRoom cfg table roomId clientIp s)
    {j : String} (hj : j ∈ table) :
    table.keys.find? (fun k => (cfg k).nodeAddress == (cfg j).nodeAddress) = some j := by
  obtain ⟨k, hk⟩ : ∃ k, table.keys.find?
      (fun k => (cfg k).nodeAddress == (cfg j).nodeAddress) = some k := by
    rw [← Option.isSome_iff_exists, List.find?_isSome]
    exact ⟨j, hj, by simp⟩
  have hkj : (cfg k).nodeAddress = (cfg j).nodeAddress := by simpa using List.find?_some hk
  rwa [h.address_inj k (List.mem_of_find?_eq_some hk) j hj hkj] at hk

/-- **A client is redirected at most once**: it starts at any node, follows the
addresses that `claimRoom` returns, and after at most one redirect some node
answers that the room is local. -/
theorem followRedirects_le_one (h : UnclaimedRoom cfg table roomId clientIp s)
    {i : String} (hi : i ∈ table) :
    ∃ m ∈ table, ∃ redirects ≤ 1,
      followRedirects cfg roomId clientIp table.keys 2 i s = some (m, redirects) := by
  by_cases hbest : bestOf cfg clientIp s i = "" ∨ bestOf cfg clientIp s i = (cfg i).nodeAddress
  · exact ⟨i, hi, 0, by omega, followRedirects_of_local 1 (h.claimAt_local hi hbest)⟩
  obtain ⟨hres, h', hcaches⟩ := h.claimAt_redirect hi hbest
  have hne : bestOf cfg clientIp s i ≠ "" := fun he => hbest (.inl he)
  obtain ⟨j, hj, hbest_j⟩ := h.exists_bestOf hi hne
  -- the node the client is sent to keeps the room
  have hloc : (claimAt cfg roomId clientIp j (claimAt cfg roomId clientIp i s).2).1 =
      .ok "" := by
    refine h'.claimAt_local hj (.inr ?_)
    simpa only [bestOf, hcaches] using findBestNodeCached_agrees h hi hj hbest_j
  refine ⟨j, hj, 1, le_rfl, ?_⟩
  rw [hbest_j] at hres hne
  rw [followRedirects_of_redirect 1 hres hne (h.find_address hj), followRedirects_of_local 0 hloc]
  rfl

end Agreement

def twoNodes : Dict String NodeInfo :=
  dictOf [("n1", { address := "ws://n1", rooms := 3 }),
    ("n2", { address := "ws://n2", rooms := 1 })]

def twoNodesConfig (i : String) : RegistryConfig :=
  { nodeId := i, nodeAddress := "ws://" ++ i, stdSort := StdSort.insertion _ }

/-- A client that asks the busier of two nodes is sent to the other one. -/
theorem followRedirects_le_one_twoNodes :
    UnclaimedRoom twoNodesConfig twoNodes "r" "" ⟨{}, fun _ => ⟨⟨twoNodes, ∅⟩, true⟩⟩ ∧
      ∃ m ∈ twoNodes, ∃ redirects ≤ 1,
        followRedirects twoNodesConfig "r" "" twoNodes.keys 2 "n1"
          ⟨{}, fun _ => ⟨⟨twoNodes, ∅⟩, true⟩⟩ = some (m, redirects) := by
  have h : UnclaimedRoom twoNodesConfig twoNodes "r" "" ⟨{}, fun _ => ⟨⟨twoNodes, ∅⟩, true⟩⟩ :=
    { entry := fun i info hi =>
        (by decide : ∀ e ∈ twoNodes.toPairs, e.2.address = (twoNodesConfig e.1).nodeAddress)
          (i, info) (Dict.mem_toPairs.mpr hi)
      address_ne := by decide
      address_inj := by decide
      same_table := fun _ _ _ => rfl
      no_geo := fun _ _ => rfl
      reachable := rfl
      no_key := rfl
      no_cached := fun _ _ => rfl }
  exact ⟨h, followRedirects_le_one h (by decide)⟩

end MediasoupCpp
