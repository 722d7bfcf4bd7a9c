import MediasoupCpp.Registry.Cluster

/-!
# Who owns a room

Two questions about the cluster.  What does it mean that `claimRoom` answers "the room is local"?
The cache is asked first, and it may be out of date: what the answer rests on is either the cache
or the last look at the room key, and only the second says anything about Redis.

Main results: `claimRoom_local`, `not_deletesForeignKey`.

Source: `src/RoomRegistry.cpp`, `src/RoomRegistry.h`, `src/RoomRegistryPubSub.cpp`,
`src/RoomServiceLifecycle.cpp`.
-/

namespace MediasoupCpp

open ThreadObs Function Runs

/-! ### What a local claim rests on -/

variable (s : ClusterState)

def ClusterState.keyOf (r : String) : Option String :=
  s.shared.redis.rooms.lookup r

open ClusterState

def Thread.claimedLocal (th : Thread) : Option String :=
  match th.call, th.prog with
  | .claimRoom r _, .ret (.claimed (.ok address)) => if address = "" then some r else none
  | _, _ => none

def ClusterState.claimedLocal (i : String) (t : ℕ) : Option String :=
  (s.node i).threads t >>= Thread.claimedLocal

theorem Thread.claimedLocal_eq_some {th : Thread} {r : String} (h : th.claimedLocal = some r) :
    ∃ ip, th.call = .claimRoom r ip ∧ th.prog = .ret (.claimed (.ok "")) := by
  unfold claimedLocal at h
  split at h
  next ip address hcall hprog =>
    split at h
    next haddr =>
      cases h
      exact ⟨ip, hcall, haddr ▸ hprog⟩
    · cases h
  · cases h

/-- **What a local claim rests on**: whenever `claimRoom` has returned that a room
is local, it found the node's own address in the cache, or the room key named the
node right after the call's last command on it. -/
theorem claimRoom_local (cc : ClusterConfig) (es : List ClusterEvent) {i r : String} {t : ℕ}
    {th : Thread} (hth : ((clusterRun cc es).node i).threads t = some th)
    (hlocal : th.claimedLocal = some r) :
    th.obs.cacheHit = true ∨ th.obs.lastKey = some i := by
  obtain ⟨ip, hcall, hret⟩ := Thread.claimedLocal_eq_some hlocal
  have hsnd := (clusterInv_run cc es).sound i t th hth
  rw [ThreadSound, hret] at hsnd
  exact hsnd.2 r ip hcall rfl

def plainNodes : ClusterConfig where
  cfg i := { nodeId := i, nodeAddress := i, stdSort := StdSort.insertion _ }
  nodeId_eq _ := rfl
  address_inj _ _ h := h

def runCall (i : String) (t : ℕ) (c : RegistryCall) (n : ℕ) : List ClusterEvent :=
  .spawn i t c :: List.replicate n (.step i t)

/-- A call of `claimRoom` for a room without a key: the claim rests on the key. -/
theorem claimRoom_local_granted :
    let th : Thread := ⟨.claimRoom "r" "", .ret (.claimed (.ok "")),
      { lastKey := some "n", granted := true }⟩
    ((clusterRun plainNodes (runCall "n" 0 (.claimRoom "r" "") 9)).node "n").threads 0 = some th ∧
      th.claimedLocal = some "r" ∧ (th.obs.cacheHit = true ∨ th.obs.lastKey = some "n") := by
  intro th
  have hth : ((clusterRun plainNodes (runCall "n" 0 (.claimRoom "r" "") 9)).node "n").threads 0 =
      some th := rfl
  exact ⟨hth, rfl, claimRoom_local plainNodes _ hth rfl⟩

/-- The room key need not name the node at the moment a claim returns as local: a
node claims a room, the key expires, and the node claims the room again. -/
theorem claimedLocal_without_key :
    ¬∀ (cc : ClusterConfig) (es : List ClusterEvent) (e : ClusterEvent) (i : String) (t : ℕ)
      (r : String), (clusterRun cc es).claimedLocal i t = none →
        (clusterRun cc (es ++ [e])).claimedLocal i t = some r →
          (clusterRun cc (es ++ [e])).keyOf r = some i := by
  intro h
  have hkey := h plainNodes
    (runCall "n" 0 (.claimRoom "r" "") 9 ++ .expireRoom "r" :: runCall "n" 1 (.claimRoom "r" "") 3)
    (.step "n" 1) "n" 1 "r" rfl rfl
  cases hkey

/-! ### Whose claim a `DEL` removes -/

def ClusterState.nextAct (i : String) (t : ℕ) : Option RegistryAct :=
  match (s.node i).threads t with
  | none => none
  | some th =>
    match th.prog with
    | .ret _ => none
    | .act a _ => some a

def DeletesForeignKey (cc : ClusterConfig) (s : ClusterState) (e : ClusterEvent) : Prop :=
  ∃ i t r owner, e = .step i t ∧ s.nextAct i t = some (.delRoom r) ∧
    s.keyOf r = some owner ∧ owner ≠ i ∧ (clusterStep cc s e).keyOf r ≠ some owner

def Unregistering (i r : String) : Prop :=
  ∃ t th, (s.node i).threads t = some th ∧ th.call = .unregisterRoom r ∧ th.obs.deleted = false

def OwnersRespected : ClusterEvent → Prop
  | .step i t => ∀ r, s.nextAct i t = some (.evalClaim r) →
      ((s.shared.redis.evalClaim i r).1 = .granted ∨
        ∃ owner, (s.shared.redis.evalClaim i r).1 = .taken owner) →
      ∀ j, j ≠ i → s.hosts j r = false ∧ ¬Unregistering s j r
  | .spawn i _ (.unregisterRoom r) => s.hosts i r = true
  | _ => True

/-- While a node hosts a room, or the key names it, no other node hosts or is
unregistering it; and a call that was granted a room makes its node the host as
long as it holds the mutex. -/
structure OwnerInv : Prop where
  exclusive : ∀ r i, s.hosts i r = true ∨ s.keyOf r = some i →
    ∀ j, j ≠ i → s.hosts j r = false ∧ ¬Unregistering s j r
  granted : ∀ i t th r ip, (s.node i).threads t = some th → th.call = .claimRoom r ip →
    th.obs.holding = true → th.obs.granted = true → s.hosts i r = true

section Ownership

variable {cc : ClusterConfig} {s s' : ClusterState} {i : String} {t : ℕ} {th : Thread}
  {a : RegistryAct} {k : a.Ans → RegistryProg RegistryResult}

theorem OwnerInv.shrink (h : OwnerInv s) (hhosts : ∀ j r, s'.hosts j r → s.hosts j r)
    (hkey : ∀ r j, s'.keyOf r = some j → s.keyOf r = some j)
    (hun : ∀ j r, Unregistering s' j r → Unregistering s j r) :
    ∀ r i, s'.hosts i r ∨ s'.keyOf r = some i →
      ∀ j, j ≠ i → s'.hosts j r = false ∧ ¬Unregistering s' j r := by
  intro r i hi j hj
  obtain ⟨hhost, hunreg⟩ := h.exclusive r i (hi.imp (hhosts i r) (hkey r i)) j hj
  refine ⟨?_, fun hu => hunreg (hun j r hu)⟩
  by_contra hne
  simp [hhosts j r (by simpa using hne)] at hhost

theorem exec_rooms {i : String} {a : RegistryAct} {w : RegistryShared} {n : RegistryLocal}
    (hclm : ∀ r, a ≠ .evalClaim r) (hdel : ∀ r, a ≠ .delRoom r) :
    (exec i a (w, n)).2.1.redis.rooms = w.redis.rooms := by
  have hcmd : ∀ {α : Type} (f : Redis → α × Redis), (f w.redis).2.rooms = w.redis.rooms →
      (command w n f).2.1.redis.rooms = w.redis.rooms :=
    fun f hf => command_inv (Q := fun st => st.1.redis.rooms = w.redis.rooms) f hf rfl
  cases a with
  | evalClaim r => exact absurd rfl (hclm r)
  | delRoom r => exact absurd rfl (hdel r)
  | publish m =>
    simp only [exec]
    split <;> rfl
  | getRoom | getNode | expireRoom | expireNode | existsNode | scanNodes | scanRooms
  | mgetNodes | mgetRooms | setNode => exact hcmd _ rfl
  | _ => rfl

variable {x : a.Ans}

theorem hostsAfter_of_other {hosts : String → String → Bool} (hclm : ∀ r, a ≠ .evalClaim r)
    (hdel : ∀ r, a ≠ .delRoom r) : hostsAfter i a x hosts = hosts := by
  cases a with
  | evalClaim r => exact absurd rfl (hclm r)
  | delRoom r => exact absurd rfl (hdel r)
  | _ => rfl

variable {r : String}

theorem hostsAfter_of_ne {hosts : String → String → Bool} {j : String} (hj : j ≠ i) :
    hostsAfter i a x hosts j r = hosts j r := by
  cases a with
  | evalClaim r' => rcases x with _ | _ | _ | _ | _ <;> simp [hostsAfter, setHost, hj]
  | delRoom r' => cases x <;> simp [hostsAfter, setHost, hj]
  | _ => rfl

theorem ThreadObs.deleted_of_after {nodeAddress : String} {room : Option String} {db : Redis}
    {g : ThreadObs} (h : (g.after nodeAddress room a x db).deleted = false) :
    g.deleted = false := by
  cases a <;> simp only [after] at h <;> first | exact h | skip
  all_goals split at h <;> first | exact h | simp at h

theorem ThreadObs.granted_of_after {nodeAddress : String} {room : Option String} {db : Redis}
    {g : ThreadObs} (hclm : ∀ r, a ≠ .evalClaim r)
    (hhold : (g.after nodeAddress room a x db).holding)
    (h : (g.after nodeAddress room a x db).granted) : g.holding ∧ g.granted := by
  cases a with
  | evalClaim r => exact absurd rfl (hclm r)
  | lock => exact absurd h (by simp [after])
  | unlock => exact absurd hhold (by simp [after])
  | roomAddress | getRoom | delRoom =>
    simp only [after] at h hhold
    split at h <;> simp_all
  | _ => exact ⟨hhold, h⟩

theorem unregistering_of_advance (hth : (s.node i).threads t = some th) {j : String}
    (h : Unregistering (advance cc s i t th a k) j r) : Unregistering s j r := by
  obtain ⟨t', th', hth', hcall, hdel⟩ := h
  by_cases hj : j = i
  · subst hj
    by_cases ht : t' = t
    · subst ht
      rw [advance_threads_self] at hth'
      cases hth'
      exact ⟨t', th, hth, hcall, deleted_of_after hdel⟩
    · rw [advance_threads_of_ne ht] at hth'
      exact ⟨t', th', hth', hcall, hdel⟩
  · rw [advance_node_of_ne hj] at hth'
    exact ⟨t', th', hth', hcall, hdel⟩

theorem granted_advance (hth : (s.node i).threads t = some th)
    (hself : ∀ r ip, th.call = .claimRoom r ip → (obsAfter cc s i th a).holding →
      (obsAfter cc s i th a).granted → (advance cc s i t th a k).hosts i r)
    (hoth : ∀ j t' th' r ip, ¬(j = i ∧ t' = t) → (s.node j).threads t' = some th' →
      th'.call = .claimRoom r ip → th'.obs.holding → th'.obs.granted →
        (advance cc s i t th a k).hosts j r) :
    ∀ j t' th' r ip, ((advance cc s i t th a k).node j).threads t' = some th' →
      th'.call = .claimRoom r ip → th'.obs.holding → th'.obs.granted →
        (advance cc s i t th a k).hosts j r := by
  intro j t' th' r ip hth' hcall hhold hgrant
  by_cases hmoved : j = i ∧ t' = t
  · obtain ⟨rfl, rfl⟩ := hmoved
    rw [advance_threads_self] at hth'
    cases hth'
    exact hself r ip hcall hhold hgrant
  refine hoth j t' th' r ip hmoved ?_ hcall hhold hgrant
  by_cases hj : j = i
  · subst hj
    rwa [advance_threads_of_ne fun ht => hmoved ⟨rfl, ht⟩] at hth'
  · rwa [advance_node_of_ne hj] at hth'

theorem OwnerInv.advance_same (h : OwnerInv s) (hth : (s.node i).threads t = some th)
    (hhosts : (advance cc s i t th a k).hosts = s.hosts)
    (hrms : (advance cc s i t th a k).shared.redis.rooms = s.shared.redis.rooms)
    (hself : (obsAfter cc s i th a).holding → (obsAfter cc s i th a).granted →
      th.obs.holding ∧ th.obs.granted) : OwnerInv (advance cc s i t th a k) := by
  constructor
  · refine h.shrink (fun j r => ?_) (fun r j => ?_) fun j r => unregistering_of_advance hth
    · rw [hhosts]; exact id
    · rw [keyOf, hrms]; exact id
  refine granted_advance hth (fun r ip hcall hhold hgrant => ?_)
    fun j t' th' r ip _ hth' hcall hhold hgrant => ?_
  · obtain ⟨hhold, hgrant⟩ := hself hhold hgrant
    rw [hhosts]
    exact h.granted i t th r ip hth hcall hhold hgrant
  · rw [hhosts]
    exact h.granted j t' th' r ip hth' hcall hhold hgrant

theorem OwnerInv.advance_other (h : OwnerInv s) (hth : (s.node i).threads t = some th)
    (hclm : ∀ r, a ≠ .evalClaim r) (hdel : ∀ r, a ≠ .delRoom r) :
    OwnerInv (advance cc s i t th a k) := by
  refine h.advance_same hth ?_ ?_ fun hhold hgrant => ?_
  · exact hostsAfter_of_other hclm hdel
  · exact exec_rooms hclm hdel
  · exact granted_of_after hclm hhold hgrant

theorem OwnerInv.advance_delRoom
    {k : (RegistryAct.delRoom r).Ans → RegistryProg RegistryResult} (h : OwnerInv s)
    (hinv : ClusterInv cc s) (hth : (s.node i).threads t = some th)
    (hallow : ActAllowed cc i th.call th.obs (.delRoom r)) :
    OwnerInv (advance cc s i t th (.delRoom r) k) := by
  obtain ⟨hhold, hwho⟩ := hallow
  have hroom : th.call.room = some r := by
    obtain ⟨hcall, -⟩ | ⟨⟨ip, hcall⟩, -⟩ := hwho <;> rw [hcall] <;> rfl
  have hholder : (s.node i).holder = some t := (hinv.holder i t).mpr ⟨th, hth, hhold⟩
  have hhosts : ∀ j r', (advance cc s i t th (.delRoom r) k).hosts j r' → s.hosts j r' := by
    intro j r' hj
    simp only [advance, exec, command] at hj
    split at hj
    · simp only [hostsAfter, setHost] at hj
      split at hj
      · cases hj
      · exact hj
    · exact hj
  constructor
  · refine h.shrink hhosts (fun r' j hj => ?_) fun j r' => unregistering_of_advance hth
    simp only [keyOf, advance, exec, command] at hj
    split at hj
    · rw [Redis.delRoom_lookup] at hj
      split at hj
      · cases hj
      · exact hj
    · exact hj
  · refine granted_advance hth (fun r' ip _ _ hgrant => ?_)
      fun j t' th' r' ip hne hth' hcall hhold' hgrant => ?_
    · exact absurd hgrant (by simp [obsAfter, after, hroom])
    -- only one thread of a node holds the mutex
    have hj : j ≠ i := by
      rintro rfl
      have := (hinv.holder j t').mpr ⟨th', hth', hhold'⟩
      rw [hholder] at this
      exact hne ⟨rfl, (Option.some.inj this).symm⟩
    have := h.granted j t' th' r' ip hth' hcall hhold' hgrant
    simp only [advance, exec, command]
    split
    · simpa [hostsAfter, setHost, hj] using this
    · exact this

theorem OwnerInv.advance_owned
    {k : (RegistryAct.evalClaim r).Ans → RegistryProg RegistryResult} (h : OwnerInv s)
    (hth : (s.node i).threads t = some th)
    (hallow : ActAllowed cc i th.call th.obs (.evalClaim r))
    (hhosts : (advance cc s i t th (.evalClaim r) k).hosts = setHost s.hosts i r true)
    (hkey : (advance cc s i t th (.evalClaim r) k).keyOf r = some i)
    (hkeys : ∀ r', r' ≠ r → (advance cc s i t th (.evalClaim r) k).keyOf r' = s.keyOf r')
    (hfree : ∀ j, j ≠ i → s.hosts j r = false ∧ ¬Unregistering s j r) :
    OwnerInv (advance cc s i t th (.evalClaim r) k) := by
  obtain ⟨-, _, hcall⟩ := hallow
  constructor
  · intro r' m hm j hj
    by_cases hr : r' = r
    · subst hr
      -- the one owner of the room is `i`
      have hmi : m = i := by
        rw [hhosts, hkey] at hm
        rcases hm with hm | hm
        · by_contra hne
          simp [setHost, hne, (hfree m hne).1] at hm
        · exact (Option.some.inj hm).symm
      subst hmi
      refine ⟨?_, fun hu => (hfree j hj).2 (unregistering_of_advance hth hu)⟩
      rw [hhosts]
      simp [setHost, hj, (hfree j hj).1]
    · have hsame : ∀ j, (advance cc s i t th (.evalClaim r) k).hosts j r' = s.hosts j r' := by
        intro j; rw [hhosts]; simp [setHost, hr]
      rw [hsame, hkeys r' hr] at hm
      obtain ⟨hhost, hunreg⟩ := h.exclusive r' m hm j hj
      exact ⟨by rw [hsame]; exact hhost, fun hu => hunreg (unregistering_of_advance hth hu)⟩
  · refine granted_advance hth (fun r' ip' hcall' _ _ => ?_)
      fun j t' th' r' ip' _ hth' hcall' hhold hgrant => ?_
    · rw [hcall] at hcall'
      obtain ⟨rfl, -⟩ := RegistryCall.claimRoom.inj hcall'
      rw [hhosts]
      simp [setHost]
    · rw [hhosts]
      simp [setHost, h.granted j t' th' r' ip' hth' hcall' hhold hgrant]

theorem OwnerInv.advance_evalClaim
    {k : (RegistryAct.evalClaim r).Ans → RegistryProg RegistryResult} (h : OwnerInv s)
    (hth : (s.node i).threads t = some th)
    (hallow : ActAllowed cc i th.call th.obs (.evalClaim r))
    (hfree : ((s.shared.redis.evalClaim i r).1 = .granted ∨
        ∃ owner, (s.shared.redis.evalClaim i r).1 = .taken owner) →
      ∀ j, j ≠ i → s.hosts j r = false ∧ ¬Unregistering s j r) :
    OwnerInv (advance cc s i t th (.evalClaim r) k) := by
  have hroom : th.call.room = some r := by
    obtain ⟨-, _, hcall⟩ := hallow
    rw [hcall]; rfl
  by_cases hup : ((s.node i).registry.connected && s.shared.reachable)
  · obtain ⟨owner, node, -, -, -, hrep⟩ | ⟨hkey, hrep⟩ :=
      Redis.evalClaim_cases s.shared.redis i r
    · refine h.advance_same hth ?_ ?_ fun _ hgrant => ?_
      · simp [advance, exec, command, hup, hrep, hostsAfter]
      · simp [advance, exec, command, hup, hrep]
      · simp [obsAfter, after, exec, command, hup, hrep, hroom] at hgrant
    refine h.advance_owned hth hallow ?_ ?_ (fun r' hr => ?_) ?_
    · obtain ⟨hrep, -⟩ | ⟨hrep, -⟩ | ⟨owner, hrep, -⟩ := hrep <;>
        simp [advance, exec, command, hup, hrep, hostsAfter]
    · simpa [keyOf, advance, exec, command, hup] using hkey
    · simpa [keyOf, advance, exec, command, hup] using
        Redis.evalClaim_room_of_ne hr
    obtain ⟨hrep, -⟩ | ⟨-, hself⟩ | ⟨owner, hrep, -⟩ := hrep
    · exact hfree (.inl hrep)
    · exact h.exclusive r i (.inr hself)
    · exact hfree (.inr ⟨owner, hrep⟩)
  · refine h.advance_same hth ?_ ?_ fun _ hgrant => ?_
    · simp [advance, exec, command, hup, hostsAfter]
    · simp [advance, exec, command, hup]
    · simp [obsAfter, after, exec, command, hup, hroom] at hgrant

theorem nextAct_eq (hth : (s.node i).threads t = some th) (hprog : th.prog = .act a k) :
    s.nextAct i t = some a := by
  simp [nextAct, hth, hprog]

theorem OwnerInv.advance (h : OwnerInv s) (hinv : ClusterInv cc s)
    (hth : (s.node i).threads t = some th) (hprog : th.prog = .act a k)
    (hok : OwnersRespected s (.step i t)) : OwnerInv (advance cc s i t th a k) := by
  have hsnd := hinv.sound i t th hth
  rw [ThreadSound, hprog] at hsnd
  have hnext := nextAct_eq hth hprog
  cases a with
  | evalClaim r => exact h.advance_evalClaim hth hsnd.1 (hok r hnext)
  | delRoom r => exact h.advance_delRoom hinv hth hsnd.1
  | _ => exact h.advance_other hth (by simp) (by simp)

theorem OwnerInv.spawn (h : OwnerInv s) {c : RegistryCall}
    (hok : OwnersRespected s (.spawn i t c)) : OwnerInv (clusterStep cc s (.spawn i t c)) := by
  cases hslot : (s.node i).threads t with
  | some th => simpa only [clusterStep, hslot] using h
  | none =>
    simp only [clusterStep, hslot]
    -- the threads are the new one and the old ones
    have hthr : ∀ j t' th', ((update s.node i { s.node i with
        threads := update (s.node i).threads t (some ⟨c, c.program (cc.cfg i), {}⟩) })
          j).threads t' = some th' →
        j = i ∧ th' = ⟨c, c.program (cc.cfg i), {}⟩ ∨ (s.node j).threads t' = some th' := by
      intro j t' th' hth'
      by_cases hj : j = i
      · subst hj
        by_cases ht : t' = t
        · subst ht
          simp only [update_self, Option.some.injEq] at hth'
          exact .inl ⟨rfl, hth'.symm⟩
        · simp only [update_self, update_of_ne ht] at hth'
          exact .inr hth'
      · simp only [update_of_ne hj] at hth'
        exact .inr hth'
    constructor
    · intro r m hm j hj
      obtain ⟨hhost, hunreg⟩ := h.exclusive r m hm j hj
      refine ⟨hhost, ?_⟩
      rintro ⟨t', th', hth', hcall, hdel⟩
      obtain ⟨rfl, rfl⟩ | hold := hthr j t' th' hth'
      · -- the new thread would unregister a room of `m`, but its node hosts the room
        obtain rfl : c = .unregisterRoom r := hcall
        rw [show s.hosts j r = true from hok] at hhost
        exact Bool.noConfusion hhost
      · exact hunreg ⟨t', th', hold, hcall, hdel⟩
    · intro j t' th' r ip hth' hcall hhold hgrant
      obtain ⟨-, rfl⟩ | hold := hthr j t' th' hth'
      · exact Bool.noConfusion hhold
      · exact h.granted j t' th' r ip hold hcall hhold hgrant

theorem OwnerInv.crash (h : OwnerInv s) (i : String) : OwnerInv (clusterStep cc s (.crash i)) := by
  have hthr : ∀ j t th, ((clusterStep cc s (.crash i)).node j).threads t = some th →
      j ≠ i ∧ (s.node j).threads t = some th := by
    intro j t th hth
    by_cases hj : j = i
    · subst hj; simp [clusterStep] at hth
    · simp only [clusterStep, update_of_ne hj] at hth
      exact ⟨hj, hth⟩
  constructor
  · refine h.shrink (fun j r hj => ?_) (fun _ _ hkey => hkey) ?_
    · simp only [clusterStep] at hj
      split at hj
      · cases hj
      · exact hj
    · rintro j r ⟨t, th, hth, hcall, hdel⟩
      exact ⟨t, th, (hthr j t th hth).2, hcall, hdel⟩
  · intro j t th r ip hth hcall hhold hgrant
    obtain ⟨hj, hth⟩ := hthr j t th hth
    simpa [clusterStep, hj] using h.granted j t th r ip hth hcall hhold hgrant

theorem OwnerInv.of_same (h : OwnerInv s) (hhosts : s'.hosts = s.hosts)
    (hthr : ∀ j, (s'.node j).threads = (s.node j).threads)
    (hkey : ∀ r j, s'.keyOf r = some j → s.keyOf r = some j) : OwnerInv s' := by
  constructor
  · refine h.shrink (fun j r => by rw [hhosts]; exact id) hkey ?_
    rintro j r ⟨t, th, hth, hcall, hdel⟩
    exact ⟨t, th, hthr j ▸ hth, hcall, hdel⟩
  · intro j t th r ip hth hcall hhold hgrant
    rw [hhosts]
    exact h.granted j t th r ip (hthr j ▸ hth) hcall hhold hgrant

theorem ownerInv_step (hinv : ClusterInv cc s) (h : OwnerInv s) {e : ClusterEvent}
    (hok : OwnersRespected s e) : OwnerInv (clusterStep cc s e) := by
  cases e with
  | spawn i t c => exact h.spawn hok
  | crash i => exact h.crash i
  | step i t =>
    obtain hsame | ⟨_, _, _, hth, hprog, -, hstep⟩ := stepThread_cases cc s i t
    · rw [clusterStep, hsame]; exact h
    · rw [clusterStep, hstep]; exact h.advance hinv hth hprog hok
  | deliver i =>
    cases hinbox : s.shared.inbox i with
    | nil => simpa only [clusterStep, hinbox] using h
    | cons message rest =>
      simp only [clusterStep, hinbox]
      refine h.of_same rfl (fun j => ?_) fun _ _ hkey => hkey
      by_cases hj : j = i
      · subst hj; simp
      · simp [hj]
  | lose | expireNode => exact h.of_same rfl (fun _ => rfl) fun _ _ hkey => hkey
  | expireRoom r =>
    refine h.of_same rfl (fun _ => rfl) fun r' j hkey => ?_
    simp only [clusterStep, keyOf, Redis.delRoom_lookup] at hkey
    split at hkey
    · cases hkey
    · exact hkey

theorem ownerInv_run {es : List ClusterEvent}
    (h : Runs.StepsMeet (clusterStep cc) OwnersRespected {} es) :
    ClusterInv cc (clusterRun cc es) ∧ OwnerInv (clusterRun cc es) := by
  refine h.inv (fun s => ClusterInv cc s ∧ OwnerInv s) ?_ es _ ⟨clusterInv_init, ?_⟩
  · intro s e hs hok
    exact ⟨clusterInv_step hs.1 e, ownerInv_step hs.1 hs.2 hok⟩
  · exact ⟨fun r i hi => hi.elim (fun h => Bool.noConfusion h) nofun, fun _ _ _ _ _ h => nomatch h⟩

theorem OwnerInv.no_foreign_delete (h : OwnerInv s) (hinv : ClusterInv cc s)
    (e : ClusterEvent) : ¬DeletesForeignKey cc s e := by
  rintro ⟨i, t, r, owner, -, hnext, hkey, hne, -⟩
  obtain ⟨th, k, hth, hprog⟩ : ∃ th k, (s.node i).threads t = some th ∧
      th.prog = .act (.delRoom r) k := by
    unfold nextAct at hnext
    split at hnext
    · cases hnext
    rename_i th hth
    split at hnext
    · cases hnext
    rename_i k hprog
    cases hnext
    exact ⟨th, k, hth, hprog⟩
  have hsnd := hinv.sound i t th hth
  rw [ThreadSound, hprog] at hsnd
  obtain ⟨⟨hhold, hwho⟩, -⟩ := hsnd
  obtain ⟨hhost, hunreg⟩ := h.exclusive r owner (.inr hkey) i (Ne.symm hne)
  rcases hwho with ⟨hcall, hdel⟩ | ⟨⟨ip, hcall⟩, hgrant⟩
  · exact hunreg ⟨t, th, hth, hcall, hdel⟩
  · rw [h.granted i t th r ip hth hcall hhold hgrant] at hhost
    exact Bool.noConfusion hhost

/-- **A run that respects owners never deletes another node's claim**: neither
`unregisterRoom` nor the redirect of `claimRoom`, in any state the run reaches. -/
theorem not_deletesForeignKey (cc : ClusterConfig) {es : List ClusterEvent} {e : ClusterEvent}
    (h : Runs.StepsMeet (clusterStep cc) OwnersRespected {} (es ++ [e])) :
    ¬DeletesForeignKey cc (clusterRun cc es) e := by
  obtain ⟨hinv, hown⟩ := ownerInv_run h.last.1
  exact hown.no_foreign_delete hinv e

def Alone (i : String) (s : ClusterState) : Prop :=
  ∀ j, j ≠ i → s.node j = {} ∧ ∀ r, s.hosts j r = false

theorem Alone.stepThread (h : Alone i s) (t : ℕ) : Alone i (stepThread cc s i t) := by
  obtain hsame | ⟨_, _, _, -, -, -, hstep⟩ := stepThread_cases cc s i t
  · rwa [hsame]
  rw [hstep]
  intro j hj
  exact ⟨by rw [advance_node_of_ne hj]; exact (h j hj).1,
    fun r => (hostsAfter_of_ne hj).trans ((h j hj).2 r)⟩

theorem Alone.spawn (h : Alone i s) (t : ℕ) (c : RegistryCall) :
    Alone i (clusterStep cc s (.spawn i t c)) := by
  cases hslot : (s.node i).threads t with
  | some th => simpa only [clusterStep, hslot] using h
  | none =>
    intro j hj
    simp only [clusterStep, hslot, update_of_ne hj]
    exact h j hj

theorem alone_init : Alone i {} := fun _ _ => ⟨rfl, fun _ => rfl⟩

theorem Alone.runCall (h : Alone i s) (t : ℕ) (c : RegistryCall) (n : ℕ) :
    Alone i (Runs.runFrom (clusterStep cc) s (runCall i t c n)) := by
  have hsteps : ∀ {s : ClusterState}, Alone i s →
      Alone i (runFrom (clusterStep cc) s (List.replicate n (.step i t))) := by
    induction n with
    | zero => intro s h; exact h
    | succ n ih => intro s h; exact ih (h.stepThread t)
  exact hsteps (h.spawn t c)

theorem Alone.stepsMeet (h : Alone i s) (t n : ℕ) :
    Runs.StepsMeet (clusterStep cc) OwnersRespected s (List.replicate n (.step i t)) := by
  induction n generalizing s with
  | zero => trivial
  | succ n ih =>
    refine ⟨fun r _ _ j hj => ⟨(h j hj).2 r, ?_⟩, ih (h.stepThread t)⟩
    rintro ⟨_, _, hth, -⟩
    rw [(h j hj).1] at hth
    cases hth

theorem Alone.stepsMeet_runCall (h : Alone i s) (t n : ℕ) {c : RegistryCall}
    (hok : OwnersRespected s (.spawn i t c)) :
    Runs.StepsMeet (clusterStep cc) OwnersRespected s (MediasoupCpp.runCall i t c n) :=
  ⟨hok, (h.spawn t c).stepsMeet t n⟩

end Ownership

/-- A node claims a room and unregisters it: the run respects owners up to the
`DEL`, which hits the node's own claim. -/
theorem not_deletesForeignKey_own :
    let es := runCall "n" 0 (.claimRoom "r" "") 9 ++ runCall "n" 1 (.unregisterRoom "r") 3
    (clusterRun plainNodes es).nextAct "n" 1 = some (.delRoom "r") ∧
      (clusterRun plainNodes es).keyOf "r" = some "n" ∧
        ¬DeletesForeignKey plainNodes (clusterRun plainNodes es) (.step "n" 1) := by
  intro es
  have hclm : Alone "n" (runFrom (clusterStep plainNodes) {}
      (runCall "n" 0 (.claimRoom "r" "") 9)) := alone_init.runCall 0 _ 9
  have hes : Runs.StepsMeet (clusterStep plainNodes) OwnersRespected {} (es ++ [.step "n" 1]) := by
    rw [stepsMeet_append, stepsMeet_append, runFrom_append]
    exact ⟨⟨alone_init.stepsMeet_runCall 0 9 trivial, hclm.stepsMeet_runCall 1 3 rfl⟩,
      (hclm.runCall 1 (.unregisterRoom "r") 3).stepsMeet 1 1⟩
  exact ⟨rfl, rfl, not_deletesForeignKey plainNodes hes⟩

/-- A `DEL` can remove the claim of another node: a node claims a room, the key
expires, a second node claims the room, and the first one unregisters it. -/
theorem deletesForeignKey_after_expiry :
    ¬∀ (cc : ClusterConfig) (es : List ClusterEvent) (e : ClusterEvent),
      ¬DeletesForeignKey cc (clusterRun cc es) e := by
  intro h
  refine h plainNodes (runCall "n" 0 (.claimRoom "r" "") 9 ++ .expireRoom "r" ::
    (runCall "m" 0 (.claimRoom "r" "") 9 ++ runCall "n" 1 (.unregisterRoom "r") 3))
    (.step "n" 1) ⟨"n", 1, "r", "m", rfl, rfl, by decide, by decide, by decide⟩

end MediasoupCpp
