import Mathlib.Logic.Function.Basic
import Mathlib.Tactic.Tauto
import MediasoupCpp.Lib.Run
import MediasoupCpp.Registry.Thread

/-!
# A cluster of nodes over one Redis

Any number of nodes, each with any number of threads inside the registry, share one Redis that
always answers.  One event of the cluster is a single action of one thread, the start of a call,
the delivery or the loss of a pub/sub message, the expiry of a key, or the crash of a node; an
interleaving is a list of events.

Main result: `clusterInv_run`.

Source: `src/RoomRegistry.cpp`, `src/RoomRegistry.h`, `src/RoomRegistryPubSub.cpp`.
-/

namespace MediasoupCpp

open Function

/-! ### The state -/

/-- A call in progress, or finished: what is left of its program, and its
observer. -/
structure Thread where
  call : RegistryCall
  prog : RegistryProg RegistryResult
  obs : ThreadObs := {}

structure NodeState where
  registry : RegistryLocal := {}
  holder : Option ℕ := none
  threads : ℕ → Option Thread := fun _ => none

/-- The cluster.  `hosts i r` records that the script last gave `r` to `i`, and `i`
has not deleted the key since. -/
structure ClusterState where
  shared : RegistryShared := {}
  node : String → NodeState := fun _ => {}
  hosts : String → String → Bool := fun _ _ => false

/-! ### Steps -/

def setHost (hosts : String → String → Bool) (i r : String) (b : Bool) : String → String → Bool :=
  fun j r' => if j = i ∧ r' = r then b else hosts j r'

def hostsAfter (i : String) :
    (a : RegistryAct) → a.Ans → (String → String → Bool) → String → String → Bool
  | .evalClaim r, some .granted, hosts => setHost hosts i r true
  | .evalClaim r, some .self, hosts => setHost hosts i r true
  | .evalClaim r, some (.taken _), hosts => setHost hosts i r true
  | .delRoom r, some _, hosts => setHost hosts i r false
  | _, _, hosts => hosts

def holderAfter (t : ℕ) : RegistryAct → Option ℕ → Option ℕ
  | .lock, _ => some t
  | .unlock, _ => none
  | _, holder => holder

inductive ClusterEvent
  | spawn (i : String) (t : ℕ) (c : RegistryCall)
  | step (i : String) (t : ℕ)
  /-- The next pub/sub message of the node is handled. -/
  | deliver (i : String)
  /-- The next pub/sub message of the node is lost. -/
  | lose (i : String)
  | expireRoom (r : String)
  | expireNode (i : String)
  /-- The node dies, and may start anew later. -/
  | crash (i : String)

section Steps

variable (cc : ClusterConfig) (s : ClusterState)

def advance (i : String) (t : ℕ) (th : Thread) (a : RegistryAct)
    (k : a.Ans → RegistryProg RegistryResult) : ClusterState :=
  let out := exec i a (s.shared, (s.node i).registry)
  let obs := th.obs.after (cc.cfg i).nodeAddress th.call.room a out.1 out.2.1.redis
  { shared := out.2.1
    node := Function.update s.node i
      { registry := out.2.2
        holder := holderAfter t a (s.node i).holder
        threads := Function.update (s.node i).threads t (some ⟨th.call, k out.1, obs⟩) }
    hosts := hostsAfter i a out.1 s.hosts }

/-- One action of a thread.  A thread that wants the mutex waits while another one
holds it. -/
def stepThread (i : String) (t : ℕ) : ClusterState :=
  match (s.node i).threads t with
  | none => s
  | some th =>
    match th.prog with
    | .ret _ => s
    | .act a k => if a = .lock ∧ (s.node i).holder ≠ none then s else advance cc s i t th a k

def clusterStep : ClusterEvent → ClusterState
  | .spawn i t c =>
    match (s.node i).threads t with
    | some _ => s
    | none =>
      { s with node := Function.update s.node i { s.node i with
          threads := Function.update (s.node i).threads t (some ⟨c, c.program (cc.cfg i), {}⟩) } }
  | .step i t => stepThread cc s i t
  | .deliver i =>
    match s.shared.inbox i with
    | [] => s
    | message :: rest =>
      { s with
        shared := { s.shared with inbox := Function.update s.shared.inbox i rest }
        node := Function.update s.node i { s.node i with
          registry := { (s.node i).registry with
            cache := handlePubSubMessage (s.node i).registry.cache message } } }
  | .lose i =>
    { s with shared := { s.shared with
        inbox := Function.update s.shared.inbox i (s.shared.inbox i).tail } }
  | .expireRoom r => { s with shared := { s.shared with redis := s.shared.redis.delRoom r } }
  | .expireNode i => { s with shared := { s.shared with redis := s.shared.redis.delNode i } }
  | .crash i =>
    { shared := { s.shared with inbox := Function.update s.shared.inbox i [] }
      node := Function.update s.node i {}
      hosts := fun j r => if j = i then false else s.hosts j r }

abbrev clusterRun (es : List ClusterEvent) : ClusterState := Runs.runFrom (clusterStep cc) {} es

end Steps

/-! ### The invariant -/

section Invariant

variable (cc : ClusterConfig)

def ThreadSound (i : String) (th : Thread) : Prop :=
  Triple cc i th.call (Returned i th.call) th.prog th.obs

/-- Node keys are sound, every thread meets its triple, and the holder of the mutex
is the one thread that believes to hold it. -/
structure ClusterInv (s : ClusterState) : Prop where
  records : RecordsOk cc s.shared.redis
  sound : ∀ i t th, (s.node i).threads t = some th → ThreadSound cc i th
  holder : ∀ i t, (s.node i).holder = some t ↔
    ∃ th, (s.node i).threads t = some th ∧ th.obs.holding = true

variable {cc} {s : ClusterState} {i : String} {t : ℕ} {th : Thread} {a : RegistryAct}
  {k : a.Ans → RegistryProg RegistryResult}

theorem stepThread_cases (cc : ClusterConfig) (s : ClusterState) (i : String) (t : ℕ) :
    stepThread cc s i t = s ∨ ∃ th a k, (s.node i).threads t = some th ∧ th.prog = .act a k ∧
      (a = .lock → (s.node i).holder = none) ∧ stepThread cc s i t = advance cc s i t th a k := by
  unfold stepThread
  split
  · exact .inl rfl
  rename_i th hth
  split
  · exact .inl rfl
  rename_i a k hprog
  split
  · exact .inl rfl
  · exact .inr ⟨th, a, k, hth, hprog, by tauto, rfl⟩

theorem advance_node_of_ne {j : String} (h : j ≠ i) :
    (advance cc s i t th a k).node j = s.node j := by
  simp [advance, h]

theorem advance_threads_of_ne {t' : ℕ} (h : t' ≠ t) :
    ((advance cc s i t th a k).node i).threads t' = (s.node i).threads t' := by
  simp [advance, h]

def obsAfter (cc : ClusterConfig) (s : ClusterState) (i : String) (th : Thread)
    (a : RegistryAct) : ThreadObs :=
  th.obs.after (cc.cfg i).nodeAddress th.call.room a
    (exec i a (s.shared, (s.node i).registry)).1
    (exec i a (s.shared, (s.node i).registry)).2.1.redis

theorem advance_threads_self : ((advance cc s i t th a k).node i).threads t =
      some ⟨th.call, k (exec i a (s.shared, (s.node i).registry)).1, obsAfter cc s i th a⟩ := by
  simp [advance, obsAfter]

theorem advance_holder_self :
    ((advance cc s i t th a k).node i).holder = holderAfter t a (s.node i).holder := by
  simp [advance]

section

variable (h : ClusterInv cc s)
include h

theorem ClusterInv.holder_advance (hth : (s.node i).threads t = some th)
    (hallow : ActAllowed cc i th.call th.obs a) (hlock : a = .lock → (s.node i).holder = none)
    (t' : ℕ) : ((advance cc s i t th a k).node i).holder = some t' ↔
      ∃ th', ((advance cc s i t th a k).node i).threads t' = some th' ∧ th'.obs.holding := by
  have hself : (s.node i).holder = some t ↔ th.obs.holding := by
    rw [h.holder i t, hth]; simp
  rw [advance_holder_self]
  by_cases ht : t' = t
  · subst ht
    simp only [advance_threads_self, Option.some.injEq, exists_eq_left', obsAfter,
      ThreadObs.holding_after]
    cases a <;> simp [holderAfter, hself]
  rw [advance_threads_of_ne ht, ← h.holder i t']
  have hne : t ≠ t' := Ne.symm ht
  cases a <;> simp only [holderAfter]
  · -- the mutex was free
    simp [hlock rfl, hne]
  · -- it was held by the thread that releases it
    simp [hself.mpr hallow, hne]

theorem ClusterInv.advance (hth : (s.node i).threads t = some th) (hprog : th.prog = .act a k)
    (hlock : a = .lock → (s.node i).holder = none) : ClusterInv cc (advance cc s i t th a k) := by
  have hsnd : ThreadSound cc i th := h.sound i t th hth
  rw [ThreadSound, hprog] at hsnd
  obtain ⟨hallow, hnext⟩ := hsnd
  refine ⟨recordsOk_exec hallow h.records, fun j t' th' hth' => ?_, fun j t' => ?_⟩
  · by_cases hj : j = i
    · subst hj
      by_cases ht : t' = t
      · subst ht
        rw [advance_threads_self] at hth'
        cases hth'
        exact hnext _ _ ⟨s.shared, (s.node j).registry, h.records, rfl, rfl⟩
      · rw [advance_threads_of_ne ht] at hth'
        exact h.sound j t' th' hth'
    · rw [advance_node_of_ne hj] at hth'
      exact h.sound j t' th' hth'
  · by_cases hj : j = i
    · subst hj
      exact h.holder_advance hth hallow hlock t'
    · rw [advance_node_of_ne hj]
      exact h.holder j t'

theorem ClusterInv.of_same {s' : ClusterState} (hrecs : RecordsOk cc s'.shared.redis)
    (hthr : ∀ j, (s'.node j).threads = (s.node j).threads)
    (hholder : ∀ j, (s'.node j).holder = (s.node j).holder) : ClusterInv cc s' := by
  refine ⟨hrecs, fun j t th hth => h.sound j t th (hthr j ▸ hth), fun j t => ?_⟩
  rw [hholder, hthr]
  exact h.holder j t

theorem ClusterInv.spawn (i : String) (t : ℕ) (c : RegistryCall) :
    ClusterInv cc (clusterStep cc s (.spawn i t c)) := by
  cases hslot : (s.node i).threads t with
  | some th => simpa only [clusterStep, hslot] using h
  | none =>
    simp only [clusterStep, hslot]
    -- the new thread does not hold the mutex, and its slot was not the holder's
    have hfree : (s.node i).holder ≠ some t := by
      rw [Ne, h.holder i t, hslot]; simp
    refine ⟨h.records, fun j t' th hth => ?_, fun j t' => ?_⟩
    · by_cases hj : j = i
      · subst hj
        by_cases ht : t' = t
        · subst ht
          simp only [update_self, Option.some.injEq] at hth
          exact hth ▸ program_sound cc j c
        · simp only [update_self, update_of_ne ht] at hth
          exact h.sound j t' th hth
      · simp only [update_of_ne hj] at hth
        exact h.sound j t' th hth
    · by_cases hj : j = i
      · subst hj
        by_cases ht : t' = t
        · subst ht
          simp [hfree]
        · simp only [update_self, update_of_ne ht]
          exact h.holder j t'
      · simp only [update_of_ne hj]
        exact h.holder j t'

theorem ClusterInv.crash (i : String) : ClusterInv cc (clusterStep cc s (.crash i)) := by
  refine ⟨h.records, fun j t th hth => ?_, fun j t => ?_⟩
  · by_cases hj : j = i
    · subst hj; simp [clusterStep] at hth
    · simp only [clusterStep, update_of_ne hj] at hth
      exact h.sound j t th hth
  · by_cases hj : j = i
    · subst hj; simp [clusterStep]
    · simp only [clusterStep, update_of_ne hj]
      exact h.holder j t

theorem clusterInv_step (e : ClusterEvent) : ClusterInv cc (clusterStep cc s e) := by
  cases e with
  | spawn i t c => exact h.spawn i t c
  | crash i => exact h.crash i
  | step i t =>
    obtain hsame | ⟨_, _, _, hth, hprog, hlock, hstep⟩ := stepThread_cases cc s i t
    · rw [clusterStep, hsame]; exact h
    · rw [clusterStep, hstep]; exact h.advance hth hprog hlock
  | deliver i =>
    cases hinbox : s.shared.inbox i with
    | nil => simpa only [clusterStep, hinbox] using h
    | cons message rest =>
      simp only [clusterStep, hinbox]
      refine h.of_same h.records (fun j => ?_) fun j => ?_
      all_goals by_cases hj : j = i
      all_goals first | (subst hj; simp) | simp [hj]
  | lose | expireRoom => exact h.of_same h.records (fun _ => rfl) fun _ => rfl
  | expireNode i =>
    refine h.of_same (fun j info hlook => h.records j info ?_) (fun _ => rfl) fun _ => rfl
    simp only [clusterStep, Redis.delNode, Dict.lookup_erase_eq] at hlook
    split at hlook
    · cases hlook
    · exact hlook

end

theorem clusterInv_init : ClusterInv cc {} where
  records := fun _ _ h => nomatch h
  sound := fun _ _ _ h => nomatch h
  holder := by simp

theorem clusterInv_run (cc : ClusterConfig) (es : List ClusterEvent) :
    ClusterInv cc (clusterRun cc es) :=
  Runs.runFrom_inv (ClusterInv cc) (fun _ e h => clusterInv_step h e) es _ clusterInv_init

end Invariant

end MediasoupCpp
