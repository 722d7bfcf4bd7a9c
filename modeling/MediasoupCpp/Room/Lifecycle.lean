import MediasoupCpp.Lib.Run
import MediasoupCpp.Registry.OwnRoom
import MediasoupCpp.Room.Manager

/-!
# Joining and leaving rooms on one node

A join claims the room in the registry right away, a leave that empties a room only posts a task
to give it up, and the tasks run one after the other on the registry thread.  Between the two the
key in Redis and the rooms of the node may drift apart: a join that is answered from the cache
does not notice that the room is about to be unregistered.

Main result: `key_names_node_of_peer`.

Source: `src/RoomServiceLifecycle.cpp`, `src/RoomRegistry.cpp`,
`src/SignalingServerRuntime.cpp`.
-/

namespace MediasoupCpp

/-! ### The node -/

structure JoinRequest where
  roomId : String
  peerId : String
  rtpCapabilities : RtpCapabilities := .wellFormed
  clientIp : String := ""
  /-- The room capacity of the workers; `0` is no limit. -/
  maxTotalRouters : ℕ := 0
  /-- A worker provides a router, if one is needed. -/
  routerCreated : Bool := true

inductive RegistryTask
  | refreshRoom (roomId : String)
  | unregisterRoom (roomId : String)
  deriving DecidableEq

def RegistryTask.program : RegistryTask → RegistryProg Unit
  | refreshRoom roomId => MediasoupCpp.refreshRoom roomId
  | unregisterRoom roomId => MediasoupCpp.unregisterRoom roomId

/-- A task under way.  `erased` records that it has erased its room from the cache;
the code does not read it. -/
structure RunningTask where
  task : RegistryTask
  prog : RegistryProg Unit
  erased : Bool := false

def erasedAfter : RegistryAct → Bool → Bool
  | .eraseRoom _, _ => true
  | _, erased => erased

structure RoomNode where
  shared : RegistryShared := {}
  registry : RegistryLocal := {}
  /-- The registry thread holds the mutex of the command connection. -/
  locked : Bool := false
  rooms : RoomManager := ∅
  tasks : List RegistryTask := []
  running : Option RunningTask := none

namespace RoomNode

variable (s : RoomNode) (r : String)

def keyOf : Option String := s.shared.redis.rooms.lookup r

def cached : Option String := s.registry.cache.roomAddress r

def callRegistry {α : Type} (nodeId : String) (p : RegistryProg α) : α × RoomNode :=
  let out := call nodeId p (s.shared, s.registry)
  (out.1, { s with shared := out.2.1, registry := out.2.2 })

def postRegistryTask (task : RegistryTask) : RoomNode := { s with tasks := s.tasks ++ [task] }

def Unregistering : Prop :=
  .unregisterRoom r ∈ s.tasks ∨ ∃ rt, s.running = some rt ∧ rt.task = .unregisterRoom r

end RoomNode

/-! ### Join and leave -/

section Operations

variable (cfg : RegistryConfig) (req : JoinRequest)

def joinRoom (s : RoomNode) : JoinResult × RoomNode :=
  match s.rooms.enter req.roomId req.peerId req.rtpCapabilities req.routerCreated with
  | (.joined, rooms) =>
    (.joined, { s with rooms := rooms }.postRegistryTask (.refreshRoom req.roomId))
  | (result, rooms) => (result, { s with rooms := rooms })

def joinAtCapacity (s : RoomNode) : JoinResult × RoomNode :=
  let (_, s) := s.callRegistry cfg.nodeId (unregisterRoom req.roomId)
  let (resolved, s) := s.callRegistry cfg.nodeId (resolveRoom cfg req.roomId req.clientIp)
  match resolved with
  | .ok (wsUrl, _) =>
    if wsUrl ≠ "" ∧ wsUrl ≠ cfg.nodeAddress then (.redirect wsUrl, s)
    else (.rejected "no available capacity", s)
  | .error _ => (.rejected "no available capacity", s)

def join (s : RoomNode) : JoinResult × RoomNode :=
  let (claimed, s) := s.callRegistry cfg.nodeId (claimRoom cfg req.roomId req.clientIp)
  match claimed with
  | .error _ => (.rejected "room registry unavailable", s)
  | .ok addr =>
    if addr ≠ "" then (.redirect addr, s)
    else if s.rooms.getRoom req.roomId = none ∧ req.maxTotalRouters > 0 ∧
        s.rooms.roomCount ≥ req.maxTotalRouters then joinAtCapacity cfg req s
    else joinRoom req s

def leave (roomId peerId : String) (s : RoomNode) : RoomNode :=
  match s.rooms.leave roomId peerId with
  | (rooms, true) => { s with rooms := rooms }.postRegistryTask (.unregisterRoom roomId)
  | (rooms, false) => { s with rooms := rooms }

variable (s : RoomNode)

def startTask (task : RegistryTask) (tasks : List RegistryTask) : RoomNode :=
  { s with tasks := tasks, running := some ⟨task, task.program, false⟩ }

def advanceTask (rt : RunningTask) (a : RegistryAct)
    (k : a.Ans → RegistryProg Unit) : RoomNode :=
  let out := exec cfg.nodeId a (s.shared, s.registry)
  { s with
    shared := out.2.1
    registry := out.2.2
    locked := match a with
      | .lock => true
      | .unlock => false
      | _ => s.locked
    running := some ⟨rt.task, k out.1, erasedAfter a rt.erased⟩ }

def runTaskStep : RoomNode :=
  match s.running with
  | none =>
    match s.tasks with
    | [] => s
    | task :: tasks => startTask s task tasks
  | some rt =>
    match rt.prog with
    | .ret _ => { s with running := none }
    | .act a k => advanceTask cfg s rt a k

inductive NodeEvent
  | join (req : JoinRequest)
  | leave (roomId peerId : String)
  | task
  /-- The node handles the next pub/sub message of its own. -/
  | deliver
  /-- The node handles a message of another node. -/
  | message (m : PubSubMessage)

def nodeStep : NodeEvent → RoomNode
  | .join req => if s.locked then s else (join cfg req s).2
  | .leave roomId peerId => leave roomId peerId s
  | .task => runTaskStep cfg s
  | .deliver =>
    match s.shared.inbox cfg.nodeId with
    | [] => s
    | m :: rest =>
      { s with
        shared := { s.shared with inbox := Function.update s.shared.inbox cfg.nodeId rest }
        registry := { s.registry with cache := handlePubSubMessage s.registry.cache m } }
  | .message m =>
    { s with registry := { s.registry with cache := handlePubSubMessage s.registry.cache m } }

abbrev nodeRun (es : List NodeEvent) : RoomNode := Runs.runFrom (nodeStep cfg) {} es

end Operations

/-! ### What a task does -/

section Tasks

variable {cfg : RegistryConfig} {R : String} (task : RegistryTask)

def TaskAllowed (erased : Bool) : RegistryAct → Prop
  | .lock | .unlock | .ensureConnected | .handleDisconnect | .connected => True
  | .eraseRoom r => task = .unregisterRoom r
  | .delRoom r => task = .unregisterRoom r ∧ erased = true
  | .publish m => ∃ r, task = .unregisterRoom r ∧ m = .room r ""
  | .expireRoom r => task = .refreshRoom r
  | _ => False

def TaskSound (prog : RegistryProg Unit) (erased : Bool) : Prop :=
  prog.Sound (TaskAllowed task) (fun a _ g g' => g' = erasedAfter a g) (fun _ _ => True) erased

variable {erased : Bool}

theorem taskSound_of_only {task : RegistryTask} {prog : RegistryProg Unit}
    (h : prog.Only fun a => TaskAllowed task erased a ∧ erasedAfter a erased = erased) :
    TaskSound task prog erased :=
  h.sound (J := fun g => g = erased) (fun g a hg ha => hg ▸ ha.1)
    (fun g a _ g' hg ha hr => by subst hg; exact hr.trans ha.2) (fun _ _ _ => trivial) rfl

theorem taskSound_program : TaskSound task task.program false := by
  cases task with
  | refreshRoom r =>
    refine taskSound_of_only ⟨⟨trivial, rfl⟩, fun _ => ⟨⟨trivial, rfl⟩, fun up => ?_⟩⟩
    cases up
    · exact ⟨⟨trivial, rfl⟩, fun _ => trivial⟩
    refine ⟨⟨rfl, rfl⟩, fun reply => ?_⟩
    cases reply
    · exact ⟨⟨trivial, rfl⟩, fun _ => ⟨⟨trivial, rfl⟩, fun _ => trivial⟩⟩
    · exact ⟨⟨trivial, rfl⟩, fun _ => trivial⟩
  | unregisterRoom r =>
    refine ⟨rfl, fun _ g' hg => ?_⟩
    obtain rfl : g' := hg
    have hpub : (publishRoomUpdate r "").Only fun a =>
        TaskAllowed (.unregisterRoom r) true a ∧ erasedAfter a true := by
      refine ⟨⟨trivial, rfl⟩, fun up => ?_⟩
      cases up
      · trivial
      refine ⟨⟨⟨r, rfl, rfl⟩, rfl⟩, fun reply => ?_⟩
      cases reply
      · exact ⟨⟨trivial, rfl⟩, fun _ => trivial⟩
      · trivial
    refine taskSound_of_only ?_
    rw [withLock_eq]
    refine ⟨⟨trivial, rfl⟩, fun _ => Prog.Only.bind (fun _ => ?_) ?_⟩
    · exact ⟨⟨trivial, rfl⟩, fun _ => trivial⟩
    refine ⟨⟨trivial, rfl⟩, fun up => ?_⟩
    cases up
    · trivial
    refine ⟨⟨⟨rfl, rfl⟩, rfl⟩, fun reply => ?_⟩
    cases reply
    · exact ⟨⟨trivial, rfl⟩, fun _ => hpub⟩
    · exact hpub

theorem exec_task_frame {task : RegistryTask} {a : RegistryAct}
    (ha : TaskAllowed task erased a) (hne : task ≠ .unregisterRoom R) {i : String}
    (st : RegistryShared × RegistryLocal) : SameRoom R st (exec i a st).2 := by
  have hother : ∀ r, task = .unregisterRoom r → R ≠ r := by
    rintro r rfl rfl
    exact hne rfl
  cases a with
  | eraseRoom r =>
    exact exec_frame (a := .eraseRoom r) (hother r ha) rfl _
  | delRoom r =>
    exact exec_frame (a := .delRoom r) (hother r ha.1) rfl _
  | publish m =>
    obtain ⟨r, hr, rfl⟩ := ha
    exact exec_frame (a := .publish (.room r "")) (hother r hr) rfl _
  | expireRoom r =>
    exact command_inv _ ⟨rfl, rfl, fun _ _ hm => hm, rfl⟩ ⟨rfl, rfl, fun _ _ hm => hm, rfl⟩
  | lock | unlock | ensureConnected | handleDisconnect | connected =>
    exact ⟨rfl, rfl, fun _ _ hm => hm, rfl⟩
  | _ => exact ha.elim

theorem OwnRoom.exec_unregister {st : RegistryShared × RegistryLocal} (h : OwnRoom cfg R st)
    {a : RegistryAct} (ha : TaskAllowed (.unregisterRoom R) erased a)
    (heras : erased → st.2.cache.roomAddress R = none) :
    OwnRoom cfg R (exec cfg.nodeId a st).2 ∧ (erasedAfter a erased →
      (exec cfg.nodeId a st).2.2.cache.roomAddress R = none) := by
  obtain ⟨_, n⟩ := st
  cases a with
  | eraseRoom r =>
    obtain rfl : R = r := RegistryTask.unregisterRoom.inj ha
    have hnone : (n.cache.eraseRoom R).roomAddress R = none := by simp
    exact ⟨⟨h.reachable, h.key, fun address haddress =>
      absurd (hnone.symm.trans haddress) (by simp), h.messages⟩, fun _ => hnone⟩
  | delRoom r =>
    obtain rfl : R = r := RegistryTask.unregisterRoom.inj ha.1
    have hnone : n.cache.roomAddress R = none := heras ha.2
    simp only [exec, command]
    split
    · refine ⟨⟨h.reachable, .inl ?_, fun address haddress => ?_, h.messages⟩, fun _ => hnone⟩
      · simp [Redis.delRoom_lookup]
      · cases hnone.symm.trans haddress
    · exact ⟨⟨h.reachable, h.key, h.cached, h.messages⟩, fun _ => hnone⟩
  | publish m =>
    obtain ⟨r, hr, rfl⟩ := ha
    obtain rfl : R = r := RegistryTask.unregisterRoom.inj hr
    simp only [exec]
    split
    · refine ⟨⟨h.reachable, h.key, h.cached, fun address hm => ?_⟩, heras⟩
      rcases mem_inbox_publish hm with hm | rfl
      · exact h.messages address hm
      · exact .inl rfl
    · exact ⟨⟨h.reachable, h.key, h.cached, h.messages⟩, heras⟩
  | lock | unlock | ensureConnected | handleDisconnect | connected =>
    exact ⟨⟨h.reachable, h.key, h.cached, h.messages⟩, heras⟩
  | expireRoom r => exact RegistryTask.noConfusion ha
  | _ => exact ha.elim

end Tasks

/-! ### The invariant of a room -/

section Invariant

variable {cfg : RegistryConfig} {R : String} {s s' : RoomNode}

def CalmAbout (cfg : RegistryConfig) (R : String) (s : RoomNode) : NodeEvent → Prop
  | .join req => req.roomId = R → ¬s.Unregistering R
  | .deliver => ∀ address rest, s.shared.inbox cfg.nodeId = .room R address :: rest →
      address ≠ "" → s.keyOf R = some cfg.nodeId ∧ ¬s.Unregistering R
  | .message m => ∀ address, m ≠ .room R address
  | _ => True

/-- The room is on the node only with a key that names the node, and not while it is
being given up. -/
structure LifeInv (cfg : RegistryConfig) (R : String) (s : RoomNode) : Prop where
  own : OwnRoom cfg R (s.shared, s.registry)
  room_key : s.rooms.getRoom R ≠ none → s.keyOf R = some cfg.nodeId
  pending : s.Unregistering R → s.rooms.getRoom R = none
  sound : ∀ rt, s.running = some rt → TaskSound rt.task rt.prog rt.erased
  erased : ∀ rt, s.running = some rt → rt.task = .unregisterRoom R → rt.erased = true →
    s.cached R = none

theorem LifeInv.of_same (h : LifeInv cfg R s) (hown : OwnRoom cfg R (s'.shared, s'.registry))
    (hrun : s'.running = s.running)
    (htsk : .unregisterRoom R ∈ s'.tasks → .unregisterRoom R ∈ s.tasks)
    (hkey : s'.rooms.getRoom R ≠ none → s'.keyOf R = some cfg.nodeId)
    (hrms : s.Unregistering R → s'.rooms.getRoom R = none)
    (hcach : s.Unregistering R → s.cached R = none → s'.cached R = none) : LifeInv cfg R s' := by
  refine ⟨hown, hkey, fun hun => hrms ?_, fun rt hrt => h.sound rt (hrun ▸ hrt),
    fun rt hrt htask heras => ?_⟩
  · exact hun.imp htsk fun ⟨rt, hrt, htask⟩ => ⟨rt, hrun ▸ hrt, htask⟩
  · exact hcach (.inr ⟨rt, hrun ▸ hrt, htask⟩)
      (h.erased rt (hrun ▸ hrt) htask heras)

theorem LifeInv.frame (h : LifeInv cfg R s)
    (hsame : SameRoom R (s.shared, s.registry) (s'.shared, s'.registry))
    (hrun : s'.running = s.running)
    (htsk : .unregisterRoom R ∈ s'.tasks → .unregisterRoom R ∈ s.tasks)
    (hrms : s'.rooms.getRoom R = s.rooms.getRoom R) : LifeInv cfg R s' := by
  refine h.of_same (h.own.frame hsame) hrun htsk (fun hroom => ?_) (fun hun => ?_)
    fun _ hcach => ?_
  · exact hsame.key.trans (h.room_key (hrms ▸ hroom))
  · rw [hrms]; exact h.pending hun
  · exact hsame.cached.trans hcach

theorem joinRoom_cases (req : JoinRequest) (s : RoomNode) :
    ∃ rooms tasks, (joinRoom req s).2 = { s with rooms := rooms, tasks := tasks } ∧
      (∀ r, r ≠ req.roomId → rooms.getRoom r = s.rooms.getRoom r) ∧
        ∀ r, .unregisterRoom r ∈ tasks → .unregisterRoom r ∈ s.tasks := by
  have hoth : ∀ r, r ≠ req.roomId → (s.rooms.enter req.roomId req.peerId req.rtpCapabilities
      req.routerCreated).2.getRoom r = s.rooms.getRoom r :=
    fun r hr => s.rooms.getRoom_enter_of_ne hr _ _ _
  unfold joinRoom
  split
  next rooms henter =>
    rw [henter] at hoth
    exact ⟨rooms, _, rfl, hoth, fun r h => by simpa using h⟩
  next rooms _ henter =>
    rw [henter] at hoth
    exact ⟨rooms, s.tasks, rfl, hoth, fun _ h => h⟩

theorem joinAtCapacity_state (req : JoinRequest) (s : RoomNode) :
    (joinAtCapacity cfg req s).2 = (RoomNode.callRegistry
      (s.callRegistry cfg.nodeId (unregisterRoom req.roomId)).2 cfg.nodeId
      (resolveRoom cfg req.roomId req.clientIp)).2 := by
  unfold joinAtCapacity
  dsimp only
  split
  · split <;> rfl
  · rfl

variable {req : JoinRequest}

section

variable (h : LifeInv cfg R s)
include h

theorem LifeInv.joinAtCapacity (hreq : req.roomId = R) (hun : ¬s.Unregistering R)
    (hroom : s.rooms.getRoom R = none) : LifeInv cfg R (joinAtCapacity cfg req s).2 := by
  subst hreq
  obtain ⟨hown, hkey, hcach⟩ := h.own.unregisterRoom
  have hgone : LifeInv cfg req.roomId
      (s.callRegistry cfg.nodeId (unregisterRoom req.roomId)).2 :=
    h.of_same hown rfl id (fun hne => absurd hroom hne) (fun hpend => absurd hpend hun)
      fun hpend => absurd hpend hun
  rw [joinAtCapacity_state]
  exact hgone.frame (resolveRoom_frame hown.reachable hkey hcach) rfl id rfl

theorem LifeInv.join_other (hreq : req.roomId ≠ R) : LifeInv cfg R (join cfg req s).2 := by
  have hcall : ∀ {α : Type} {p : RegistryProg α} {s : RoomNode}, LifeInv cfg R s →
      p.Only (About req.roomId) → LifeInv cfg R (s.callRegistry cfg.nodeId p).2 := fun h hp =>
    h.frame (call_frame (Ne.symm hreq) hp _) rfl id rfl
  have hclm := hcall (p := claimRoom cfg req.roomId req.clientIp) h (about_claimRoom _)
  unfold join
  dsimp only
  split
  · exact hclm
  split
  · exact hclm
  split
  · rw [joinAtCapacity_state]
    exact hcall (hcall hclm about_unregisterRoom) (about_resolveRoom _)
  obtain ⟨_, _, heq, hoth, htsk⟩ := joinRoom_cases req
    (s.callRegistry cfg.nodeId (claimRoom cfg req.roomId req.clientIp)).2
  rw [heq]
  exact hclm.frame (SameRoom.refl R _) rfl (htsk R) (hoth R (Ne.symm hreq))

theorem LifeInv.join_own (hreq : req.roomId = R) (hun : ¬s.Unregistering R) :
    LifeInv cfg R (join cfg req s).2 := by
  subst hreq
  obtain ⟨hown, hkey⟩ := h.own.claimRoom req.clientIp
  have hclm : LifeInv cfg req.roomId
      (s.callRegistry cfg.nodeId (claimRoom cfg req.roomId req.clientIp)).2 :=
    h.of_same hown rfl id (fun hroom => hkey (.inr (h.room_key hroom)))
      (fun hpend => absurd hpend hun) fun hpend => absurd hpend hun
  unfold join
  dsimp only
  split
  · exact hclm
  rename_i addr hres
  split
  · exact hclm
  rename_i haddr
  have hnow := hkey (.inl (by rw [show addr = "" from not_not.mp haddr] at hres; exact hres))
  split
  next hfull =>
    exact hclm.joinAtCapacity rfl hun hfull.1
  obtain ⟨_, _, heq, -, htsk⟩ := joinRoom_cases req
    (s.callRegistry cfg.nodeId (claimRoom cfg req.roomId req.clientIp)).2
  rw [heq]
  exact hclm.of_same hown rfl (htsk _) (fun _ => hnow)
    (fun hpend => absurd hpend hun) fun hpend => absurd hpend hun

theorem LifeInv.leave (roomId peerId : String) : LifeInv cfg R (leave roomId peerId s) := by
  have hleave := s.rooms.getRoom_leave roomId peerId R
  unfold MediasoupCpp.leave
  split
  next rooms hrms =>
    rw [hrms] at hleave
    obtain ⟨hne, hsame⟩ | ⟨rfl, ⟨-, hno⟩ | ⟨hroom, -, hgone⟩ | ⟨-, hno, -⟩⟩ := hleave
    · refine h.frame (SameRoom.refl R _) rfl (fun hmem => ?_) hsame
      simpa [RoomNode.postRegistryTask, hne] using hmem
    · cases hno
    · -- the last peer leaves: the room goes, and its unregistration is posted
      refine ⟨h.own, fun hne => absurd hgone hne, fun _ => hgone, h.sound, fun rt hrt htask => ?_⟩
      exact absurd (h.pending (.inr ⟨rt, hrt, htask⟩)) hroom
    · cases hno
  next rooms hrms =>
    rw [hrms] at hleave
    obtain ⟨hne, hsame⟩ | ⟨rfl, ⟨hroom, hno⟩ | ⟨-, hno, -⟩ | ⟨hroom, -, -⟩⟩ := hleave
    · exact h.frame (SameRoom.refl R _) rfl id hsame
    · obtain ⟨rfl, -⟩ := Prod.mk.inj hno
      exact h
    · cases hno
    have hun : ¬s.Unregistering R := fun hpend => hroom (h.pending hpend)
    exact h.of_same h.own rfl id (fun _ => h.room_key hroom)
      (fun hpend => absurd hpend hun) fun hpend => absurd hpend hun

theorem LifeInv.startTask {task : RegistryTask} {tasks : List RegistryTask}
    (htsk : s.tasks = task :: tasks) : LifeInv cfg R (startTask s task tasks) := by
  -- the task taken was queued before
  have hun : (MediasoupCpp.startTask s task tasks).Unregistering R → s.Unregistering R := by
    rintro (hmem | ⟨rt, hrt, htask⟩)
    · exact .inl (by rw [htsk]; exact List.mem_cons_of_mem _ hmem)
    · cases hrt
      exact .inl (by rw [htsk]; exact htask ▸ List.mem_cons_self)
  refine ⟨h.own, h.room_key, fun hpend => h.pending (hun hpend), fun rt hrt => ?_,
    fun rt hrt _ heras => ?_⟩
  · cases hrt
    exact taskSound_program task
  · cases hrt
    exact Bool.noConfusion heras

theorem LifeInv.advanceTask {rt : RunningTask} {a : RegistryAct} {k : a.Ans → RegistryProg Unit}
    (hrt : s.running = some rt) (hprog : rt.prog = .act a k) :
    LifeInv cfg R (advanceTask cfg s rt a k) := by
  have hsnd := h.sound rt hrt
  rw [hprog] at hsnd
  obtain ⟨ha, hnext⟩ := hsnd
  have hsnd' : ∀ rt', (MediasoupCpp.advanceTask cfg s rt a k).running = some rt' →
      TaskSound rt'.task rt'.prog rt'.erased := by
    intro rt' hrt'
    cases hrt'
    exact hnext _ _ rfl
  have hun : (MediasoupCpp.advanceTask cfg s rt a k).Unregistering R → s.Unregistering R := by
    rintro (hmem | ⟨rt', hrt', htask⟩)
    · exact .inl hmem
    · cases hrt'
      exact .inr ⟨rt, hrt, htask⟩
  by_cases htask : rt.task = .unregisterRoom R
  · -- the unregistration of the room itself: the room is gone from the node
    rw [htask] at ha
    have hroom : s.rooms.getRoom R = none := h.pending (.inr ⟨rt, hrt, htask⟩)
    obtain ⟨hown, heras⟩ := h.own.exec_unregister ha (h.erased rt hrt htask)
    refine ⟨hown, fun hne => absurd hroom hne, fun _ => hroom, hsnd', fun rt' hrt' _ he => ?_⟩
    cases hrt'
    exact heras he
  · have hsame := exec_task_frame (i := cfg.nodeId) ha htask (s.shared, s.registry)
    refine ⟨h.own.frame hsame, fun hroom => hsame.key.trans (h.room_key hroom),
      fun hpend => h.pending (hun hpend), hsnd', fun rt' hrt' htask' => ?_⟩
    cases hrt'
    exact absurd htask' htask

theorem LifeInv.runTaskStep : LifeInv cfg R (runTaskStep cfg s) := by
  unfold MediasoupCpp.runTaskStep
  split
  · split
    · exact h
    next htsk =>
      exact h.startTask htsk
  rename_i hrt
  split
  · refine ⟨h.own, h.room_key, fun hpend => h.pending ?_, fun _ hnone => (nomatch hnone),
      fun _ hnone => (nomatch hnone)⟩
    exact hpend.imp id fun ⟨_, hnone, _⟩ => nomatch hnone
  next hprog =>
    exact h.advanceTask hrt hprog

theorem LifeInv.handle {w : RegistryShared}
    (hw : OwnRoom cfg R (w, s.registry)) (hkey : w.redis = s.shared.redis) (m : PubSubMessage)
    (hm : ∀ address, m = .room R address → address ≠ "" → address = cfg.nodeAddress ∧
      s.keyOf R = some cfg.nodeId ∧ ¬s.Unregistering R) :
    LifeInv cfg R { s with
      shared := w
      registry := { s.registry with cache := handlePubSubMessage s.registry.cache m } } := by
  refine h.of_same (hw.handle m fun address hroom hne => ?_) rfl id (fun hroom => ?_) h.pending
    fun hun hcach => ?_
  · obtain ⟨haddr, hkey', -⟩ := hm address hroom hne
    exact ⟨haddr, by rw [hkey]; exact hkey'⟩
  · simp only [RoomNode.keyOf, hkey]; exact h.room_key hroom
  obtain hsame | hnone | ⟨address, hroom, hne, -⟩ :=
    roomAddress_handlePubSubMessage s.registry.cache m R
  · exact hsame.trans hcach
  · exact hnone
  · exact absurd hun (hm address hroom hne).2.2

theorem lifeInv_step {e : NodeEvent} (hok : CalmAbout cfg R s e) :
    LifeInv cfg R (nodeStep cfg s e) := by
  cases e with
  | join req =>
    simp only [nodeStep]
    split
    · exact h
    by_cases hreq : req.roomId = R
    · exact h.join_own hreq (hok hreq)
    · exact h.join_other hreq
  | leave roomId peerId => exact h.leave roomId peerId
  | task => exact h.runTaskStep
  | deliver =>
    cases hinbox : s.shared.inbox cfg.nodeId with
    | nil => simpa only [nodeStep, hinbox] using h
    | cons m rest =>
      simp only [nodeStep, hinbox]
      refine h.handle
        (w := { s.shared with inbox := Function.update s.shared.inbox cfg.nodeId rest })
        ⟨h.own.reachable, h.own.key, h.own.cached, fun address hmem => ?_⟩ rfl m ?_
      · simp only [Function.update_self] at hmem
        exact h.own.messages address (by rw [hinbox]; exact List.mem_cons_of_mem _ hmem)
      rintro address rfl hne
      have haddr := h.own.messages address (by rw [hinbox]; exact List.mem_cons_self)
      exact ⟨haddr.resolve_left hne, hok address rest hinbox hne⟩
  | message m => exact h.handle h.own rfl m fun address hroom => absurd hroom (hok address)

end

theorem lifeInv_init : LifeInv cfg R {} where
  own := ⟨rfl, .inl rfl, fun _ h => (nomatch h), fun _ h => (nomatch h)⟩
  room_key := fun h => absurd rfl h
  pending := fun _ => rfl
  sound := nofun
  erased := nofun

theorem lifeInv_run {es : List NodeEvent}
    (h : Runs.StepsMeet (nodeStep cfg) (CalmAbout cfg R) {} es) : LifeInv cfg R (nodeRun cfg es) :=
  h.inv (LifeInv cfg R) (fun _ _ hs hok => lifeInv_step hs hok) es _ lifeInv_init

end Invariant

/-! ### Rooms and keys -/

def HasPeer (s : RoomNode) (R : String) : Prop :=
  ∃ room, s.rooms.getRoom R = some room ∧ room.empty = false

/-- **A room with a peer has a key that names the node**, in every state of every run
in which no join of the room, and no message that maps it to an address, meets an
unregistration of the room under way. -/
theorem key_names_node_of_peer (cfg : RegistryConfig) {R : String} {es : List NodeEvent}
    (h : Runs.StepsMeet (nodeStep cfg) (CalmAbout cfg R) {} es)
    (hpeer : HasPeer (nodeRun cfg es) R) : (nodeRun cfg es).keyOf R = some cfg.nodeId := by
  obtain ⟨_, hroom, -⟩ := hpeer
  exact (lifeInv_run h).room_key (by rw [hroom]; simp)

def singleNode : RegistryConfig :=
  { nodeId := "n", nodeAddress := "ws://n", stdSort := StdSort.insertion _ }

/-- A first join, and the refresh it posts. -/
theorem key_names_node_of_first_join :
    let es : List NodeEvent := .join { roomId := "r", peerId := "p" } :: List.replicate 6 .task
    Runs.StepsMeet (nodeStep singleNode) (CalmAbout singleNode "r") {} es ∧
      HasPeer (nodeRun singleNode es) "r" ∧ (nodeRun singleNode es).keyOf "r" = some "n" := by
  intro es
  have hcalm : Runs.StepsMeet (nodeStep singleNode) (CalmAbout singleNode "r") {} es := by
    refine ⟨fun _ => ?_, trivial, trivial, trivial, trivial, trivial, trivial, trivial⟩
    rintro (hmem | ⟨_, hrt, -⟩)
    · cases hmem
    · cases hrt
  have hpeer : HasPeer (nodeRun singleNode es) "r" := ⟨_, rfl, rfl⟩
  exact ⟨hcalm, hpeer, key_names_node_of_peer singleNode hcalm hpeer⟩

def NodeEvent.ofNode : NodeEvent → Bool
  | .join _ | .leave _ _ | .task => true
  | .deliver | .message _ => false

/-- A room can lose its key to an unregistration it has outlived: a peer joins and
leaves, another one joins on the strength of the cache, and then the tasks run. -/
theorem peer_without_key :
    ¬∀ (cfg : RegistryConfig) (R : String) (es : List NodeEvent), (∀ e ∈ es, e.ofNode = true) →
      (nodeRun cfg es).tasks = [] → (nodeRun cfg es).running = none →
        HasPeer (nodeRun cfg es) R → (nodeRun cfg es).keyOf R = some cfg.nodeId := by
  intro h
  have hkey := h singleNode "r"
    (.join { roomId := "r", peerId := "p" } :: .leave "r" "p" ::
      .join { roomId := "r", peerId := "q" } :: List.replicate 21 .task)
    (by simp [NodeEvent.ofNode]) rfl rfl ⟨_, rfl, rfl⟩
  cases hkey

end MediasoupCpp
