import MediasoupCpp.Registry.Footprint

/-!
# Redis commands that fail

A call of the registry sends several commands, and the connection may break at each of them.  A
command that gets no reply has not been sent, or it has been carried out and the reply is lost;
the node cannot tell one from the other.

Main result: `callFated_key_of_ne`.

Source: `src/RoomRegistry.cpp`, `src/RoomRegistryConnection.cpp`.
-/

namespace MediasoupCpp

inductive CommandFate
  | answered
  /-- The connection breaks before Redis has got it. -/
  | unsent
  /-- The connection breaks after Redis has carried it out. -/
  | unanswered
  deriving DecidableEq

def RegistryAct.isCommand : RegistryAct → Bool
  | .evalClaim _ | .getRoom _ | .getNode _ | .delRoom _ | .expireRoom _ | .expireNode _
  | .setNode _ _ | .existsNode _ | .scanNodes | .scanRooms | .mgetNodes _ | .mgetRooms _
  | .publish _ => true
  | _ => false

def disconnect (st : RegistryShared × RegistryLocal) : RegistryShared × RegistryLocal :=
  (st.1, { st.2 with connected := false })

/-- What an action does, given what becomes of it.  A lost reply is answered like a command
without a connection. -/
def execFated (nodeId : String) (fate : CommandFate) (a : RegistryAct)
    (st : RegistryShared × RegistryLocal) : a.Ans × RegistryShared × RegistryLocal :=
  match fate, a with
  | .answered, a => exec nodeId a st
  -- the connection cannot be made again
  | .unsent, .ensureConnected => (st.2.connected, st)
  | .unanswered, .ensureConnected => (st.2.connected, st)
  | .unsent, a => if a.isCommand then exec nodeId a (disconnect st) else exec nodeId a st
  | .unanswered, a =>
    if a.isCommand then ((exec nodeId a (disconnect st)).1, disconnect (exec nodeId a st).2)
    else exec nodeId a st

def handleFated (nodeId : String) (fates : ℕ → CommandFate) (a : RegistryAct)
    (st : (RegistryShared × RegistryLocal) × ℕ) :
    a.Ans × (RegistryShared × RegistryLocal) × ℕ :=
  let out := execFated nodeId (fates st.2) a st.1
  (out.1, out.2, st.2 + 1)

abbrev callFated {α : Type} (nodeId : String) (fates : ℕ → CommandFate) (p : RegistryProg α) :
    (RegistryShared × RegistryLocal) × ℕ → α × (RegistryShared × RegistryLocal) × ℕ :=
  p.runWith (handleFated nodeId fates)

section Faults

variable {α : Type} {i r r' : String} {fates : ℕ → CommandFate} {p : RegistryProg α}

theorem callFated_answered (st : RegistryShared × RegistryLocal) (k : ℕ) :
    (callFated i (fun _ => .answered) p (st, k)).1 = (call i p st).1 ∧
      (callFated i (fun _ => .answered) p (st, k)).2.1 = (call i p st).2 := by
  refine Prog.runWith_sim
    (R := fun (s : (RegistryShared × RegistryLocal) × ℕ) t => s.1 = t) ?_ rfl
  rintro _ ⟨s, _⟩ t rfl
  exact ⟨rfl, rfl⟩

theorem execFated_redis (fate : CommandFate) (a : RegistryAct)
    (st : RegistryShared × RegistryLocal) : (execFated i fate a st).2.1.redis = st.1.redis ∨
      (execFated i fate a st).2.1.redis = (exec i a st).2.1.redis := by
  cases fate with
  | answered => exact .inr rfl
  | unsent =>
    cases a <;> exact .inl rfl
  | unanswered =>
    cases a <;> exact .inr rfl

theorem callFated_key {P : RegistryAct → Prop} (hp : p.Only P) (hkey : ∀ a st, P a →
      (exec i a st).2.1.redis.rooms.lookup r = st.1.redis.rooms.lookup r)
    (st : (RegistryShared × RegistryLocal) × ℕ) :
    (callFated i fates p st).2.1.1.redis.rooms.lookup r = st.1.1.redis.rooms.lookup r := by
  refine hp.runWith_inv (J := fun s : (RegistryShared × RegistryLocal) × ℕ =>
    s.1.1.redis.rooms.lookup r = st.1.1.redis.rooms.lookup r) (fun a s ha hs => ?_) rfl
  change (execFated i (fates s.2) a s.1).2.1.redis.rooms.lookup r = _
  rcases execFated_redis (fates s.2) a s.1 with hsame | hdone
  · rw [hsame, hs]
  · rw [hdone, hkey a s.1 ha, hs]

theorem callFated_key_of_ne (hr : r' ≠ r) (hp : p.Only (About r))
    (st : (RegistryShared × RegistryLocal) × ℕ) :
    (callFated i fates p st).2.1.1.redis.rooms.lookup r' = st.1.1.redis.rooms.lookup r' :=
  callFated_key hp (fun _ s ha => (exec_frame hr ha s).key) st

theorem callFated_resolves (hp : p.Only (Resolves r)) (r' : String)
    (st : (RegistryShared × RegistryLocal) × ℕ) :
    (callFated i fates p st).2.1.1.redis.rooms.lookup r' = st.1.1.redis.rooms.lookup r' := by
  refine callFated_key hp (fun a s ha => ?_) st
  obtain ⟨w, _⟩ := s
  cases a with
  | getRoom | getNode | scanNodes | mgetNodes =>
    exact command_inv (Q := fun st => st.1.redis.rooms.lookup r' = w.redis.rooms.lookup r') _
      rfl rfl
  | evalClaim | delRoom | expireRoom | expireNode | setNode | existsNode | scanRooms | mgetRooms
  | publish | replaceAll | eraseNodeAndOwnedRooms | eraseRoom | otherNodeIds | connected =>
    exact ha.elim
  | _ => rfl

end Faults

end MediasoupCpp
