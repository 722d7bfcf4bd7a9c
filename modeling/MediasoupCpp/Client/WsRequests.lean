import Mathlib.Algebra.Order.Group.Multiset
import Mathlib.Data.Multiset.Range
import MediasoupCpp.Lib.Dict
import MediasoupCpp.Lib.Json
import MediasoupCpp.Lib.Pool
import MediasoupCpp.Lib.Run

/-!
# Asynchronous requests of the client

A call of `requestAsync` puts its completion into a table under a new id and sends the request.
Three parties take completions out of the table and call them: the reader thread when the response
comes, `failAllPendingRequests` when the connection ends (the reader thread does it, and every
`close`), and the call itself when it cannot send.

Main results: `requestAsync_completes_twice`, `requestAsync_completes_once`.

Source: `client/WsClient.cpp`, `client/WsClient.h`.
-/

namespace MediasoupCpp

open List Runs Dict Pool

namespace WsClient

/-! ### The threads -/

structure Reply where
  ok : Bool
  data : Json
  error : String
  deriving DecidableEq

def connectionClosed : Reply := ⟨false, .obj [], "connection closed"⟩

/-- The members the threads share.  `calls` counts the calls of `requestAsync`, `done` has the
requests that are marked so, `completions` what was called so far. -/
structure Shared where
  running : Bool := true
  hasFd : Bool := true
  /-- The handle of the reader thread is joinable. -/
  joinable : Bool := true
  readerEnded : Bool := false
  nextId : ℕ := 1
  pendingRequests : Dict ℕ ℕ := ∅
  done : List ℕ := []
  calls : ℕ := 0
  completions : List (ℕ × Reply) := []

variable (s : Shared)

def Shared.complete (r : ℕ) (reply : Reply) : Shared :=
  { s with completions := s.completions ++ [(r, reply)] }

inductive Recv
  | timeout
  | closed
  | response (id : ℕ) (reply : Reply)
  | other
  deriving DecidableEq

/-- What the socket does in the step of a thread: what is received, and whether a frame that is
sent is taken. -/
structure Socket where
  recv : Recv := .timeout
  sent : Bool := true
  deriving DecidableEq

/-- How far `failAllPendingRequests` is: before it takes the table, before the next request it
has taken, before it calls the completion of the request `r`. -/
inductive FailAll
  | swap
  | next (rest : List ℕ)
  | call (r : ℕ) (rest : List ℕ)
  deriving DecidableEq

def FailAll.step : FailAll → Shared × FailAll
  | .swap => ({ s with pendingRequests := ∅ }, .next s.pendingRequests.values)
  | .next [] => (s, .next [])
  | .next (r :: rest) =>
    if r ∈ s.done then (s, .next rest) else ({ s with done := r :: s.done }, .call r rest)
  | .call r rest => (s.complete r connectionClosed, .next rest)

inductive ReaderPhase
  | loop
  | receive
  | response (id : ℕ) (reply : Reply)
  /-- With the request, that is not in the table any more. -/
  | mark (r : ℕ) (reply : Reply)
  | call (r : ℕ) (reply : Reply)
  | failAll (f : FailAll)
  | ended
  deriving DecidableEq

def ReaderPhase.step (recv : Recv) : ReaderPhase → Shared × ReaderPhase
  | .loop => (s, if s.running then .receive else .failAll .swap)
  | .receive =>
    match recv with
    | .timeout | .other => (s, .loop)
    | .closed => ({ s with running := false }, .failAll .swap)
    | .response id reply => (s, .response id reply)
  | .response id reply =>
    match s.pendingRequests.lookup id with
    | none => (s, .loop)
    | some r => ({ s with pendingRequests := s.pendingRequests.erase id }, .mark r reply)
  | .mark r reply => ({ s with done := r :: s.done }, .call r reply)
  | .call r reply => (s.complete r reply, .loop)
  | .failAll (.next []) => ({ s with readerEnded := true }, .ended)
  | .failAll f => ((f.step s).1, .failAll (f.step s).2)
  | .ended => (s, .ended)

inductive CallPhase
  /-- Before it looks whether the client is running. -/
  | check
  | allocate
  | insert (id : ℕ)
  /-- In `sendText`, before it looks at the socket. -/
  | send (id : ℕ)
  | sending (id : ℕ)
  | erase (id : ℕ)
  /-- The completion is called with `connectionClosed`. -/
  | complete
  | returned (sent : Bool)
  deriving DecidableEq

def CallPhase.step (r : ℕ) (sent : Bool) : CallPhase → Shared × CallPhase
  | .check => (s, if s.running then .allocate else .complete)
  | .allocate => ({ s with nextId := (s.nextId + 1) % 4294967296 }, .insert s.nextId)
  | .insert id => ({ s with pendingRequests := s.pendingRequests.insert id r }, .send id)
  | .send id => (s, if s.hasFd = false ∨ s.running = false then .erase id else .sending id)
  | .sending id =>
    if sent then (s, .returned true)
    -- `abortConnection`
    else ({ s with running := false }, .erase id)
  | .erase id => ({ s with pendingRequests := s.pendingRequests.erase id }, .complete)
  | .complete => (s.complete r connectionClosed, .returned false)
  | .returned sent => (s, .returned sent)

inductive ClosePhase
  /-- Before it stops the client; it may be the reader thread that calls. -/
  | shut (onReader : Bool)
  | join
  | release
  | failAll (f : FailAll)
  deriving DecidableEq

def ClosePhase.step : ClosePhase → Shared × ClosePhase
  | .shut onReader =>
    ({ s with running := false, joinable := false },
      if s.joinable ∧ onReader = false then .join else .release)
  -- the thread waits for the reader thread
  | .join => (s, if s.readerEnded then .release else .join)
  | .release => ({ s with hasFd := false }, .failAll .swap)
  | .failAll f => ((f.step s).1, .failAll (f.step s).2)

inductive Thread
  | reader (ph : ReaderPhase)
  | call (r : ℕ) (ph : CallPhase)
  | close (ph : ClosePhase)
  deriving DecidableEq

def Thread.step : Thread → Socket → Shared × Thread
  | .reader ph, socket => ((ph.step s socket.recv).1, .reader (ph.step s socket.recv).2)
  | .call r ph, socket => ((ph.step s r socket.sent).1, .call r (ph.step s r socket.sent).2)
  | .close ph, _ => ((ph.step s).1, .close (ph.step s).2)

def Thread.Finished : Thread → Prop
  | .reader ph => ph = .ended
  | .call _ ph => ∃ sent, ph = .returned sent
  | .close ph => ph = .failAll (.next [])

instance : DecidablePred Thread.Finished
  | .reader ph => inferInstanceAs (Decidable (ph = .ended))
  | .call _ (.returned sent) => .isTrue ⟨sent, rfl⟩
  | .call _ .check | .call _ .allocate | .call _ (.insert _) | .call _ (.send _)
  | .call _ (.sending _) | .call _ (.erase _) | .call _ .complete => .isFalse nofun
  | .close ph => inferInstanceAs (Decidable (ph = .failAll (.next [])))

end WsClient

abbrev WsClient : Type := Pool WsClient.Shared WsClient.Thread

inductive WsEvent
  | requestAsync
  | close (onReader : Bool)
  | run (i : ℕ) (socket : WsClient.Socket)
  deriving DecidableEq

namespace WsClient

def connected : WsClient := ⟨{}, [.reader .loop]⟩

variable (c : WsClient)

def step : WsEvent → WsClient
  | .requestAsync =>
    ⟨{ c.shared with calls := c.shared.calls + 1 }, c.threads ++ [.call c.shared.calls .check]⟩
  | .close onReader => ⟨c.shared, c.threads ++ [.close (.shut onReader)]⟩
  | .run i socket => c.run Thread.step i socket

def reach (es : List WsEvent) : WsClient := runFrom step connected es

def Finished : Prop := ∀ t ∈ c.threads, t.Finished

instance (c : WsClient) : Decidable c.Finished := inferInstanceAs (Decidable (∀ t ∈ c.threads, _))

def completed (r : ℕ) : ℕ := (c.shared.completions.map Prod.fst).count r

def Shared.TakesOwn (s : Shared) : Option Thread → Prop
  | some (.call _ (.insert id)) => s.pendingRequests.lookup id = none
  | some (.call r (.erase id)) => s.pendingRequests.lookup id = some r
  | _ => True

instance (s : Shared) : DecidablePred s.TakesOwn
  | some (.call _ (.insert id)) => inferInstanceAs (Decidable (s.pendingRequests.lookup id = none))
  | some (.call r (.erase id)) =>
    inferInstanceAs (Decidable (s.pendingRequests.lookup id = some r))
  | none | some (.reader _) | some (.close _) | some (.call _ .check) | some (.call _ .allocate)
  | some (.call _ (.send _)) | some (.call _ (.sending _)) | some (.call _ .complete)
  | some (.call _ (.returned _)) => .isTrue trivial

def TakesOwn : WsEvent → Prop
  | .run i _ => c.shared.TakesOwn c.threads[i]?
  | .requestAsync | .close _ => True

instance (c : WsClient) : DecidablePred c.TakesOwn
  | .run i _ => inferInstanceAs (Decidable (c.shared.TakesOwn c.threads[i]?))
  | .requestAsync | .close _ => .isTrue trivial

/-! ### Who has the completion of a call -/

def FailAll.waiting : FailAll → Multiset ℕ
  | .swap => 0
  | .next rest | .call _ rest => rest

def FailAll.calling : FailAll → Multiset ℕ
  | .swap | .next _ => 0
  | .call r _ => {r}

def Thread.waiting : Thread → Multiset ℕ
  | .reader (.mark r _) => {r}
  | .reader (.failAll f) | .close (.failAll f) => f.waiting
  | .call r .check | .call r .allocate | .call r (.insert _) => {r}
  | _ => 0

def Thread.calling : Thread → Multiset ℕ
  | .reader (.call r _) => {r}
  | .reader (.failAll f) | .close (.failAll f) => f.calling
  | .call r .complete => {r}
  | _ => 0

def Thread.tokens (t : Thread) : Multiset ℕ := t.waiting + t.calling

def Shared.settled (s : Shared) : Multiset ℕ := s.completions.map Prod.fst

def Shared.tokens (s : Shared) : Multiset ℕ := s.pendingRequests.values + s.settled

def tokens : Multiset ℕ := c.total Shared.tokens Thread.tokens

def settled : Multiset ℕ := c.total Shared.settled Thread.calling

section Step

variable {s : Shared}

@[simp] theorem settled_complete (s : Shared) (r : ℕ) (reply : Reply) :
    (s.complete r reply).settled = s.settled + {r} := by
  simp only [Shared.complete, Shared.settled, map_append, map_cons, map_nil,
    ← Multiset.coe_add, Multiset.coe_singleton]

@[simp] theorem tokens_complete (s : Shared) (r : ℕ) (reply : Reply) :
    (s.complete r reply).tokens = s.tokens + {r} := by
  rw [Shared.tokens, settled_complete, ← add_assoc]
  rfl

variable {id r : ℕ}

theorem tokens_erase (h : s.pendingRequests.lookup id = some r) :
    { s with pendingRequests := s.pendingRequests.erase id }.tokens + {r} = s.tokens := by
  have hvals : (s.pendingRequests.values : Multiset ℕ) =
      r ::ₘ (Dict.values (s.pendingRequests.erase id) : Multiset ℕ) :=
    Multiset.coe_eq_coe.mpr (values_perm_erase h)
  rw [Shared.tokens, Shared.tokens, hvals, Multiset.cons_add, ← Multiset.singleton_add,
    add_comm ({r} : Multiset ℕ)]
  rfl

theorem tokens_insert (h : s.pendingRequests.lookup id = none) (r : ℕ) :
    { s with pendingRequests := s.pendingRequests.insert id r }.tokens = s.tokens + {r} := by
  rw [Shared.tokens, values_insert_of_lookup h, ← Multiset.cons_coe, Multiset.cons_add,
    ← Multiset.singleton_add, add_comm ({r} : Multiset ℕ)]
  rfl

variable (f : FailAll)

theorem FailAll.tokens_step (hfr : ∀ r ∈ f.waiting, r ∉ s.done) :
    (f.step s).1.tokens + ((f.step s).2.waiting + (f.step s).2.calling) =
      s.tokens + (f.waiting + f.calling) := by
  match f with
  | .swap =>
    -- the table is empty now, and the thread has what was in it
    change (0 + s.settled) + (↑s.pendingRequests.values + 0) = s.tokens + (0 + 0)
    rw [Shared.tokens, zero_add, add_zero, add_zero, add_zero, add_comm]
  | .next [] => rfl
  | .next (r :: rest) =>
    have hr : r ∉ s.done := hfr r (by simp [waiting])
    rw [step, if_neg hr]
    change s.tokens + (↑rest + {r}) = s.tokens + (↑(r :: rest) + 0)
    rw [add_zero, ← Multiset.cons_coe, ← Multiset.singleton_add, add_comm ({r} : Multiset ℕ)]
  | .call r rest =>
    change (s.complete r connectionClosed).tokens + (↑rest + 0) = s.tokens + (↑rest + {r})
    rw [tokens_complete, add_zero, add_right_comm, add_assoc]

variable (ph : ReaderPhase) (recv : Recv)

theorem ReaderPhase.tokens_step (hfr : ∀ r ∈ (Thread.reader ph).waiting, r ∉ s.done) :
    (ph.step s recv).1.tokens + (Thread.reader (ph.step s recv).2).tokens =
      s.tokens + (Thread.reader ph).tokens := by
  match ph with
  | .loop =>
    rw [step]
    cases s.running <;> rfl
  | .receive => cases recv <;> rfl
  | .response id reply =>
    rw [step]
    cases hlook : s.pendingRequests.lookup id with
    | none => rfl
    | some r => simpa [Thread.tokens, Thread.waiting, Thread.calling] using tokens_erase hlook
  | .mark r reply => rfl
  | .call r reply => simp [step, Thread.tokens, Thread.waiting, Thread.calling]
  | .failAll (.next []) => rfl
  | .failAll .swap => exact FailAll.tokens_step .swap hfr
  | .failAll (.next (r :: rest)) => exact FailAll.tokens_step (.next (r :: rest)) hfr
  | .failAll (.call r rest) => exact FailAll.tokens_step (.call r rest) hfr
  | .ended => rfl

theorem CallPhase.tokens_step (r : ℕ) (ph : CallPhase) (sent : Bool)
    (hown : s.TakesOwn (some (.call r ph))) :
    (ph.step s r sent).1.tokens + (Thread.call r (ph.step s r sent).2).tokens =
      s.tokens + (Thread.call r ph).tokens := by
  match ph with
  | .check =>
    rw [step]
    cases s.running
    · simp [Thread.tokens, Thread.waiting, Thread.calling]
    · rfl
  | .allocate => rfl
  | .insert id =>
    simpa [step, Thread.tokens, Thread.waiting, Thread.calling] using tokens_insert hown r
  | .send id =>
    rw [step]
    split <;> rfl
  | .sending id =>
    cases sent <;> rfl
  | .erase id => simpa [step, Thread.tokens, Thread.waiting, Thread.calling] using tokens_erase hown
  | .complete => simp [step, Thread.tokens, Thread.waiting, Thread.calling]
  | .returned sent => rfl

theorem ClosePhase.tokens_step (ph : ClosePhase)
    (hfr : ∀ r ∈ (Thread.close ph).waiting, r ∉ s.done) :
    (ph.step s).1.tokens + (Thread.close (ph.step s).2).tokens =
      s.tokens + (Thread.close ph).tokens := by
  match ph with
  | .shut onReader | .join =>
    rw [step]
    split <;> rfl
  | .release => rfl
  | .failAll f => exact FailAll.tokens_step f hfr

theorem Thread.tokens_step (t : Thread) (x : Socket) (hfr : ∀ r ∈ t.waiting, r ∉ s.done)
    (hown : s.TakesOwn (some t)) :
    (t.step s x).1.tokens + (t.step s x).2.tokens = s.tokens + t.tokens := by
  match t with
  | .reader ph => exact ph.tokens_step x.recv hfr
  | .call r ph => exact ph.tokens_step r x.sent hown
  | .close ph => exact ph.tokens_step hfr

theorem FailAll.settled_step : s.settled + f.calling ≤ (f.step s).1.settled + (f.step s).2.calling ∧
      ∀ r ∈ (f.step s).1.done, r ∈ s.done ∨ r ∈ (f.step s).2.calling := by
  match f with
  | .swap | .next [] => exact ⟨le_rfl, fun r => .inl⟩
  | .next (r :: rest) =>
    rw [step]
    split
    · exact ⟨le_rfl, fun r => .inl⟩
    · refine ⟨(add_zero _).trans_le (Multiset.le_add_right _ _), fun r' hr' => ?_⟩
      exact (mem_cons.mp hr').symm.imp_right fun h => Multiset.mem_singleton.mpr h
  | .call r rest =>
    refine ⟨le_of_eq ?_, fun r => .inl⟩
    simp [step, calling]

theorem Thread.settled_step (t : Thread) (x : Socket) :
    s.settled + t.calling ≤ (t.step s x).1.settled + (t.step s x).2.calling ∧
      ∀ r ∈ (t.step s x).1.done, r ∈ s.done ∨ r ∈ (t.step s x).2.calling := by
  have hsame : s.settled + 0 ≤ s.settled + 0 ∧ ∀ r ∈ s.done, r ∈ s.done ∨ r ∈ (0 : Multiset ℕ) :=
    ⟨le_rfl, fun r => .inl⟩
  match t with
  | .reader .loop =>
    simp only [step, ReaderPhase.step]
    cases s.running <;> exact hsame
  | .reader .receive =>
    simp only [step, ReaderPhase.step]
    cases x.recv <;> exact hsame
  | .reader (.response id reply) =>
    simp only [step, ReaderPhase.step]
    cases s.pendingRequests.lookup id <;> exact hsame
  | .reader (.mark r reply) =>
    refine ⟨(add_zero _).trans_le (Multiset.le_add_right _ _), fun r' hr' => ?_⟩
    exact (mem_cons.mp hr').symm.imp_right fun h => Multiset.mem_singleton.mpr h
  | .reader (.call r reply) => exact ⟨by simp [step, ReaderPhase.step, calling], fun r => .inl⟩
  | .reader (.failAll (.next [])) => exact hsame
  | .reader (.failAll .swap) => exact FailAll.settled_step .swap
  | .reader (.failAll (.next (r :: rest))) => exact FailAll.settled_step (.next (r :: rest))
  | .reader (.failAll (.call r rest)) => exact FailAll.settled_step (.call r rest)
  | .reader .ended => exact hsame
  | .call r .check =>
    simp only [step, CallPhase.step]
    cases s.running
    · exact ⟨(add_zero _).trans_le (Multiset.le_add_right _ _), fun r => .inl⟩
    · exact hsame
  | .call r .allocate => exact hsame
  | .call r (.insert id) => exact hsame
  | .call r (.send id) =>
    simp only [step, CallPhase.step]
    split <;> exact hsame
  | .call r (.sending id) =>
    simp only [step, CallPhase.step]
    cases x.sent <;> exact hsame
  | .call r (.erase id) => exact ⟨(add_zero _).trans_le (Multiset.le_add_right _ _), fun r => .inl⟩
  | .call r .complete => exact ⟨by simp [step, CallPhase.step, calling], fun r => .inl⟩
  | .call r (.returned sent) => exact hsame
  | .close (.shut onReader) | .close .join =>
    simp only [step, ClosePhase.step]
    split <;> exact hsame
  | .close .release => exact hsame
  | .close (.failAll f) => exact FailAll.settled_step f

theorem FailAll.members_step : (f.step s).1.calls = s.calls ∧ (f.step s).1.running = s.running ∧
      (f.step s).1.readerEnded = s.readerEnded := by
  fun_cases FailAll.step s f <;> exact ⟨rfl, rfl, rfl⟩

theorem Thread.members_step (t : Thread) (x : Socket) : (t.step s x).1.calls = s.calls ∧
      (s.running = false → (t.step s x).1.running = false) := by
  have hfailAll : ∀ f : FailAll, (f.step s).1.calls = s.calls ∧
      (s.running = false → (f.step s).1.running = false) := fun f =>
    ⟨f.members_step.1, fun h => f.members_step.2.1.trans h⟩
  match t with
  | .reader ph =>
    rw [Thread.step]
    fun_cases ReaderPhase.step s x.recv ph
    case case11 => exact hfailAll _
    all_goals first | exact ⟨rfl, id⟩ | exact ⟨rfl, fun _ => rfl⟩
  | .call r ph =>
    rw [Thread.step]
    fun_cases CallPhase.step s r x.sent ph
    all_goals first | exact ⟨rfl, id⟩ | exact ⟨rfl, fun _ => rfl⟩
  | .close ph =>
    fun_cases ClosePhase.step s ph
    case case4 => exact hfailAll _
    all_goals first | exact ⟨rfl, id⟩ | exact ⟨rfl, fun _ => rfl⟩

theorem FailAll.lookup_step (h : (f.step s).1.pendingRequests.lookup id = some r) :
    s.pendingRequests.lookup id = some r := by
  match f with
  | .swap => cases h
  | .next [] => exact h
  | .next (r' :: rest) =>
    rw [step] at h
    split at h <;> exact h
  | .call r' rest => exact h

def ReaderPhase.Swapped : ReaderPhase → Prop
  | .failAll (.next _) | .failAll (.call _ _) | .ended => True
  | _ => False

def ReaderPhase.Ending : ReaderPhase → Prop
  | .failAll _ | .ended => True
  | _ => False

theorem ReaderPhase.Swapped.ending {ph : ReaderPhase} (h : ph.Swapped) : ph.Ending := by
  match ph with
  | .failAll _ | .ended => trivial

theorem ReaderPhase.lookup_step (h : (ph.step s recv).1.pendingRequests.lookup id = some r) :
    s.pendingRequests.lookup id = some r := by
  match ph with
  | .loop | .mark _ _ | .call _ _ | .failAll (.next []) | .ended => exact h
  | .receive => cases recv <;> exact h
  | .response id' reply =>
    rw [step] at h
    cases hlook : s.pendingRequests.lookup id' with
    | none => rwa [hlook] at h
    | some r' =>
      rw [hlook] at h
      have herase := (lookup_erase_eq _ _ _).symm.trans h
      split at herase
      · cases herase
      · exact herase
  | .failAll .swap => exact FailAll.lookup_step .swap h
  | .failAll (.next (r' :: rest)) => exact FailAll.lookup_step (.next (r' :: rest)) h
  | .failAll (.call r' rest) => exact FailAll.lookup_step (.call r' rest) h

theorem ClosePhase.lookup_step (ph : ClosePhase)
    (h : (ph.step s).1.pendingRequests.lookup id = some r) :
    s.pendingRequests.lookup id = some r := by
  match ph with
  | .shut _ | .join | .release => exact h
  | .failAll f => exact f.lookup_step h

theorem ReaderPhase.swapped_step (hph : ¬ph.Swapped) :
    ¬(ph.step s recv).2.Swapped ∨ (ph.step s recv).1.pendingRequests = ∅ := by
  match ph with
  | .loop =>
    rw [step]
    cases s.running <;> exact .inl id
  | .receive => cases recv <;> exact .inl id
  | .response id' reply =>
    rw [step]
    cases s.pendingRequests.lookup id' <;> exact .inl id
  | .mark _ _ | .call _ _ => exact .inl id
  | .failAll .swap => exact .inr rfl
  | .failAll (.next _) | .failAll (.call _ _) | .ended => exact absurd trivial hph

theorem ReaderPhase.ending_step (hrun : ph.Ending → s.running = false)
    (h : (ph.step s recv).2.Ending) : (ph.step s recv).1.running = false := by
  match ph with
  | .loop =>
    rw [step] at h ⊢
    cases hs : s.running with
    | false => rfl
    | true => rw [hs] at h; exact h.elim
  | .receive =>
    cases recv with
    | closed => rfl
    | timeout | response _ _ | other => exact h.elim
  | .response id' reply =>
    rw [step] at h
    split at h <;> exact h.elim
  | .mark _ _ | .call _ _ => exact h.elim
  | .failAll f => exact (Thread.members_step (.reader (.failAll f)) ⟨recv, true⟩).2 (hrun trivial)
  | .ended => exact hrun trivial

theorem ReaderPhase.ended_step (hph : ph ≠ .ended) (h : (ph.step s recv).1.readerEnded = false) :
    (ph.step s recv).2 ≠ .ended := by
  match ph with
  | .loop =>
    rw [step]
    cases s.running <;> nofun
  | .receive => cases recv <;> nofun
  | .response id' reply =>
    rw [step]
    split <;> nofun
  | .mark _ _ | .call _ _ => nofun
  | .failAll (.next []) => cases h
  | .failAll .swap | .failAll (.next (_ :: _)) | .failAll (.call _ _) => nofun
  | .ended => exact absurd rfl hph

end Step

/-! ### The reader thread -/

/-- **The reader thread is there**, it leaves its loop only when the client has stopped, and it
says when it has returned. -/
structure Reading (c : WsClient) : Prop where
  reader : ∃ ph, Thread.reader ph ∈ c.threads
  ending : ∀ ph, Thread.reader ph ∈ c.threads → ph.Ending → c.shared.running = false
  ended : c.shared.readerEnded = false → ∃ ph, ph ≠ .ended ∧ Thread.reader ph ∈ c.threads

theorem reading_connected : Reading connected where
  reader := ⟨.loop, mem_singleton_self _⟩
  ending := by
    intro ph hph hend
    cases mem_singleton.mp hph
    exact hend.elim
  ended _ := ⟨.loop, nofun, mem_singleton_self _⟩

variable {i id r : ℕ} {c : WsClient} {t : Thread}

theorem Reading.spawn (h : Reading c) (s : Shared) (t : Thread)
    (hrun : s.running = c.shared.running) (hended : s.readerEnded = c.shared.readerEnded)
    (ht : ∀ ph, t ≠ .reader ph) : Reading ⟨s, c.threads ++ [t]⟩ where
  reader := h.reader.imp fun _ => mem_append_left _
  ending := by
    intro ph hph hend
    rcases mem_append.mp hph with hold | hnew
    · exact hrun.trans (h.ending ph hold hend)
    · exact absurd (mem_singleton.mp hnew).symm (ht ph)
  ended := by
    intro hs
    obtain ⟨ph, hne, hmem⟩ := h.ended (hended.symm.trans hs)
    exact ⟨ph, hne, mem_append_left _ hmem⟩

theorem Reading.run_of_ne (h : Reading c)
    (ht : c.threads[i]? = some t) (x : Socket) (hne : ∀ ph, t ≠ .reader ph)
    (hne' : ∀ ph, (t.step c.shared x).2 ≠ .reader ph)
    (hended : (t.step c.shared x).1.readerEnded = c.shared.readerEnded) :
    Reading (c.run Thread.step i x) where
  reader := h.reader.imp fun ph hph => Pool.mem_run_of_ne ht (hne ph).symm hph
  ending := by
    intro ph hph hend
    rcases mem_of_mem_run ht hph with heq | hold
    · exact absurd heq.symm (hne' ph)
    · rw [run_eq ht]
      exact (t.members_step x).2 (h.ending ph hold hend)
  ended := by
    intro hs
    rw [run_eq ht] at hs
    obtain ⟨ph, hph, hmem⟩ := h.ended (hended.symm.trans hs)
    exact ⟨ph, hph, mem_run_of_ne ht (hne ph).symm hmem⟩

theorem Reading.run_reader (h : Reading c) {ph : ReaderPhase}
    (ht : c.threads[i]? = some (.reader ph)) (x : Socket) : Reading (c.run Thread.step i x) where
  reader := ⟨_, Pool.mem_run ht⟩
  ending := by
    intro ph' hph' hend
    rw [run_eq ht]
    rcases mem_of_mem_run ht hph' with heq | hold
    · cases heq
      exact ph.ending_step x.recv (h.ending ph (mem_of_getElem? ht)) hend
    · exact (Thread.members_step (.reader ph) x).2 (h.ending ph' hold hend)
  ended := by
    intro hs
    rw [run_eq ht] at hs
    by_cases hph : ph = .ended
    · -- it has returned already, and does nothing
      subst hph
      obtain ⟨ph', hph', hmem⟩ := h.ended hs
      exact ⟨ph', hph', mem_run_of_ne ht (fun heq => hph' (Thread.reader.inj heq)) hmem⟩
    · exact ⟨_, ph.ended_step x.recv hph hs, mem_run ht⟩

theorem Reading.step (h : Reading c) (e : WsEvent) : Reading (c.step e) := by
  cases e with
  | requestAsync | close => exact h.spawn _ _ rfl rfl fun ph heq => by cases heq
  | run i x =>
    cases ht : c.threads[i]? with
    | none =>
      rw [WsClient.step, run, ht]
      exact h
    | some t =>
      cases t with
      | reader ph => exact h.run_reader ht x
      | call r ph =>
        refine h.run_of_ne ht x (fun ph heq => by cases heq) (fun ph heq => by cases heq) ?_
        rw [Thread.step]
        fun_cases CallPhase.step c.shared r x.sent ph <;> rfl
      | close ph =>
        refine h.run_of_ne ht x (fun ph heq => by cases heq) (fun ph heq => by cases heq) ?_
        cases ph with
        | failAll f => exact f.members_step.2.2
        | shut _ | join | release => rfl

def Claimed (c : WsClient) (id r : ℕ) : Prop :=
  .call r (.send id) ∈ c.threads ∨ .call r (.erase id) ∈ c.threads ∨
    ∃ ph, ¬ph.Swapped ∧ .reader ph ∈ c.threads

theorem Claimed.run_of_ne (h : Claimed c id r)
    (ht : c.threads[i]? = some t) (x : Socket) (hsend : .call r (.send id) ≠ t)
    (herase : .call r (.erase id) ≠ t) (hreader : ∀ ph, .reader ph ≠ t) :
    Claimed (c.run Thread.step i x) id r :=
  h.imp (mem_run_of_ne ht hsend)
    (Or.imp (mem_run_of_ne ht herase)
      (Exists.imp fun ph => And.imp_right (mem_run_of_ne ht (hreader ph))))

theorem Claimed.run_reader (h : Claimed c id r)
    {ph : ReaderPhase} (ht : c.threads[i]? = some (.reader ph)) (x : Socket)
    (hne : (ph.step c.shared x.recv).1.pendingRequests ≠ ∅) :
    Claimed (c.run Thread.step i x) id r := by
  obtain hsend | herase | ⟨ph', hph', hmem⟩ := h
  · exact .inl (mem_run_of_ne ht nofun hsend)
  · exact .inr (.inl (mem_run_of_ne ht nofun herase))
  refine .inr (.inr ?_)
  by_cases heq : ph' = ph
  · subst heq
    exact ⟨_, (ph'.swapped_step x.recv hph').resolve_right hne, mem_run ht⟩
  · exact ⟨ph', hph', mem_run_of_ne ht (fun h => heq (Thread.reader.inj h)) hmem⟩

theorem Reading.claimed (h : Reading c) (hrun : c.shared.running)
    (id r : ℕ) : Claimed c id r := by
  obtain ⟨ph, hph⟩ := h.reader
  refine .inr (.inr ⟨ph, fun hswapped => ?_, hph⟩)
  rw [h.ending ph hph hswapped.ending] at hrun
  cases hrun

/-! ### No completion is lost or doubled -/

/-- **Every call has one completion**: in the table, with a thread, or called.  A request that
is marked is settled, and what is in the table is going to be taken out. -/
structure Inv (c : WsClient) : Prop extends Reading c where
  tokens_eq : c.tokens = Multiset.range c.shared.calls
  done : ∀ r ∈ c.shared.done, r ∈ c.settled
  table : ∀ id r, c.shared.pendingRequests.lookup id = some r → Claimed c id r

theorem inv_connected : Inv connected where
  toReading := reading_connected
  tokens_eq := rfl
  done := nofun
  table := nofun

theorem tokens_eq_add (c : WsClient) :
    c.tokens = c.total (fun s => (s.pendingRequests.values : Multiset ℕ)) Thread.waiting
      + c.settled :=
  total_add _ _ _ _ c

section

variable (h : Inv c)
include h

theorem Inv.notMem_done (ht : t ∈ c.threads)
    (hr : r ∈ t.waiting) : r ∉ c.shared.done := by
  intro hdone
  have hnd : c.tokens.Nodup := h.tokens_eq ▸ Multiset.nodup_range _
  rw [tokens_eq_add, Multiset.nodup_add] at hnd
  exact Multiset.disjoint_left.mp hnd.2.2 (mem_total.mpr (.inr ⟨t, ht, hr⟩))
    (h.done r hdone)

theorem Inv.table_call {r₀ : ℕ} {ph : CallPhase}
    (ht : c.threads[i]? = some (.call r₀ ph)) (x : Socket)
    (hlook : (ph.step c.shared r₀ x.sent).1.pendingRequests.lookup id = some r) :
    Claimed (c.run Thread.step i x) id r := by
  have hstepped : .call r₀ (ph.step c.shared r₀ x.sent).2 ∈ (c.run Thread.step i x).threads :=
    mem_run ht
  cases ph with
  | check | allocate | complete | returned _ =>
    exact (h.table id r hlook).run_of_ne ht x nofun nofun nofun
  | insert id₀ =>
    have hins := (lookup_insert_eq _ _ _ _).symm.trans hlook
    split at hins
    · -- its own entry, which it may still take out itself
      rename_i hid
      cases hins
      cases hid
      exact .inl hstepped
    · exact (h.table id r hins).run_of_ne ht x nofun nofun nofun
  | send id₀ =>
    cases hrun : c.shared.running with
    | true =>
      have hrun' : (c.run Thread.step i x).shared.running := by
        rw [run_eq ht]
        exact hrun
      exact (h.toReading.step (.run i x)).claimed hrun' id r
    | false =>
      by_cases heq : Thread.call r (.send id) = .call r₀ (.send id₀)
      · -- it is not going to send
        cases heq
        rw [CallPhase.step, if_pos (.inr hrun)] at hstepped
        exact .inr (.inl hstepped)
      · exact (h.table id r hlook).run_of_ne ht x heq nofun nofun
  | sending id₀ =>
    have hold : c.shared.pendingRequests.lookup id = some r := by
      revert hlook
      cases x.sent <;> exact fun h => h
    exact (h.table id r hold).run_of_ne ht x nofun nofun nofun
  | erase id₀ =>
    have herase := (lookup_erase_eq _ _ _).symm.trans hlook
    split at herase
    · cases herase
    rename_i hid
    refine (h.table id r herase).run_of_ne ht x nofun (fun heq => hid ?_) nofun
    cases heq
    rfl

theorem Inv.table_run (ht : c.threads[i]? = some t) (x : Socket)
    (hlook : (t.step c.shared x).1.pendingRequests.lookup id = some r) :
    Claimed (c.run Thread.step i x) id r := by
  match t with
  | .reader ph =>
    refine (h.table id r (ph.lookup_step x.recv hlook)).run_reader ht x fun hemp => ?_
    rw [show (Thread.step c.shared (.reader ph) x).1.pendingRequests = ∅ from hemp] at hlook
    cases hlook
  | .call r₀ ph => exact h.table_call ht x hlook
  | .close ph => exact (h.table id r (ph.lookup_step hlook)).run_of_ne ht x nofun nofun nofun

theorem Inv.run (ht : c.threads[i]? = some t)
    (x : Socket) (hown : c.shared.TakesOwn (some t)) : Inv (c.run Thread.step i x) where
  toReading := h.toReading.step (.run i x)
  tokens_eq := by
    have hstep := t.tokens_step x (fun r => h.notMem_done (mem_of_getElem? ht)) hown
    have hcall : (c.run Thread.step i x).shared.calls = c.shared.calls := by
      rw [run_eq ht]
      exact (t.members_step x).1
    rw [tokens, total_run ht hstep, hcall]
    exact h.tokens_eq
  done := by
    intro r hr
    obtain ⟨hle, hmarked⟩ := t.settled_step (s := c.shared) x
    rw [run_eq ht] at hr
    rcases hmarked r hr with hold | hnew
    · exact Multiset.mem_of_le (total_le_run ht hle) (h.done r hold)
    · exact mem_total.mpr (.inr ⟨_, mem_run ht, hnew⟩)
  table := by
    intro id r hlook
    rw [run_eq ht] at hlook
    exact h.table_run ht x hlook

theorem Inv.spawn (t : Thread) (n : ℕ)
    (htok : t.tokens + Multiset.range c.shared.calls = Multiset.range n)
    (ht : ∀ ph, t ≠ .reader ph) : Inv ⟨{ c.shared with calls := n }, c.threads ++ [t]⟩ where
  toReading := h.toReading.spawn _ t rfl rfl ht
  tokens_eq := by
    rw [← htok, ← h.tokens_eq, add_comm]
    exact total_spawn _ _ _ t
  done := by
    intro r hr
    refine Multiset.mem_of_le ?_ (h.done r hr)
    exact (Multiset.le_add_right _ _).trans_eq (total_spawn _ _ _ t).symm
  table := by
    intro id r hlook
    exact (h.table id r hlook).imp (mem_append_left _)
      (Or.imp (mem_append_left _) (Exists.imp fun _ => And.imp_right (mem_append_left _)))

theorem Inv.step (e : WsEvent) (hown : c.TakesOwn e) : Inv (c.step e) := by
  match e with
  | .requestAsync =>
    refine h.spawn _ _ ?_ nofun
    rw [Multiset.range_succ, ← Multiset.singleton_add]
    rfl
  | .close onReader => exact h.spawn _ _ (zero_add _) nofun
  | .run i x =>
    match ht : c.threads[i]? with
    | none =>
      rw [WsClient.step, Pool.run, ht]
      exact h
    | some t =>
      refine h.run ht x ?_
      rw [← ht]
      exact hown

end

theorem inv_reach {es : List WsEvent} (h : StepsMeet step TakesOwn connected es) : Inv (reach es) :=
  h.inv Inv (fun _ e hinv hown => hinv.step e hown) es connected inv_connected

/-! ### The threads get to their end -/

def FailAll.work : FailAll → ℕ
  | .swap => 1
  | .next rest => 2 * rest.length
  | .call _ rest => 2 * rest.length + 1

def Thread.work : Thread → ℕ
  | .reader .loop => 3
  | .reader .receive => 7
  | .reader (.response _ _) => 6
  | .reader (.mark _ _) => 5
  | .reader (.call _ _) => 4
  | .reader (.failAll f) => f.work + 1
  | .reader .ended => 0
  | .call _ .check => 10
  | .call _ .allocate => 9
  | .call _ (.insert _) => 8
  | .call _ (.send _) => 4
  | .call _ (.sending _) => 3
  | .call _ (.erase _) => 2
  | .call _ .complete => 1
  | .call _ (.returned _) => 0
  | .close (.shut _) => 4
  | .close .join => 3
  | .close .release => 2
  | .close (.failAll f) => f.work

variable (s : Shared)

def Shared.work : ℕ := 3 * s.pendingRequests.values.length

def work (c : WsClient) : ℕ := c.total Shared.work Thread.work

def Thread.Ready (t : Thread) : Prop :=
  ¬t.Finished ∧ (t = .close .join → s.readerEnded = true)

theorem FailAll.work_step (f : FailAll) (hf : f ≠ .next []) :
    (f.step s).1.work + (f.step s).2.work < s.work + f.work := by
  match f with
  | .swap =>
    change 3 * 0 + 2 * s.pendingRequests.values.length < 3 * s.pendingRequests.values.length + 1
    omega
  | .next [] => exact absurd rfl hf
  | .next (r :: rest) =>
    have hlen : (r :: rest).length = rest.length + 1 := rfl
    rw [step]
    split
    · change s.work + 2 * rest.length < s.work + 2 * (r :: rest).length
      omega
    · change s.work + (2 * rest.length + 1) < s.work + 2 * (r :: rest).length
      omega
  | .call r rest =>
    change s.work + 2 * rest.length < s.work + (2 * rest.length + 1)
    omega

theorem work_erase_le (id : ℕ) :
    { s with pendingRequests := s.pendingRequests.erase id }.work ≤ s.work := by
  have hlen : (Dict.values (s.pendingRequests.erase id)).length
      ≤ s.pendingRequests.values.length := by
    rw [Dict.values, Dict.values, length_map, length_map]
    exact (kerase_sublist id s.pendingRequests.entries).length_le
  exact Nat.mul_le_mul_left 3 hlen

theorem work_insert_le (id r : ℕ) :
    { s with pendingRequests := s.pendingRequests.insert id r }.work ≤ s.work + 3 := by
  have hlen : (Dict.values (s.pendingRequests.insert id r)).length
      ≤ s.pendingRequests.values.length + 1 := by
    rw [Dict.values, Dict.values, length_map, length_map]
    exact Nat.succ_le_succ (kerase_sublist id s.pendingRequests.entries).length_le
  have := Nat.mul_le_mul_left 3 hlen
  exact this

theorem Thread.work_step {s : Shared} (t : Thread) (x : Socket) (hrun : s.running = false)
    (ht : t.Ready s) : (t.step s x).1.work + (t.step s x).2.work < s.work + t.work := by
  obtain ⟨hfin, hrdy⟩ := ht
  have less {m n : ℕ} (h : m < n) : s.work + m < s.work + n := Nat.add_lt_add_left h _
  match t with
  | .reader .loop =>
    rw [step, ReaderPhase.step, hrun]
    exact less (show 2 < 3 by decide)
  | .reader .receive =>
    rw [step]
    match x.recv with
    | .timeout | .other => exact less (show 3 < 7 by decide)
    | .closed => exact less (show 2 < 7 by decide)
    | .response _ _ => exact less (show 6 < 7 by decide)
  | .reader (.response id reply) =>
    rw [step, ReaderPhase.step]
    match s.pendingRequests.lookup id with
    | none => exact less (show 3 < 6 by decide)
    | some r => exact Nat.add_lt_add_of_le_of_lt (work_erase_le s id) (show 5 < 6 by decide)
  | .reader (.mark r reply) => exact less (show 4 < 5 by decide)
  | .reader (.call r reply) => exact less (show 3 < 4 by decide)
  | .reader (.failAll (.next [])) => exact less (show 0 < 1 by decide)
  | .reader (.failAll .swap) => exact Nat.succ_lt_succ (FailAll.work_step s .swap nofun)
  | .reader (.failAll (.next (r :: rest))) =>
    exact Nat.succ_lt_succ (FailAll.work_step s (.next (r :: rest)) nofun)
  | .reader (.failAll (.call r rest)) =>
    exact Nat.succ_lt_succ (FailAll.work_step s (.call r rest) nofun)
  | .reader .ended => exact absurd rfl hfin
  | .call r .check =>
    rw [step, CallPhase.step, hrun]
    exact less (show 1 < 10 by decide)
  | .call r .allocate => exact less (show 8 < 9 by decide)
  | .call r (.insert id) =>
    calc _ ≤ s.work + 3 + 4 := Nat.add_le_add_right (work_insert_le s id r) 4
      _ < s.work + 8 := by omega
  | .call r (.send id) =>
    rw [step, CallPhase.step, if_pos (.inr hrun)]
    exact less (show 2 < 4 by decide)
  | .call r (.sending id) =>
    rw [step, CallPhase.step]
    match x.sent with
    | true => exact less (show 0 < 3 by decide)
    | false => exact less (show 2 < 3 by decide)
  | .call r (.erase id) =>
    exact Nat.add_lt_add_of_le_of_lt (work_erase_le s id) (show 1 < 2 by decide)
  | .call r .complete => exact less (show 0 < 1 by decide)
  | .call r (.returned sent) => exact absurd ⟨sent, rfl⟩ hfin
  | .close (.shut onReader) =>
    rw [step, ClosePhase.step]
    split
    · exact less (show 3 < 4 by decide)
    · exact less (show 2 < 4 by decide)
  | .close .join =>
    rw [step, ClosePhase.step, hrdy rfl]
    exact less (show 2 < 3 by decide)
  | .close .release => exact less (show 1 < 2 by decide)
  | .close (.failAll f) => exact f.work_step s fun hf => hfin (hf ▸ rfl)

theorem Reading.exists_ready (h : Reading c)
    (hunf : ¬c.Finished) : ∃ t ∈ c.threads, t.Ready c.shared := by
  obtain ⟨t, ht, hfin⟩ : ∃ t ∈ c.threads, ¬t.Finished := by
    unfold Finished at hunf
    push Not at hunf
    exact hunf
  by_cases hwait : t = .close .join ∧ c.shared.readerEnded = false
  · -- it waits for the reader thread, which has not returned
    obtain ⟨ph, hph, hmem⟩ := h.ended hwait.2
    exact ⟨.reader ph, hmem, hph, nofun⟩
  · refine ⟨t, ht, hfin, fun heq => ?_⟩
    exact Bool.eq_true_of_not_eq_false fun hended => hwait ⟨heq, hended⟩

theorem exists_finished (h : Reading c) (hrun : c.shared.running = false) :
    ∃ es, (∀ e ∈ es, ∃ i x, e = WsEvent.run i x) ∧ Finished (runFrom step c es) := by
  refine (exists_runFrom_of_lt (fun c => Reading c ∧ c.shared.running = false) work ?_ c
    ⟨h, hrun⟩).imp fun es => And.imp_left StepsMeet.forall_mem
  rintro c ⟨hread, hstop⟩ hunf
  obtain ⟨t, ht, hrdy⟩ := hread.exists_ready hunf
  obtain ⟨i, hi⟩ := mem_iff_getElem?.mp ht
  refine ⟨.run i {}, ⟨i, _, rfl⟩, ⟨hread.step _, ?_⟩, ?_⟩
  · rw [step, run_eq hi]
    exact (t.members_step _).2 hstop
  obtain ⟨m, hbef, haft⟩ := exists_frame Shared.work Thread.work hi
  rw [work, work, hbef, step, haft]
  exact Nat.add_lt_add_right (t.work_step _ hstop hrdy) m

end WsClient

/-! ### Completions -/

open WsClient

structure CompletesOnce (c : WsClient) : Prop where
  atMostOnce : ∀ r, c.completed r ≤ 1
  /-- A completion that was not called yet is in the table or with a thread. -/
  notLost : ∀ r < c.shared.calls, c.completed r = 1 ∨
    (∃ id, c.shared.pendingRequests.lookup id = some r) ∨ ∃ t ∈ c.threads, r ∈ t.tokens
  /-- When all threads have returned, there is none left. -/
  atEnd : c.Finished → ∀ r < c.shared.calls, c.completed r = 1

theorem WsClient.Thread.Finished.tokens_eq {t : Thread} (h : t.Finished) : t.tokens = 0 := by
  match t with
  | .reader ph => cases h; rfl
  | .call r ph => obtain ⟨_, rfl⟩ := h; rfl
  | .close ph => cases h; rfl

theorem WsClient.Inv.lookup_of_finished {c : WsClient} (h : Inv c) (hfin : c.Finished)
    {id r : ℕ} : c.shared.pendingRequests.lookup id ≠ some r := by
  intro hlook
  obtain hsend | herase | ⟨ph, hph, hmem⟩ := h.table id r hlook
  · obtain ⟨sent, heq⟩ := hfin _ hsend
    cases heq
  · obtain ⟨sent, heq⟩ := hfin _ herase
    cases heq
  · exact hph ((show ph = .ended from hfin _ hmem) ▸ trivial)

theorem WsClient.Inv.completesOnce {c : WsClient} (h : Inv c) : CompletesOnce c := by
  have honce : ∀ r, c.completed r ≤ 1 := by
    intro r
    have hle : c.shared.settled ≤ c.tokens :=
      (Multiset.le_add_left _ _).trans (Multiset.le_add_right _ _)
    have hnd : c.tokens.Nodup := h.tokens_eq ▸ Multiset.nodup_range _
    calc c.completed r = c.shared.settled.count r := (Multiset.coe_count r _).symm
      _ ≤ c.tokens.count r := Multiset.count_le_of_le r hle
      _ ≤ 1 := Multiset.nodup_iff_count_le_one.mp hnd r
  have hplaces : ∀ r < c.shared.calls, c.completed r = 1 ∨
      (∃ id, c.shared.pendingRequests.lookup id = some r) ∨ ∃ t ∈ c.threads, r ∈ t.tokens := by
    intro r hr
    have hmem : r ∈ c.tokens := h.tokens_eq ▸ Multiset.mem_range.mpr hr
    obtain hshared | hthread := mem_total.mp hmem
    · obtain htable | hset := Multiset.mem_add.mp hshared
      · exact .inr (.inl (mem_values.mp htable))
      · exact .inl (Nat.le_antisymm (honce r) (count_pos_iff.mpr hset))
    · exact .inr (.inr hthread)
  refine ⟨honce, hplaces, fun hfin r hr => ?_⟩
  obtain hdone | ⟨id, hlook⟩ | ⟨t, ht, htok⟩ := hplaces r hr
  · exact hdone
  · exact absurd hlook (h.lookup_of_finished hfin)
  · rw [(hfin t ht).tokens_eq] at htok
    exact absurd htok (Multiset.notMem_zero r)

/-- A call puts its request into the table; the connection ends, and the reader thread fails all
requests; the call then finds that it cannot send, and calls its completion once more. -/
theorem requestAsync_completes_twice :
    (reach [.requestAsync, .run 1 {}, .run 1 {}, .run 1 {},
      .run 0 {}, .run 0 { recv := .closed }, .run 0 {}, .run 0 {}, .run 0 {},
      .run 1 {}, .run 1 {}, .run 1 {}]).completed 0 = 2 := by
  decide

/-- **Each completion is called once**, in every run in which no request is put under an id that
is pending, and a call that could not send finds its own request in the table.  Once the client
has stopped, its threads get to their end. -/
theorem requestAsync_completes_once (es : List WsEvent)
    (hown : StepsMeet step TakesOwn connected es) :
    CompletesOnce (reach es) ∧
      ((reach es).shared.running = false →
        ∃ es', (∀ e ∈ es', ∃ i x, e = WsEvent.run i x) ∧
          Finished (runFrom step (reach es) es')) :=
  ⟨(inv_reach hown).completesOnce, exists_finished (inv_reach hown).toReading⟩

/-- One request is answered; the next one cannot be sent, and its call has its completion back
before the reader thread fails all requests. -/
theorem requestAsync_completes_once_sendFails :
    ∃ es, StepsMeet step TakesOwn connected es ∧ (reach es).Finished ∧
      (reach es).shared.calls = 2 ∧ (reach es).completed 0 = 1 ∧ (reach es).completed 1 = 1 :=
  let es : List WsEvent := [.requestAsync, .run 1 {}, .run 1 {}, .run 1 {}, .run 1 {}, .run 1 {},
    .run 0 {}, .run 0 { recv := .response 1 ⟨true, .null, ""⟩ }, .run 0 {}, .run 0 {}, .run 0 {},
    .requestAsync, .run 2 {}, .run 2 {}, .run 2 {}, .run 2 {}, .run 2 { sent := false },
    .run 2 {}, .run 2 {}, .run 0 {}, .run 0 {}, .run 0 {}]
  have hown : StepsMeet step TakesOwn connected es := by decide
  have hfin : (reach es).Finished := by decide
  have honce := (requestAsync_completes_once es hown).1.atEnd hfin
  ⟨es, hown, hfin, by decide, honce 0 (by decide), honce 1 (by decide)⟩

end MediasoupCpp
