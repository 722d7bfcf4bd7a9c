import Mathlib.Algebra.Group.Nat.Defs
import MediasoupCpp.Lib.Dict
import MediasoupCpp.Lib.Run

/-!
# Requests on a worker channel

A request to the worker gets an id, and a promise is kept in a table under that id until the
response comes, the request times out or the channel is closed.  The ids count up and wrap around;
an id that is still pending is passed over.

Main result: `channel_requests_settle_once`.

Source: `src/Channel.cpp`.
-/

namespace MediasoupCpp

open List Runs AList Option

/-! ### The channel -/

inductive WorkerMessage
  | response (id : ℕ) (accepted : Bool) (reason : Option String)
  /-- The message says it is a response and has none. -/
  | missingResponse
  | notification
  | log
  | unexpected
  deriving DecidableEq

inductive Outcome
  | value (data : List UInt8)
  | failure (reason : String)
  deriving DecidableEq

/-- How far `requestWithIdLocked` is with a request: its message is being built, its future is
with the caller, or building it has failed and the caller got an exception. -/
inductive RequestStage
  | building
  | sent
  | abandoned
  deriving DecidableEq

structure PendingSent where
  id : ℕ
  outcomes : List Outcome := []
  stage : RequestStage := .building
  deriving DecidableEq

def PendingSent.IsOpen (p : PendingSent) : Prop := p.outcomes = [] ∧ p.stage ≠ .abandoned

instance (p : PendingSent) : Decidable p.IsOpen := inferInstanceAs (Decidable (_ ∧ _))

def PendingSent.set (p : PendingSent) (o : Outcome) : PendingSent :=
  { p with outcomes := p.outcomes ++ [o] }

theorem PendingSent.IsOpen.set {p : PendingSent} (hopen : p.IsOpen) (o : Outcome) :
    (p.set o).id = p.id ∧ ¬(p.set o).IsOpen ∧ (p.set o).outcomes = [o] := by
  have houts : (p.set o).outcomes = [o] := by simp [PendingSent.set, hopen.1]
  exact ⟨rfl, fun h => cons_ne_nil o [] (houts.symm.trans h.1), houts⟩

/-- The part of a channel that has to do with requests.  `promises` holds all requests there
ever were; `sents` has the place of a pending one under its id. -/
structure Channel where
  closed : Bool := false
  nextId : ℕ := 0
  sents : Dict ℕ ℕ := ∅
  promises : List PendingSent := []

namespace Channel

def maxId : ℕ := 4294967295

def allocateId (sents : Dict ℕ ℕ) : ℕ → ℕ → ℕ × Option ℕ
  | 0, nextId => (nextId, none)
  | attempts + 1, nextId =>
    let next := if nextId < maxId then nextId + 1 else 1
    if next ∈ sents then allocateId sents attempts next else (next, some next)

variable (c : Channel)

abbrev promise (r : ℕ) : Option PendingSent := c.promises[r]?

def settle (promises : List PendingSent) (r : ℕ) (o : Outcome) : List PendingSent :=
  promises.modify r fun p => p.set o

def submit : Channel × Except String ℕ :=
  if c.closed then (c, .error "Channel closed")
  else
    match allocateId c.sents maxId c.nextId with
    | (next, none) => ({ c with nextId := next }, .error "channel request id space exhausted")
    | (next, some id) =>
      ({ c with
          nextId := next
          sents := c.sents.insert id c.promises.length
          promises := c.promises ++ [{ id }] }, .ok c.promises.length)

def send (r : ℕ) : Channel :=
  { c with
    promises := c.promises.modify r fun p =>
      if p.stage = .building then { p with stage := .sent } else p }

def abandon (r : ℕ) : Channel :=
  match c.promise r with
  | none => c
  | some p =>
    if p.stage = .building ∧ c.sents.lookup p.id = some r then
      { c with
        sents := c.sents.erase p.id
        promises := c.promises.modify r fun p => { p with stage := .abandoned } }
    else c

def responseOutcome (data : List UInt8) (accepted : Bool) (reason : Option String) : Outcome :=
  if accepted then .value data else .failure (reason.getD "unknown error")

def processMessage (data : List UInt8) : Option WorkerMessage → Channel × Bool
  | none => (c, false)
  | some (.response id accepted reason) =>
    match c.sents.lookup id with
    | none => (c, true)
    | some r =>
      ({ c with
          sents := c.sents.erase id
          promises := settle c.promises r (responseOutcome data accepted reason) }, true)
  | some _ => (c, true)

def timeout (r : ℕ) : Channel :=
  match c.promise r with
  | none => c
  | some p =>
    -- a promise that is set is ready, and there is nobody to wait before the future is there
    if p.outcomes ≠ [] ∨ p.stage ≠ .sent then c
    else
      match c.sents.lookup p.id with
      | none => c
      | some r' =>
        { c with
          sents := c.sents.erase p.id
          promises := settle c.promises r' (.failure "timeout") }

def close : Channel :=
  if c.closed then c
  else
    { c with
      closed := true
      sents := ∅
      promises := (c.sents.entries.map Sigma.snd).foldl
        (fun promises r => settle promises r (.failure "Channel closed")) c.promises }

end Channel

inductive ChannelEvent
  | submit
  | send (r : ℕ)
  | abandon (r : ℕ)
  /-- A message comes in; one that cannot be read closes the channel. -/
  | message (data : List UInt8) (msg : Option WorkerMessage)
  | timeout (r : ℕ)
  | close
  deriving DecidableEq

def Channel.step (c : Channel) : ChannelEvent → Channel
  | .submit => c.submit.1
  | .send r => c.send r
  | .abandon r => c.abandon r
  | .message data msg =>
    match c.processMessage data msg with
    | (c', true) => c'
    | (c', false) => c'.close
  | .timeout r => c.timeout r
  | .close => c.close

/-! ### Allocating an id -/

theorem Channel.allocateId_spec (sents : Dict ℕ ℕ) (attempts nextId : ℕ) (hnext : nextId ≤ maxId) :
    (∃ id, allocateId sents attempts nextId = (id, some id) ∧ id ∉ sents ∧ 0 < id ∧ id ≤ maxId) ∨
      (∃ next, allocateId sents attempts nextId = (next, none) ∧ next ≤ maxId ∧
        ∀ j < attempts, (nextId + j) % maxId + 1 ∈ sents) := by
  induction attempts generalizing nextId with
  | zero => exact .inr ⟨nextId, rfl, hnext, fun j hj => absurd hj (Nat.not_lt_zero j)⟩
  | succ attempts ih =>
    have hsucc : (if nextId < maxId then nextId + 1 else 1) = nextId % maxId + 1 := by
      unfold maxId at hnext ⊢
      split <;> omega
    have hrng : nextId % maxId + 1 ≤ maxId := by
      unfold maxId
      omega
    rw [allocateId, hsucc]
    by_cases hmem : nextId % maxId + 1 ∈ sents
    · rw [if_pos hmem]
      refine (ih _ hrng).imp_right ?_
      rintro ⟨next, hnone, hle, htried⟩
      refine ⟨next, hnone, hle, fun j hj => ?_⟩
      -- the ids tried after the first one are those tried from there
      cases j with
      | zero => exact hmem
      | succ j =>
        have hshift : (nextId % maxId + 1 + j) % maxId = (nextId + (j + 1)) % maxId := by
          unfold maxId
          omega
        rw [← hshift]
        exact htried j (Nat.lt_of_succ_lt_succ hj)
    · rw [if_neg hmem]
      exact .inl ⟨_, rfl, hmem, Nat.succ_pos _, hrng⟩

theorem Channel.mem_of_allocateId_eq_none {sents : Dict ℕ ℕ} {nextId next : ℕ}
    (hnext : nextId ≤ maxId) (h : allocateId sents maxId nextId = (next, none)) {id : ℕ}
    (hpos : 0 < id) (hle : id ≤ maxId) : id ∈ sents := by
  obtain ⟨_, hsome, -⟩ | ⟨_, -, -, htried⟩ := allocateId_spec sents maxId nextId hnext
  · rw [hsome] at h
    cases h
  have hj := htried ((id - 1 + (maxId - nextId % maxId)) % maxId) (Nat.mod_lt _ (by decide))
  have hid : (nextId + (id - 1 + (maxId - nextId % maxId)) % maxId) % maxId + 1 = id := by
    unfold maxId at hle ⊢
    omega
  rwa [hid] at hj

/-! ### The list of promises -/

namespace Channel

section Promises

variable {l : List PendingSent} {r : ℕ} {p : PendingSent}

theorem getElem?_concat_iff {p₀ : PendingSent} :
    (l ++ [p₀])[r]? = some p ↔ l[r]? = some p ∨ r = l.length ∧ p₀ = p := by
  rcases Nat.lt_trichotomy r l.length with hlt | rfl | hlt
  · rw [List.getElem?_append_left hlt]
    simp [Nat.ne_of_lt hlt]
  · simp
  · rw [List.getElem?_eq_none (by simp; omega), List.getElem?_eq_none (Nat.le_of_lt hlt)]
    simp [Nat.ne_of_gt hlt]

theorem getElem?_modify_iff {f : PendingSent → PendingSent} {i : ℕ} :
    (l.modify i f)[r]? = some p ↔ ∃ p₀, l[r]? = some p₀ ∧ p = if r = i then f p₀ else p₀ := by
  rw [List.getElem?_modify]
  cases l[r]? with
  | none => simp
  | some p₀ =>
    by_cases hi : i = r
    · simp [hi, eq_comm]
    · simp [hi, Ne.symm hi, eq_comm]

theorem getElem?_settle_iff {i : ℕ} {o : Outcome} : (settle l i o)[r]? = some p ↔
      ∃ p₀, l[r]? = some p₀ ∧ p = if r = i then p₀.set o else p₀ :=
  getElem?_modify_iff

theorem getElem?_foldl_settle_iff {rs : List ℕ} (hrs : rs.Nodup) (o : Outcome) :
    (rs.foldl (fun l r => settle l r o) l)[r]? = some p ↔
      ∃ p₀, l[r]? = some p₀ ∧ p = if r ∈ rs then p₀.set o else p₀ := by
  induction rs generalizing l with
  | nil => simp [eq_comm]
  | cons i rs ih =>
    obtain ⟨hi, hrs⟩ := nodup_cons.mp hrs
    rw [foldl_cons, ih hrs]
    constructor
    · rintro ⟨_, hp₁, rfl⟩
      obtain ⟨p₀, hp₀, rfl⟩ := getElem?_settle_iff.mp hp₁
      refine ⟨p₀, hp₀, ?_⟩
      by_cases hri : r = i
      · subst hri
        simp [hi]
      · simp [hri]
    · rintro ⟨p₀, hp₀, rfl⟩
      refine ⟨_, getElem?_settle_iff.mpr ⟨p₀, hp₀, rfl⟩, ?_⟩
      by_cases hri : r = i
      · subst hri
        simp [hi]
      · simp [hri]

end Promises

/-! ### The table and the promises -/

/-- **The table has the open promises, each under its id.**  No promise is set twice. -/
structure Inv (c : Channel) : Prop where
  nextId_le : c.nextId ≤ maxId
  pending : ∀ id r, c.sents.lookup id = some r →
    0 < id ∧ ∃ p, c.promise r = some p ∧ p.id = id ∧ p.IsOpen
  listed : ∀ r p, c.promise r = some p → p.IsOpen → c.sents.lookup p.id = some r
  once : ∀ r p, c.promise r = some p → p.outcomes.length ≤ 1
  closed : c.closed = true → c.sents = ∅

variable {c : Channel} {p : PendingSent} {id r : ℕ}

section

variable (h : c.Inv)
include h

theorem Inv.lookup_iff (hp : c.promise r = some p)
    (id : ℕ) : c.sents.lookup id = some r ↔ p.IsOpen ∧ p.id = id := by
  constructor
  · intro hlook
    obtain ⟨-, _, hp', hid, hopen⟩ := h.pending id r hlook
    rw [hp] at hp'
    cases hp'
    exact ⟨hopen, hid⟩
  · rintro ⟨hopen, rfl⟩
    exact h.listed r p hp hopen

section

variable (hlook : c.sents.lookup id = some r)
include hlook

theorem Inv.not_closed : ¬c.closed := by
  intro hcl
  rw [h.closed hcl] at hlook
  cases hlook

theorem Inv.take {f : PendingSent → PendingSent}
    (hf : ∀ p, p.IsOpen → (f p).id = p.id ∧ ¬(f p).IsOpen ∧ (f p).outcomes.length ≤ 1) :
    Inv { c with sents := c.sents.erase id, promises := c.promises.modify r f } := by
  obtain ⟨-, p, hp, hid, _⟩ := h.pending id r hlook
  refine ⟨h.nextId_le, fun id' r' hlook' => ?_, fun r' p' hp' hopen' => ?_,
    fun r' p' hp' => ?_, fun hcl => absurd hcl (h.not_closed hlook)⟩
  · rw [Dict.lookup_erase_eq] at hlook'
    split at hlook'
    · cases hlook'
    rename_i hne
    obtain ⟨hpos, p', hp', hid', hopen'⟩ := h.pending id' r' hlook'
    refine ⟨hpos, p', getElem?_modify_iff.mpr ⟨p', hp', (if_neg ?_).symm⟩, hid', hopen'⟩
    -- the same request cannot be in the table under two ids
    rintro rfl
    rw [hp] at hp'
    cases hp'
    exact hne (hid'.symm.trans hid)
  · obtain ⟨p₀, hp₀, rfl⟩ := getElem?_modify_iff.mp hp'
    split_ifs at hopen' with hr
    · subst hr
      exact absurd hopen' (hf p₀ ((h.lookup_iff hp₀ id).mp hlook).1).2.1
    rw [if_neg hr]
    have hold := h.listed r' p₀ hp₀ hopen'
    rw [Dict.lookup_erase_eq, if_neg ?_, hold]
    intro hid'
    rw [hid', hlook] at hold
    exact hr (some.inj hold).symm
  · obtain ⟨p₀, hp₀, rfl⟩ := getElem?_modify_iff.mp hp'
    split
    next hr =>
      subst hr
      exact (hf p₀ ((h.lookup_iff hp₀ id).mp hlook).1).2.2
    · exact h.once r' p₀ hp₀

theorem Inv.settle (o : Outcome) :
    Inv { c with sents := c.sents.erase id, promises := settle c.promises r o } :=
  h.take hlook fun _ hopen =>
    ⟨rfl, (hopen.set o).2.1, by rw [(hopen.set o).2.2, length_singleton]⟩

end

/-! ### The steps -/

theorem Inv.submit : c.submit.1.Inv := by
  unfold Channel.submit
  split
  · exact h
  rename_i hcl
  obtain ⟨id, halloc, hfree, hpos, hle⟩ | ⟨_, halloc, hle, -⟩ :=
    allocateId_spec c.sents maxId c.nextId h.nextId_le
  · rw [halloc]
    refine ⟨hle, fun id' r hlook => ?_, fun r p hp hopen => ?_, fun r p hp => ?_,
      fun h => absurd h hcl⟩
    · rw [Dict.lookup_insert_eq] at hlook
      split at hlook
      next hid =>
        cases hlook
        exact ⟨hid ▸ hpos, { id }, by simp, hid.symm, rfl, by simp⟩
      · obtain ⟨hpos', p, hp, hid, hopen⟩ := h.pending id' r hlook
        exact ⟨hpos', p, getElem?_concat_iff.mpr (.inl hp), hid, hopen⟩
    · rw [Dict.lookup_insert_eq]
      obtain hp | ⟨rfl, rfl⟩ := getElem?_concat_iff.mp hp
      · have hlook := h.listed r p hp hopen
        -- an open promise has its id in the table, so it is not the new one
        rw [if_neg ?_, hlook]
        rintro rfl
        exact hfree (lookup_isSome.mp (by rw [hlook]; rfl))
      · rw [if_pos rfl]
    · obtain hp | ⟨rfl, rfl⟩ := getElem?_concat_iff.mp hp
      · exact h.once r p hp
      · exact Nat.zero_le _
  · rw [halloc]
    exact ⟨hle, h.pending, h.listed, h.once, h.closed⟩

theorem Inv.send (r : ℕ) : (c.send r).Inv := by
  have hsame : ∀ p : PendingSent,
      let p' := if p.stage = .building then { p with stage := .sent } else p
      p'.id = p.id ∧ p'.outcomes = p.outcomes ∧ (p'.IsOpen ↔ p.IsOpen) := by
    intro p
    by_cases hstage : p.stage = .building <;> simp [PendingSent.IsOpen, hstage]
  refine ⟨h.nextId_le, fun id r' hlook => ?_, fun r' p hp hopen => ?_, fun r' p hp => ?_, h.closed⟩
  · obtain ⟨hpos, p, hp, hid, hopen⟩ := h.pending id r' hlook
    refine ⟨hpos, _, getElem?_modify_iff.mpr ⟨p, hp, rfl⟩, ?_⟩
    split
    · exact ⟨(hsame p).1.trans hid, (hsame p).2.2.mpr hopen⟩
    · exact ⟨hid, hopen⟩
  · obtain ⟨p₀, hp₀, rfl⟩ := getElem?_modify_iff.mp hp
    split at hopen
    next hr =>
      rw [if_pos hr, (hsame p₀).1]
      exact h.listed r' p₀ hp₀ ((hsame p₀).2.2.mp hopen)
    next hr =>
      rw [if_neg hr]
      exact h.listed r' p₀ hp₀ hopen
  · obtain ⟨p₀, hp₀, rfl⟩ := getElem?_modify_iff.mp hp
    split
    · rw [(hsame p₀).2.1]
      exact h.once r' p₀ hp₀
    · exact h.once r' p₀ hp₀

theorem Inv.abandon (r : ℕ) : (c.abandon r).Inv := by
  unfold Channel.abandon
  split
  · exact h
  split
  next hbuild =>
    refine h.take hbuild.2 fun p hopen => ⟨rfl, fun hopen' => hopen'.2 rfl, ?_⟩
    simp [hopen.1]
  · exact h

theorem Inv.processMessage (data : List UInt8) (msg : Option WorkerMessage) :
    (c.processMessage data msg).1.Inv := by
  unfold Channel.processMessage
  split
  · exact h
  · split
    · exact h
    next hlook =>
      exact h.settle hlook _
  · exact h

theorem Inv.timeout (r : ℕ) : (c.timeout r).Inv := by
  unfold Channel.timeout
  split
  · exact h
  split
  · exact h
  split
  · exact h
  next hlook =>
    exact h.settle hlook _

theorem Inv.nodup_places : (c.sents.entries.map Sigma.snd).Nodup := by
  have hkeys : (c.sents.entries.map Sigma.fst).Nodup := c.sents.nodupKeys
  have hents : c.sents.entries.Nodup := List.Nodup.of_map _ hkeys
  refine hents.map_on ?_
  rintro ⟨id, r⟩ he ⟨id', r'⟩ he' hr
  obtain rfl : r = r' := hr
  obtain ⟨-, _, hp, hid, -⟩ := h.pending id r (mem_lookup_iff.mpr he)
  have hid' := (h.lookup_iff hp id').mp (mem_lookup_iff.mpr he')
  rw [← hid, hid'.2]

end

theorem mem_places_iff (r : ℕ) :
    r ∈ c.sents.entries.map Sigma.snd ↔ ∃ id, c.sents.lookup id = some r := by
  constructor
  · intro hr
    obtain ⟨⟨id, r⟩, he, rfl⟩ := mem_map.mp hr
    exact ⟨id, mem_lookup_iff.mpr he⟩
  · rintro ⟨id, hlook⟩
    exact mem_map.mpr ⟨⟨id, r⟩, mem_lookup_iff.mp hlook, rfl⟩

theorem Inv.promise_close (h : c.Inv) : c.close.promise r = some p ↔ ∃ p₀, c.promise r = some p₀ ∧
        p = if p₀.IsOpen then p₀.set (.failure "Channel closed") else p₀ := by
  have hopen_iff : ∀ p₀, c.promise r = some p₀ →
      (r ∈ c.sents.entries.map Sigma.snd ↔ p₀.IsOpen) := by
    intro p₀ hp₀
    rw [mem_places_iff]
    constructor
    · rintro ⟨id, hlook⟩
      exact ((h.lookup_iff hp₀ id).mp hlook).1
    · exact fun hopen => ⟨p₀.id, h.listed r p₀ hp₀ hopen⟩
  unfold Channel.close
  split
  next hcl =>
    have hemp : ∀ p₀, c.promise r = some p₀ → ¬p₀.IsOpen := by
      intro p₀ hp₀ hopen
      exact h.not_closed (h.listed r p₀ hp₀ hopen) hcl
    constructor
    · exact fun hp => ⟨p, hp, (if_neg (hemp p hp)).symm⟩
    rintro ⟨p₀, hp₀, rfl⟩
    rw [if_neg (hemp p₀ hp₀)]
    exact hp₀
  · rw [Channel.promise, getElem?_foldl_settle_iff h.nodup_places]
    refine exists_congr fun p₀ => and_congr_right fun hp₀ => ?_
    simp only [hopen_iff p₀ hp₀]

theorem Inv.close (h : c.Inv) : c.close.Inv := by
  have hsents : c.close.sents = ∅ := by
    unfold Channel.close
    split
    next hcl =>
      exact h.closed hcl
    · rfl
  have hnext : c.close.nextId = c.nextId := by
    unfold Channel.close
    split <;> rfl
  refine ⟨hnext ▸ h.nextId_le, fun id r hlook => ?_, fun r p hp hopen => ?_, fun r p hp => ?_,
    fun _ => hsents⟩
  · rw [hsents] at hlook
    cases hlook
  · obtain ⟨p₀, hp₀, rfl⟩ := h.promise_close.mp hp
    split_ifs at hopen with hopen₀
    · exact absurd hopen (hopen₀.set _).2.1
    · exact absurd hopen hopen₀
  · obtain ⟨p₀, hp₀, rfl⟩ := h.promise_close.mp hp
    split
    next hopen₀ =>
      rw [(hopen₀.set _).2.2, length_singleton]
    · exact h.once r p₀ hp₀

theorem Inv.step (h : c.Inv) (e : ChannelEvent) : (c.step e).Inv := by
  cases e with
  | submit => exact h.submit
  | send r => exact h.send r
  | abandon r => exact h.abandon r
  | message data msg =>
    have hmsg := h.processMessage data msg
    unfold Channel.step
    dsimp only
    split
    next heq =>
      rw [heq] at hmsg
      exact hmsg
    next heq =>
      rw [heq] at hmsg
      exact hmsg.close
  | timeout r => exact h.timeout r
  | close => exact h.close

theorem Inv.init : Inv {} where
  nextId_le := Nat.zero_le _
  pending id r h := by cases h
  listed r p h := by cases h
  once r p h := by cases h
  closed h := by cases h

/-! ### What a step does to a promise -/

theorem Inv.promise_response (h : c.Inv) {data : List UInt8} {accepted : Bool}
    {reason : Option String} :
    (c.step (.message data (some (.response id accepted reason)))).promise r = some p ↔
      ∃ p₀, c.promise r = some p₀ ∧
        p = if p₀.IsOpen ∧ p₀.id = id then p₀.set (responseOutcome data accepted reason)
          else p₀ := by
  have hiff : ∀ p₀, c.promise r = some p₀ →
      (c.sents.lookup id = some r ↔ p₀.IsOpen ∧ p₀.id = id) := fun p₀ hp₀ => h.lookup_iff hp₀ id
  unfold Channel.step Channel.processMessage
  dsimp only
  cases hlook : c.sents.lookup id with
  | none =>
    rw [hlook] at hiff
    constructor
    · exact fun hp => ⟨p, hp, (if_neg fun hpend => by cases (hiff p hp).mpr hpend).symm⟩
    rintro ⟨p₀, hp₀, rfl⟩
    rw [if_neg fun hpend => by cases (hiff p₀ hp₀).mpr hpend]
    exact hp₀
  | some r' =>
    rw [getElem?_settle_iff]
    refine exists_congr fun p₀ => and_congr_right fun hp₀ => ?_
    have hplace : r = r' ↔ p₀.IsOpen ∧ p₀.id = id := by
      rw [← hiff p₀ hp₀, hlook, some.injEq, eq_comm]
    simp only [hplace]

theorem Inv.promise_timeout (h : c.Inv) (hp : c.promise r = some p)
    (hopen : p.IsOpen) (hsent : p.stage = .sent) :
    (c.timeout r).promise r = some (p.set (.failure "timeout")) := by
  unfold Channel.timeout
  rw [hp]
  dsimp only
  rw [if_neg (by simp [hopen.1, hsent]), h.listed r p hp hopen]
  exact getElem?_settle_iff.mpr ⟨p, hp, (if_pos rfl).symm⟩

theorem outcomes_isPrefix_modify {l : List PendingSent} {f : PendingSent → PendingSent} {i : ℕ}
    (hp : l[r]? = some p) (hf : ∀ p, (f p).id = p.id ∧ p.outcomes <+: (f p).outcomes) :
    ∃ p', (l.modify i f)[r]? = some p' ∧ p'.id = p.id ∧ p.outcomes <+: p'.outcomes := by
  refine ⟨_, getElem?_modify_iff.mpr ⟨p, hp, rfl⟩, ?_⟩
  split
  · exact hf p
  · exact ⟨rfl, prefix_refl _⟩

theorem outcomes_isPrefix_set (p : PendingSent) (o : Outcome) :
    (p.set o).id = p.id ∧ p.outcomes <+: (p.set o).outcomes :=
  ⟨rfl, prefix_append _ _⟩

theorem Inv.outcomes_isPrefix (h : c.Inv) (e : ChannelEvent) (hp : c.promise r = some p) :
    ∃ p', (c.step e).promise r = some p' ∧ p'.id = p.id ∧ p.outcomes <+: p'.outcomes := by
  have hsame : ∃ p', c.promise r = some p' ∧ p'.id = p.id ∧ p.outcomes <+: p'.outcomes :=
    ⟨p, hp, rfl, prefix_refl _⟩
  have hclose : ∃ p', c.close.promise r = some p' ∧ p'.id = p.id ∧ p.outcomes <+: p'.outcomes := by
    refine ⟨_, h.promise_close.mpr ⟨p, hp, rfl⟩, ?_⟩
    split
    · exact outcomes_isPrefix_set p _
    · exact ⟨rfl, prefix_refl _⟩
  cases e with
  | submit =>
    unfold Channel.step Channel.submit
    dsimp only
    split
    · exact hsame
    split
    · exact hsame
    · exact ⟨p, getElem?_concat_iff.mpr (.inl hp), rfl, prefix_refl _⟩
  | send i =>
    refine outcomes_isPrefix_modify hp fun p => ?_
    split <;> exact ⟨rfl, prefix_refl _⟩
  | abandon i =>
    unfold Channel.step Channel.abandon
    dsimp only
    split
    · exact hsame
    split
    · exact outcomes_isPrefix_modify hp fun p => ⟨rfl, prefix_refl _⟩
    · exact hsame
  | message data msg =>
    cases msg with
    | none => exact hclose
    | some msg =>
      cases msg with
      | response id accepted reason =>
        refine ⟨_, h.promise_response.mpr ⟨p, hp, rfl⟩, ?_⟩
        split
        · exact outcomes_isPrefix_set p _
        · exact ⟨rfl, prefix_refl _⟩
      | missingResponse | notification | log | unexpected => exact hsame
  | timeout i =>
    unfold Channel.step Channel.timeout
    dsimp only
    split
    · exact hsame
    split
    · exact hsame
    split
    · exact hsame
    · exact outcomes_isPrefix_modify hp fun p => outcomes_isPrefix_set p _
  | close => exact hclose

/-! ### Every request is settled once -/

structure SettlesOnce (c : Channel) : Prop where
  /-- Pending requests have different ids, none of them zero, and are in the table. -/
  distinct : ∀ r r' p p', c.promise r = some p → c.promise r' = some p' → p.IsOpen → p'.IsOpen →
    p.id = p'.id → r = r'
  nonzero : ∀ r p, c.promise r = some p → p.IsOpen → p.id ≠ 0
  table : ∀ id r, c.sents.lookup id = some r ↔ ∃ p, c.promise r = some p ∧ p.IsOpen ∧ p.id = id
  /-- A promise is set at most once, and what it is set to stays. -/
  once : ∀ r p, c.promise r = some p → p.outcomes.length ≤ 1
  stays : ∀ e r p, c.promise r = some p →
    ∃ p', (c.step e).promise r = some p' ∧ p'.id = p.id ∧ p.outcomes <+: p'.outcomes
  /-- A pending request is settled by its response, by the end of its time, and by a close. -/
  response : ∀ r p data accepted reason, c.promise r = some p → p.IsOpen →
    ∃ p', (c.step (.message data (some (.response p.id accepted reason)))).promise r = some p' ∧
      p'.outcomes = [responseOutcome data accepted reason]
  timeout : ∀ r p, c.promise r = some p → p.IsOpen → p.stage = .sent →
    ∃ p', (c.step (.timeout r)).promise r = some p' ∧ p'.outcomes = [.failure "timeout"]
  close : ∀ r p, c.promise r = some p → p.IsOpen →
    ∃ p', (c.step .close).promise r = some p' ∧ p'.outcomes = [.failure "Channel closed"]
  unrelated : ∀ r p data id accepted reason, c.promise r = some p → ¬(p.IsOpen ∧ p.id = id) →
    (c.step (.message data (some (.response id accepted reason)))).promise r = some p
  /-- There is no id left only if all of them are pending. -/
  exhausted : c.submit.2 = .error "channel request id space exhausted" →
    ∀ id, 0 < id → id < 2 ^ 32 → ∃ r p, c.promise r = some p ∧ p.IsOpen ∧ p.id = id

theorem Inv.lookup_iff_exists (h : c.Inv) (id r : ℕ) :
    c.sents.lookup id = some r ↔ ∃ p, c.promise r = some p ∧ p.IsOpen ∧ p.id = id := by
  constructor
  · intro hlook
    obtain ⟨-, p, hp, hid, hopen⟩ := h.pending id r hlook
    exact ⟨p, hp, hopen, hid⟩
  · rintro ⟨p, hp, hopen, rfl⟩
    exact h.listed r p hp hopen

theorem Inv.mem_of_exhausted (h : c.Inv)
    (hsub : c.submit.2 = .error "channel request id space exhausted") (hpos : 0 < id)
    (hlt : id < 2 ^ 32) : id ∈ c.sents := by
  unfold Channel.submit at hsub
  split at hsub
  · exact absurd hsub (by simp)
  obtain ⟨_, halloc, -⟩ | ⟨_, halloc, -⟩ :=
    allocateId_spec c.sents maxId c.nextId h.nextId_le
  · rw [halloc] at hsub
    cases hsub
  · exact mem_of_allocateId_eq_none h.nextId_le halloc hpos (Nat.le_of_lt_succ hlt)

theorem Inv.settlesOnce (h : c.Inv) : c.SettlesOnce where
  distinct r r' p p' hp hp' hopen hopen' hid := by
    have hlook := h.listed r p hp hopen
    rw [hid, h.listed r' p' hp' hopen'] at hlook
    exact (some.inj hlook).symm
  nonzero r p hp hopen := Nat.ne_of_gt (h.pending p.id r (h.listed r p hp hopen)).1
  table := h.lookup_iff_exists
  once := h.once
  stays e r p hp := h.outcomes_isPrefix e hp
  response r p data accepted reason hp hopen := by
    refine ⟨_, h.promise_response.mpr ⟨p, hp, rfl⟩, ?_⟩
    rw [if_pos ⟨hopen, rfl⟩, (hopen.set _).2.2]
  timeout r p hp hopen hsent := ⟨_, h.promise_timeout hp hopen hsent, (hopen.set _).2.2⟩
  close r p hp hopen := by
    refine ⟨_, h.promise_close.mpr ⟨p, hp, rfl⟩, ?_⟩
    rw [if_pos hopen, (hopen.set _).2.2]
  unrelated r p data id accepted reason hp hoth :=
    h.promise_response.mpr ⟨p, hp, (if_neg hoth).symm⟩
  exhausted hsub id hpos hlt := by
    obtain ⟨r, hlook⟩ := isSome_iff_exists.mp
      (lookup_isSome.mpr (h.mem_of_exhausted hsub hpos hlt))
    exact ⟨r, (h.lookup_iff_exists id r).mp hlook⟩

end Channel

/-- **Every request on a channel is settled once**, in every interleaving of requests,
messages, timeouts and a close. -/
theorem channel_requests_settle_once (es : List ChannelEvent) :
    (runFrom Channel.step {} es).SettlesOnce :=
  (runFrom_inv Channel.Inv (fun _ e h => h.step e) es {} .init).settlesOnce

end MediasoupCpp
