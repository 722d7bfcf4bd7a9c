import MediasoupCpp.Lib.Run
import MediasoupCpp.Qos.Sender

/-!
# What a client reports about its consumers

The application keeps a hint for each of its consumers.  At each tick the reporter copies the
hints into the sampler, which has a map of its own; the sampler finds each consumer a report of
the statistics, first by the identifiers of its hint and then by its kind, and the reporter sends
what the sampler has put together.

Main results: `reports_assigned`, `published_ids_iff`.

Source: `src/client/lib/qos/downlinkHints.js`, `src/client/lib/qos/downlinkSampler.js`,
`src/client/lib/qos/downlinkReporter.js`, `src/client/lib/qos/downlinkProtocol.js`.
-/

namespace MediasoupCpp

open List

/-! ### The sampler -/

/-- What the application tells of a consumer: how to find its report, and how it is shown. -/
structure ConsumerHint where
  producerId : String := ""
  kind : Option MediaKind := none
  ssrc : Option ℚ := none
  mid : Option String := none
  trackIdentifier : Option String := none
  visible : Bool := false
  pinned : Bool := false
  activeSpeaker : Bool := false
  isScreenShare : Bool := false
  targetWidth : ℚ := 0
  targetHeight : ℚ := 0

/-- An `inbound-rtp` report of the statistics, as far as the sampler matches by it. -/
structure InboundReport where
  kind : MediaKind
  ssrc : Option ℚ := none
  mid : Option String := none
  trackIdentifier : Option String := none

inductive StatsReport
  | inboundRtp (report : InboundReport)
  | other

/-- A subscription of a snapshot; its numbers are those of the hint and the report. -/
structure SubscriptionEntry where
  consumerId : String
  hint : ConsumerHint
  stats : Option InboundReport

open SubscriptionEntry

def matchesHintKind (report : InboundReport) (hint : ConsumerHint) : Bool :=
  hint.kind.all (report.kind = ·)

/-- One of the identifiers of the hint is that of the report.  Empty texts identify nothing. -/
def matchesHint (report : InboundReport) (hint : ConsumerHint) : Bool :=
  matchesHintKind report hint &&
    (hint.ssrc.any (report.ssrc = some ·) ||
      hint.mid.any (fun mid => mid ≠ "" && report.mid = some mid) ||
      hint.trackIdentifier.any fun track => track ≠ "" && report.trackIdentifier = some track)

/-- The place of the report a hint gets, of those that are not matched yet: by an identifier, else
by the kind, else the first one if the hint has no kind. -/
def selectInboundReport (reports : List InboundReport) (hint : ConsumerHint) (matched : List ℕ) :
    Option ℕ :=
  let free := (List.range reports.length).filter (· ∉ matched)
  (free.find? fun i => reports[i]?.any (matchesHint · hint)) <|>
    (free.find? fun i => reports[i]?.any (matchesHintKind · hint)) <|>
      if hint.kind.isSome then none else free.head?

def assignReports (reports : List InboundReport) :
    List ℕ → List ConsumerHint → List (Option ℕ)
  | _, [] => []
  | matched, hint :: hints =>
    let selected := selectInboundReport reports hint matched
    selected :: assignReports reports (selected.toList ++ matched) hints

structure DownlinkSampler where
  hints : List (String × ConsumerHint) := []

/-- A JavaScript map keeps the place of a key that is set again. -/
def setKey {α : Type} (entries : List (String × α)) (key : String) (value : α) :
    List (String × α) :=
  if key ∈ entries.map Prod.fst then
    entries.map fun entry => if entry.1 = key then (key, value) else entry
  else entries ++ [(key, value)]

namespace DownlinkSampler

variable (sampler : DownlinkSampler)

def setHints (consumerId : String) (hint : ConsumerHint) : DownlinkSampler :=
  { sampler with hints := setKey sampler.hints consumerId hint }

def matched (inboundReports : List InboundReport) :
    List ((String × ConsumerHint) × Option InboundReport) :=
  sampler.hints.zip ((assignReports inboundReports [] (sampler.hints.map Prod.snd)).map fun place =>
    place.bind (inboundReports[·]?))

/-- The subscriptions of the consumers.  Without statistics there are none. -/
def sample (rawStats : Option (List StatsReport)) : List SubscriptionEntry :=
  match rawStats with
  | none => []
  | some rawStats =>
    let inboundReports := rawStats.filterMap fun
      | .inboundRtp report => some report
      | .other => none
    (sampler.matched inboundReports).map fun ((consumerId, hint), stats) =>
      { consumerId := consumerId, hint := hint, stats := stats }

end DownlinkSampler

/-! ### Which consumer gets which report -/

section Assign

variable {reports : List InboundReport}

/-- The hint identifies the report at the place by more than its kind. -/
def Identifies (reports : List InboundReport) (hint : ConsumerHint) (place : ℕ) : Prop :=
  reports[place]?.any (matchesHint · hint) = true

instance instDecidableIdentifies (reports : List InboundReport) (hint : ConsumerHint) (place : ℕ) :
    Decidable (Identifies reports hint place) :=
  inferInstanceAs (Decidable (_ = true))

/-- The report at the place is identified by the hint of the consumer and by no other one. -/
def OwnReport (reports : List InboundReport) (hints : List ConsumerHint) (i place : ℕ) : Prop :=
  ∀ j hint, hints[j]? = some hint → (Identifies reports hint place ↔ j = i)

variable {place : ℕ} {hint : ConsumerHint} {matched : List ℕ}

theorem mem_free_of_select
    (h : selectInboundReport reports hint matched = some place) : place ∉ matched := by
  have hfree : place ∈ (List.range reports.length).filter (· ∉ matched) := by
    unfold selectInboundReport at h
    simp only [Option.orElse_eq_orElse, Option.orElse_eq_or, Option.or_eq_some_iff] at h
    rcases h with h | ⟨-, h | ⟨-, h⟩⟩
    · exact mem_of_find?_eq_some h
    · exact mem_of_find?_eq_some h
    split at h
    · cases h
    · exact mem_of_head? h
  simpa using (mem_filter.mp hfree).2

theorem select_of_identifies (h : Identifies reports hint place) (hfree : place ∉ matched) :
    ∃ place', selectInboundReport reports hint matched = some place' ∧
      Identifies reports hint place' := by
  have hplace : place < reports.length := by
    by_contra hout
    rw [Identifies, List.getElem?_eq_none (not_lt.mp hout)] at h
    cases h
  have hmem : place ∈ (List.range reports.length).filter (· ∉ matched) := by
    simp [hplace, hfree]
  obtain ⟨place', hfind⟩ := Option.isSome_iff_exists.mp
    (List.find?_isSome.mpr ⟨place, hmem, h⟩ :
      (((List.range reports.length).filter (· ∉ matched)).find? fun i =>
        reports[i]?.any (matchesHint · hint)).isSome)
  have hfnd := List.find?_some hfind
  refine ⟨place', ?_, hfnd⟩
  rw [selectInboundReport, hfind]
  rfl

theorem nodup_assignReports (hints : List ConsumerHint) (matched : List ℕ) :
    ((assignReports reports matched hints).filterMap id).Nodup ∧
      ∀ place ∈ (assignReports reports matched hints).filterMap id, place ∉ matched := by
  induction hints generalizing matched with
  | nil => simp [assignReports]
  | cons hint hints ih =>
    rw [assignReports]
    cases hsel : selectInboundReport reports hint matched with
    | none => exact ih matched
    | some place =>
      obtain ⟨hnd, hfree⟩ := ih (place :: matched)
      have hplace := mem_free_of_select hsel
      refine ⟨nodup_cons.mpr ⟨fun hmem => hfree place hmem mem_cons_self, hnd⟩, ?_⟩
      refine forall_mem_cons.mpr ⟨hplace, fun place' hmem hmat => ?_⟩
      exact hfree place' hmem (mem_cons_of_mem _ hmat)

theorem OwnReport.tail {hints : List ConsumerHint} {i : ℕ}
    (h : OwnReport reports (hint :: hints) (i + 1) place) : OwnReport reports hints i place :=
  fun j hint' hj => (h (j + 1) hint' hj).trans Nat.succ_inj

theorem assignReports_of_own {hints : List ConsumerHint} {i : ℕ} (hhint : hints[i]? = some hint)
    (hown : OwnReport reports hints i place)
    (honly : ∀ place', Identifies reports hint place' → place' = place)
    (hbef : ∀ j < i, ∃ place', OwnReport reports hints j place' ∧ place' ∉ matched)
    (hfree : place ∉ matched) : (assignReports reports matched hints)[i]? = some (some place) := by
  induction i generalizing hints matched with
  | zero =>
    obtain ⟨hints, rfl⟩ : ∃ rest, hints = hint :: rest := by
      cases hints with
      | nil => cases hhint
      | cons h hints => exact ⟨hints, by rw [Option.some.inj hhint]⟩
    obtain ⟨place', hsel, hiden⟩ :=
      select_of_identifies ((hown 0 hint rfl).mpr rfl) hfree
    rw [assignReports, hsel, honly place' hiden]
    rfl
  | succ i ih =>
    cases hints with
    | nil => cases hhint
    | cons h hints =>
      obtain ⟨_, hown₀, hfree₀⟩ := hbef 0 (Nat.succ_pos i)
      obtain ⟨place', hsel, hiden⟩ :=
        select_of_identifies ((hown₀ 0 h rfl).mpr rfl) hfree₀
      -- what the first one takes is nobody's own but its
      have htook : ∀ {j place''}, OwnReport reports (h :: hints) (j + 1) place'' →
          place'' ∉ matched → place'' ∉ place' :: matched := by
        intro j place'' hown'' hfree'' hmem
        rcases mem_cons.mp hmem with rfl | hmem
        · exact absurd ((hown'' 0 h rfl).mp hiden) (by omega)
        · exact hfree'' hmem
      rw [assignReports, hsel]
      refine ih hhint hown.tail (fun j hj => ?_) (htook hown hfree)
      obtain ⟨place'', hown'', hfree''⟩ := hbef (j + 1) (by omega)
      exact ⟨place'', hown''.tail, htook hown'' hfree''⟩

def twoHints : List ConsumerHint :=
  [{ kind := some .video }, { kind := some .video, ssrc := some 5 }]

end Assign

/-! ### The reporter -/

def DOWNLINK_MAX_SEQ : ℕ := 9007199254740991

def DOWNLINK_MAX_SUBSCRIPTIONS : ℕ := 64

structure DownlinkReport where
  seq : ℕ
  tsMs : ℤ
  subscriberPeerId : String
  subscriptions : List SubscriptionEntry

def serializeDownlinkSnapshot (seq : ℕ) (tsMs : ℤ) (subscriberPeerId : String)
    (subscriptions : List SubscriptionEntry) : DownlinkReport where
  seq := seq
  tsMs := tsMs
  subscriberPeerId := subscriberPeerId
  subscriptions := subscriptions.take DOWNLINK_MAX_SUBSCRIPTIONS

/-- The hints of the application, the sampler, and the number of the last snapshot. -/
structure DownlinkReporter where
  hints : List (String × ConsumerHint) := []
  sampler : DownlinkSampler := {}
  seq : ℕ := 0

inductive ReporterEvent
  | set (consumerId : String) (hint : ConsumerHint)
  | remove (consumerId : String)
  | setVisible (consumerId : String) (visible : Bool)
  | setPinned (consumerId : String) (pinned : Bool)
  | setActiveSpeaker (consumerId : String) (active : Bool)
  | setTargetSize (consumerId : String) (width height : ℚ)
  | clear
  | tick (nowMs : ℤ) (rawStats : Option (List StatsReport))

namespace DownlinkReporter

variable (r : DownlinkReporter)

def updateHint (consumerId : String) (change : ConsumerHint → ConsumerHint) : DownlinkReporter :=
  { r with hints := r.hints.map fun e => if e.1 = consumerId then (e.1, change e.2) else e }

/-- The hints are set in the sampler one by one.  Those it has of other consumers stay. -/
def syncHints : DownlinkSampler :=
  r.hints.foldl (fun sampler e => sampler.setHints e.1 e.2) r.sampler

def tick (peerId : String) (nowMs : ℤ) (rawStats : Option (List StatsReport)) :
    DownlinkReporter × DownlinkReport :=
  let nextSeq := if DOWNLINK_MAX_SEQ ≤ r.seq then 0 else r.seq + 1
  ({ r with sampler := r.syncHints, seq := nextSeq },
    serializeDownlinkSnapshot nextSeq nowMs peerId (r.syncHints.sample rawStats))

def step (peerId : String) : ReporterEvent → DownlinkReporter
  | .set consumerId hint =>
    -- the kind of a hint in the store is never missing
    { r with
      hints := setKey r.hints consumerId
        { hint with kind := some (if hint.kind = some .audio then .audio else .video) } }
  | .remove consumerId => { r with hints := r.hints.filter (·.1 ≠ consumerId) }
  | .setVisible consumerId visible => r.updateHint consumerId ({ · with visible := visible })
  | .setPinned consumerId pinned => r.updateHint consumerId ({ · with pinned := pinned })
  | .setActiveSpeaker consumerId active =>
    r.updateHint consumerId ({ · with activeSpeaker := active })
  | .setTargetSize consumerId width height =>
    r.updateHint consumerId ({ · with targetWidth := width, targetHeight := height })
  | .clear => { r with hints := [] }
  | .tick nowMs rawStats => (r.tick peerId nowMs rawStats).1

def ids : List String := r.hints.map Prod.fst

/-- The consumer had a hint at one of the ticks of the run. -/
def Ticked (peerId : String) : DownlinkReporter → List ReporterEvent → String → Prop
  | _, [], _ => False
  | r, e :: es, id =>
    (∃ nowMs rawStats, e = .tick nowMs rawStats) ∧ id ∈ r.ids ∨ Ticked peerId
    (r.step peerId e) es id

theorem mem_setKey {α : Type} {entries : List (String × α)} {key : String} {value : α}
    {id : String} :
    id ∈ (setKey entries key value).map Prod.fst ↔ id ∈ entries.map Prod.fst ∨ id = key := by
  unfold setKey
  split
  next hkey =>
    have hsame : (entries.map fun entry => if entry.1 = key then (key, value) else entry).map
        Prod.fst = entries.map Prod.fst := by
      rw [map_map]
      refine map_congr_left fun entry _ => ?_
      simp only [Function.comp_apply]
      split
      next heq =>
        exact heq.symm
      · rfl
    rw [hsame]
    refine ⟨.inl, ?_⟩
    rintro (h | rfl)
    · exact h
    · exact hkey
  · rw [map_append, mem_append, map_cons, map_nil, mem_singleton]

theorem mem_syncHints {id : String} :
    id ∈ r.syncHints.hints.map Prod.fst ↔ id ∈ r.sampler.hints.map Prod.fst ∨ id ∈ r.ids := by
  unfold syncHints ids
  generalize r.sampler = sampler
  induction r.hints generalizing sampler with
  | nil => simp
  | cons e hints ih =>
    rw [foldl_cons, ih, DownlinkSampler.setHints, mem_setKey, map_cons, mem_cons, or_assoc]

theorem length_assignReports (reports : List InboundReport) (matched : List ℕ)
    (hints : List ConsumerHint) : (assignReports reports matched hints).length = hints.length := by
  induction hints generalizing matched with
  | nil => rfl
  | cons hint hints ih => rw [assignReports, length_cons, ih, length_cons]

theorem ids_sample (sampler : DownlinkSampler) (rawStats : List StatsReport) :
    (sampler.sample (some rawStats)).map SubscriptionEntry.consumerId =
      sampler.hints.map Prod.fst := by
  have hzip : ∀ reports : List InboundReport,
      (sampler.matched reports).map Prod.fst = sampler.hints := by
    intro reports
    rw [DownlinkSampler.matched, map_fst_zip]
    rw [length_map, length_assignReports, length_map]
  rw [DownlinkSampler.sample, map_map, ← hzip, map_map]
  rfl

theorem mem_sampler_runFrom (peerId : String) (es : List ReporterEvent) (id : String) :
    id ∈ (Runs.runFrom (step · peerId) r es).sampler.hints.map Prod.fst ↔
      id ∈ r.sampler.hints.map Prod.fst ∨ Ticked peerId r es id := by
  induction es generalizing r with
  | nil => simp [Ticked, Runs.runFrom]
  | cons e es ih =>
    rw [Runs.runFrom_cons, ih, Ticked, ← or_assoc]
    refine or_congr_left ?_
    cases e with
    | tick nowMs rawStats =>
      refine Iff.trans (mem_syncHints r) ?_
      simp
    | _ => simp [step, updateHint]

/-- A consumer is reported, its hint is removed, and it is reported again. -/
theorem removed_consumer_reported :
    let r := Runs.runFrom (step · "alice") {}
      [.set "c" { producerId := "p" }, .tick 0 (some []), .remove "c"]
    r.ids = [] ∧
      (r.tick "alice" 2000 (some [])).2.subscriptions.map consumerId = ["c"] := by
  decide +kernel

/-- **A report is about the consumers with a hint exactly when none has lost its hint since an
earlier tick**, if there are statistics, and not more consumers than a snapshot takes. -/
theorem published_ids_iff (peerId : String) (es : List ReporterEvent) (nowMs : ℤ)
    (rawStats : List StatsReport)
    (hcount : ((Runs.runFrom (step · peerId) {} es).syncHints.hints).length ≤
      DOWNLINK_MAX_SUBSCRIPTIONS) :
    let r := Runs.runFrom (step · peerId) {} es
    let snapshot := (r.tick peerId nowMs (some rawStats)).2
    (∀ id, id ∈ snapshot.subscriptions.map consumerId ↔ id ∈ r.ids) ↔
      ∀ id, Ticked peerId {} es id → id ∈ r.ids := by
  intro r snapshot
  have hids : snapshot.subscriptions.map consumerId = r.syncHints.hints.map Prod.fst := by
    rw [← ids_sample r.syncHints rawStats]
    refine congrArg (List.map _) (take_of_length_le ?_)
    have hlen := congrArg List.length (ids_sample r.syncHints rawStats)
    rw [length_map, length_map] at hlen
    exact hlen ▸ hcount
  have hsampler : ∀ id, id ∈ r.sampler.hints.map Prod.fst ↔ Ticked peerId {} es id := fun id =>
    (mem_sampler_runFrom {} peerId es id).trans (or_iff_right not_mem_nil)
  simp only [hids, mem_syncHints, hsampler, or_iff_right_iff_imp]

theorem published_ids_iff_one :
    let r := Runs.runFrom (step · "alice") {} [.set "c" { producerId := "p" }]
    r.syncHints.hints.length ≤ DOWNLINK_MAX_SUBSCRIPTIONS ∧
      ∀ id, id ∈ (r.tick "alice" 0 (some [])).2.subscriptions.map consumerId ↔
        id ∈ r.ids := by
  refine ⟨by decide, (published_ids_iff "alice" [.set "c" { producerId := "p" }] 0 []
    (by decide)).mpr fun id hticked => ?_⟩
  simp [Ticked] at hticked

end DownlinkReporter

end MediasoupCpp
