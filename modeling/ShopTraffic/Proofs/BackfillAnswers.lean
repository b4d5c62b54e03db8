import Mathlib
import ShopTraffic.Backfill
import ShopTraffic.Proofs.Log

/-!
# What answers change in a backfill

A backfill waits for the answers to all batches of a flush and then goes on, whatever they are. Its
days, its batches and their numbers are the same with every sink that takes the same time; only the
count of failed deliveries and the notices tell which batches were refused.

* `BackfillState.Same` — states that differ in what answers left in them; `BackfillState.Grows` —
  failed deliveries are those refused;
* `generateSeat`, `flushFull`, `openDay`, `flushRest`, `closeDay` — the steps of a day;
* `flush_same`, `run_same` — one flush and a whole backfill, whatever is answered;
* `Flushes`, `run_flushes` — a backfill as flushes, with nothing handed over between them;
* `flush_grown`, `run_grows` — the failed deliveries of a flush and of a whole backfill;
* `flushBuffer_events` — a flush hands over what is buffered, once, and keeps nothing;
* `answers_ignored` — histories of a stream and backfills.
-/

set_option autoImplicit false

namespace ShopTraffic

/-! ## States -/

/-- A report without its failed deliveries. -/
def BackfillReport.withoutAnswers (r : BackfillReport) : BackfillReport :=
  { r with failedDeliveries := 0 }

namespace BackfillState

/-- A state without what answers left in it. -/
def withoutAnswers (st : BackfillState) : BackfillState :=
  { st with report := st.report.withoutAnswers, notices := #[] }

/-- Two states that differ in what answers left in them. -/
def Same (st st' : BackfillState) : Prop := st'.withoutAnswers = st.withoutAnswers

/-- What is written down about deliveries. -/
def ledger (st : BackfillState) : Books :=
  { issued := st.issued
    sent := st.sent
    counts := { failedDeliveries := st.report.failedDeliveries } }

/-- From one state to another batches were handed over under the next numbers, and those refused
were counted as failed. -/
def Grows (sink : Sink) (st st' : BackfillState) : Prop :=
  ∃ batches, st.ledger.Grown sink st'.ledger batches

/-- Goes on from a state unless it has broken off. -/
def andThen (st : BackfillState) (f : BackfillState → BackfillState) : BackfillState :=
  if st.crash.isSome then st else f st

variable {sink : Sink} {st st' st'' : BackfillState} {f f' : BackfillState → BackfillState}

theorem Same.congr {α : Type} (h : st.Same st') (g : BackfillState → α)
    (hg : ∀ st, g st.withoutAnswers = g st := by intro; rfl) : g st' = g st := by
  rw [← hg st', ← hg st]
  exact congrArg g h

theorem Same.andThen (h : st.Same st') (hf : (f st).Same (f' st')) :
    (st.andThen f).Same (st'.andThen f') := by
  have hcrash : st'.crash = st.crash := h.congr (·.crash)
  unfold BackfillState.andThen
  rw [hcrash]
  split
  · exact h
  · exact hf

theorem Grows.of_ledger (h : st'.ledger = st.ledger) : st.Grows sink st' :=
  ⟨[], h ▸ Books.Grown.refl sink st.ledger⟩

theorem Grows.trans (h : st.Grows sink st') (h' : st'.Grows sink st'') : st.Grows sink st'' := by
  obtain ⟨xs, hxs⟩ := h
  obtain ⟨ys, hys⟩ := h'
  exact ⟨xs ++ ys, hxs.trans hys⟩

end BackfillState

namespace Backfill

variable (b : Backfill) (generator : Generator) (clock : Clock) {sink sink' : Sink}
  {st st' : BackfillState}

/-! ## The steps of a day -/

/-- Generates the sessions of the user on a seat, if there is one. -/
def generateSeat (day : Day) (seat : Nat) (st : BackfillState) : BackfillState :=
  match st.population.users[seat]? with
  | some user => b.generateUserDay generator day user st
  | none => st

/-- Delivers what is buffered if it is more than the threshold. -/
def flushFull (sink : Sink) (day : Day) (active left : Nat) (st : BackfillState) : BackfillState :=
  if b.settings.flushThreshold < st.buffer.size then
    b.flushBuffer sink clock (st.notify [.bufferFlushed day active left])
  else st

/-- Draws the users of a day. -/
def openDay (day : Day) (st : BackfillState) : List Nat × BackfillState :=
  let (count, source) := b.activeCount.draw st.source
  let (seats, source) := st.population.sample count source
  let st : BackfillState := { st with source, dayEvents := 0 }
  (seats, st.notify [.dayStarted day seats.length st.population.size])

/-- Delivers what is buffered at the end of a day. -/
def flushRest (sink : Sink) (st : BackfillState) : BackfillState :=
  if st.crash.isSome ∨ st.buffer.isEmpty then st else b.flushBuffer sink clock st

/-- Counts a day. -/
def closeDay (day : Day) (st : BackfillState) : BackfillState :=
  { st.notify [.dayDelivered day st.dayEvents] with
    report := { st.report with days := st.report.days + 1 } }

theorem runUsers_cons (sink : Sink) (day : Day) (active seat : Nat) (rest : List Nat)
    (st : BackfillState) :
    b.runUsers generator sink clock day active (seat :: rest) st =
      (b.generateSeat generator day seat st).andThen fun st =>
        (b.flushFull clock sink day active rest.length st).andThen
          (b.runUsers generator sink clock day active rest) := rfl

theorem runGrown_eq (sink : Sink) (day : Day) (st : BackfillState) :
    b.runGrown generator sink clock day st =
      (b.flushRest clock sink (b.runUsers generator sink clock day (b.openDay day st).1.length
        (b.openDay day st).1 (b.openDay day st).2)).andThen (closeDay day) := rfl

/-- Lets the newcomers of a day join, if they find room, and runs the day. -/
def growDay (sink : Sink) (day : Day) (st : BackfillState) : BackfillState :=
  match st.population.checkedGrow b.newUsersPerDay st.source with
  | .error crash => { st with crash := some crash }
  | .ok (population, source) => b.runGrown generator sink clock day { st with population, source }

/-- Closes the report. -/
def closeReport (st : BackfillState) : BackfillState :=
  let report := { st.report with users := st.population.size }
  { st with report }.notify [.backfillFinished report.days report.events report.deliveries]

theorem runDay_eq (sink : Sink) (day : Day) (st : BackfillState) :
    b.runDay generator sink clock day st = st.andThen (b.growDay generator clock sink day) := rfl

theorem runDays_eq (sink : Sink) (days : List Day) (st : BackfillState) :
    b.runDays generator sink clock days st =
      (days.foldl (fun st day => b.runDay generator sink clock day st) st).andThen closeReport := rfl

/-! ## Whatever is answered -/

section Same

/-- **One flush** goes the same way, whatever is answered. -/
theorem flush_same (h : sink.Alike sink') (events : List Event) (hst : st.Same st') :
    (b.flush sink clock events st).Same (b.flush sink' clock events st') := by
  have hcalm : ∀ {sink : Sink}, (∀ b, sink.crash? b = none) → ∀ batches : List Batch,
      batches.findSome? sink.crash? = none := fun hcalm batches =>
    List.findSome?_eq_none_iff.2 fun b _ => hcalm b
  have hforget : ∀ {sink : Sink} (st : BackfillState), (∀ b, sink.crash? b = none) →
      (b.flush sink clock events st).withoutAnswers =
        (b.flush { latency := sink.latency } clock events st.withoutAnswers).withoutAnswers := by
    intro sink st hsink
    have hnone : ∀ b, ({ latency := sink.latency } : Sink).crash? b = none := fun _ => rfl
    unfold flush
    simp only [hcalm hsink, hcalm hnone]
    rfl
  have hlatency : sink'.latency = sink.latency := funext h.latency
  unfold BackfillState.Same at hst ⊢
  rw [hforget st' h.calm', hforget st h.calm, hst, hlatency]

theorem flushBuffer_same (h : sink.Alike sink') (hst : st.Same st') :
    (b.flushBuffer sink clock st).Same (b.flushBuffer sink' clock st') := by
  have hbuffer : st'.buffer = st.buffer := hst.congr (·.buffer)
  unfold flushBuffer
  rw [hbuffer]
  refine b.flush_same clock h _ ?_
  exact hst.congr fun st => ({ st with
    buffer := #[], dayEvents := st.dayEvents + _ } : BackfillState).withoutAnswers

theorem generateUserDay_same (day : Day) (user : User) (hst : st.Same st') :
    (b.generateUserDay generator day user st).Same (b.generateUserDay generator day user st') := by
  refine hst.congr (fun st => (b.generateUserDay generator day user st).withoutAnswers) ?_
  intro st
  have hsource : st.withoutAnswers.source = st.source := rfl
  unfold generateUserDay
  simp only [hsource]
  generalize (b.planner.planDay day.start st.source) = planned
  obtain ⟨starts, source⟩ := planned
  generalize runSessions generator starts user source = session
  cases session.stop with
  | none => rfl
  | some stop => cases stop <;> rfl

theorem generateSeat_same (day : Day) (seat : Nat) (hst : st.Same st') :
    (b.generateSeat generator day seat st).Same (b.generateSeat generator day seat st') := by
  have hpopulation : st'.population = st.population := hst.congr (·.population)
  unfold generateSeat
  rw [hpopulation]
  cases st.population.users[seat]? with
  | none => exact hst
  | some user => exact b.generateUserDay_same generator day user hst

theorem flushFull_same (h : sink.Alike sink') (day : Day) (active left : Nat) (hst : st.Same st') :
    (b.flushFull clock sink day active left st).Same
      (b.flushFull clock sink' day active left st') := by
  have hbuffer : st'.buffer = st.buffer := hst.congr (·.buffer)
  unfold flushFull
  rw [hbuffer]
  split
  · exact b.flushBuffer_same clock h hst
  · exact hst

theorem flushRest_same (h : sink.Alike sink') (hst : st.Same st') :
    (b.flushRest clock sink st).Same (b.flushRest clock sink' st') := by
  have hbuffer : st'.buffer = st.buffer := hst.congr (·.buffer)
  have hcrash : st'.crash = st.crash := hst.congr (·.crash)
  unfold flushRest
  rw [hbuffer, hcrash]
  split
  · exact hst
  · exact b.flushBuffer_same clock h hst

theorem runUsers_same (h : sink.Alike sink') (day : Day) (active : Nat) (seats : List Nat)
    (hst : st.Same st') :
    (b.runUsers generator sink clock day active seats st).Same
      (b.runUsers generator sink' clock day active seats st') := by
  induction seats generalizing st st' with
  | nil => exact hst
  | cons seat rest ih =>
    rw [runUsers_cons, runUsers_cons]
    have hseat := b.generateSeat_same generator day seat hst
    refine hseat.andThen ?_
    have hfull := b.flushFull_same clock h day active rest.length hseat
    exact hfull.andThen (ih hfull)

theorem runGrown_same (h : sink.Alike sink') (day : Day) (hst : st.Same st') :
    (b.runGrown generator sink clock day st).Same (b.runGrown generator sink' clock day st') := by
  have hseats : (b.openDay day st').1 = (b.openDay day st).1 :=
    hst.congr fun st => (b.openDay day st).1
  have hopened : (b.openDay day st).2.Same (b.openDay day st').2 :=
    hst.congr fun st => (b.openDay day st).2.withoutAnswers
  rw [runGrown_eq, runGrown_eq, hseats]
  have husers := b.runUsers_same generator clock h day (b.openDay day st).1.length
    (b.openDay day st).1 hopened
  have hrest := b.flushRest_same clock h husers
  exact hrest.andThen (hrest.congr fun st => (closeDay day st).withoutAnswers)

theorem runDay_same (h : sink.Alike sink') (day : Day) (hst : st.Same st') :
    (b.runDay generator sink clock day st).Same (b.runDay generator sink' clock day st') := by
  rw [runDay_eq, runDay_eq]
  refine hst.andThen ?_
  have hpopulation : st'.population = st.population := hst.congr (·.population)
  have hsource : st'.source = st.source := hst.congr (·.source)
  have hgrown : st'.population.checkedGrow b.newUsersPerDay st'.source =
      st.population.checkedGrow b.newUsersPerDay st.source := by
    rw [hpopulation, hsource]
  unfold growDay
  rw [hgrown]
  cases st.population.checkedGrow b.newUsersPerDay st.source with
  | error crash =>
    exact hst.congr fun st => ({ st with crash := some crash } : BackfillState).withoutAnswers
  | ok grown =>
    obtain ⟨population, source⟩ := grown
    refine b.runGrown_same generator clock h day ?_
    exact hst.congr fun st => ({ st with population, source } : BackfillState).withoutAnswers

theorem foldl_runDay_same (h : sink.Alike sink') (days : List Day) (hst : st.Same st') :
    (days.foldl (fun st day => b.runDay generator sink clock day st) st).Same
      (days.foldl (fun st day => b.runDay generator sink' clock day st) st') := by
  induction days generalizing st st' with
  | nil => exact hst
  | cons day days ih => exact ih (b.runDay_same generator clock h day hst)

/-- **A whole backfill** goes the same way, whatever is answered. -/
theorem run_same (h : sink.Alike sink') (today : Day) (hst : st.Same st') :
    (b.run generator sink clock today st).Same (b.run generator sink' clock today st') := by
  unfold run
  cases today.checkedPreceding b.settings.days with
  | error crash =>
    exact hst.congr fun st => ({ st with crash := some crash } : BackfillState).withoutAnswers
  | ok days =>
    have hdays := b.foldl_runDay_same generator clock h days hst
    exact hdays.andThen (hdays.congr fun st => (closeReport st).withoutAnswers)

end Same

/-! ## Flushes -/

/-- From one state to another batches were handed over by flushes alone: between them nothing is
handed over and no progress is told. -/
inductive Flushes (b : Backfill) (sink : Sink) (clock : Clock) : BackfillState → BackfillState → Prop
  | quiet {st st' : BackfillState} : st'.ledger = st.ledger →
    told Notice.progress? st'.notices = told Notice.progress? st.notices → Flushes b sink clock st st'
  | flush (events : List Event) (st : BackfillState) :
    Flushes b sink clock st (b.flush sink clock events st)
  | trans {st st' st'' : BackfillState} : Flushes b sink clock st st' →
    Flushes b sink clock st' st'' → Flushes b sink clock st st''

section Flushes

variable {b} {clock}

theorem Flushes.refl (st : BackfillState) : b.Flushes sink clock st st := .quiet rfl rfl

theorem Flushes.andThen {f : BackfillState → BackfillState} (h : b.Flushes sink clock st st')
    (hf : b.Flushes sink clock st' (f st')) : b.Flushes sink clock st (st'.andThen f) := by
  unfold BackfillState.andThen
  split
  · exact h
  · exact h.trans hf

/-- One notice more, and it tells no progress. -/
theorem Flushes.telling {n : Notice} (hledger : st'.ledger = st.ledger)
    (hnotices : st'.notices = st.notices ++ [n]) (hn : n.progress? = none) :
    b.Flushes sink clock st st' := by
  refine .quiet hledger ?_
  rw [hnotices, told_append, List.filterMap_cons_none hn, List.filterMap_nil, List.append_nil]

variable (b) (clock) (sink)

theorem flushBuffer_flushes (st : BackfillState) :
    b.Flushes sink clock st (b.flushBuffer sink clock st) := by
  have hcleared : b.Flushes sink clock st
      { st with buffer := #[], dayEvents := st.dayEvents + st.buffer.toList.length } :=
    .quiet rfl rfl
  exact hcleared.trans (.flush st.buffer.toList _)

theorem generateSeat_flushes (day : Day) (seat : Nat) (st : BackfillState) :
    b.Flushes sink clock st (b.generateSeat generator day seat st) := by
  unfold generateSeat
  split
  · unfold generateUserDay
    simp only
    split
    · exact .quiet rfl rfl
    · exact .quiet rfl rfl
    · exact .telling rfl rfl rfl
  · exact .refl st

theorem flushFull_flushes (day : Day) (active left : Nat) (st : BackfillState) :
    b.Flushes sink clock st (b.flushFull clock sink day active left st) := by
  unfold flushFull
  split
  · have htold : b.Flushes sink clock st (st.notify [.bufferFlushed day active left]) :=
      .telling rfl rfl rfl
    exact htold.trans (b.flushBuffer_flushes clock sink _)
  · exact .refl st

theorem flushRest_flushes (st : BackfillState) :
    b.Flushes sink clock st (b.flushRest clock sink st) := by
  unfold flushRest
  split
  · exact .refl st
  · exact b.flushBuffer_flushes clock sink st

theorem runUsers_flushes (day : Day) (active : Nat) (seats : List Nat) (st : BackfillState) :
    b.Flushes sink clock st (b.runUsers generator sink clock day active seats st) := by
  induction seats generalizing st with
  | nil => exact .refl st
  | cons seat rest ih =>
    rw [runUsers_cons]
    refine (b.generateSeat_flushes generator clock sink day seat st).andThen ?_
    exact (b.flushFull_flushes clock sink day active rest.length _).andThen (ih _)

theorem openDay_flushes (day : Day) (st : BackfillState) :
    b.Flushes sink clock st (b.openDay day st).2 := by
  unfold openDay
  generalize b.activeCount.draw st.source = drawn
  obtain ⟨count, source⟩ := drawn
  simp only
  generalize st.population.sample count source = sampled
  obtain ⟨seats, source⟩ := sampled
  exact .telling rfl rfl rfl

/-- To close a day or the report hands nothing over. -/
theorem closeDay_flushes (day : Day) (st : BackfillState) :
    b.Flushes sink clock st (closeDay day st) := .telling rfl rfl rfl

theorem closeReport_flushes (st : BackfillState) : b.Flushes sink clock st (closeReport st) :=
  .telling rfl rfl rfl

theorem runGrown_flushes (day : Day) (st : BackfillState) :
    b.Flushes sink clock st (b.runGrown generator sink clock day st) := by
  rw [runGrown_eq]
  have husers := (b.openDay_flushes clock sink day st).trans (b.runUsers_flushes generator clock sink day
    (b.openDay day st).1.length (b.openDay day st).1 (b.openDay day st).2)
  have hrest := husers.trans (b.flushRest_flushes clock sink _)
  exact hrest.andThen (b.closeDay_flushes clock sink day _)

theorem runDay_flushes (day : Day) (st : BackfillState) :
    b.Flushes sink clock st (b.runDay generator sink clock day st) := by
  rw [runDay_eq]
  refine (Flushes.refl st).andThen ?_
  unfold growDay
  split
  · exact .quiet rfl rfl
  · rename_i population source _
    have hjoined : b.Flushes sink clock st { st with population, source } := .quiet rfl rfl
    exact hjoined.trans (b.runGrown_flushes generator clock sink day _)

theorem foldl_runDay_flushes (days : List Day) (st : BackfillState) :
    b.Flushes sink clock st
      (days.foldl (fun st day => b.runDay generator sink clock day st) st) := by
  induction days generalizing st with
  | nil => exact .refl st
  | cons day days ih => exact (b.runDay_flushes generator clock sink day st).trans (ih _)

/-- **A whole backfill** hands over by flushes alone. -/
theorem run_flushes (today : Day) (st : BackfillState) :
    b.Flushes sink clock st (b.run generator sink clock today st) := by
  unfold run
  split
  · exact .quiet rfl rfl
  · rename_i days _
    rw [runDays_eq]
    have hdays := b.foldl_runDay_flushes generator clock sink days st
    exact hdays.andThen (b.closeReport_flushes clock sink _)

end Flushes

/-! ## Failed deliveries -/

section Grows

theorem length_failuresOf (sink : Sink) (sent : List Sent) :
    (failuresOf sink sent).length = (sink.refused sent).length := by
  unfold failuresOf Sink.refused
  induction sent with
  | nil => rfl
  | cons d rest ih =>
    rw [List.filterMap_cons, List.filter_cons]
    cases sink.answer d.number d.batch with
    | error cause => simpa [Except.isOk, Except.toBool] using ih
    | ok _ => simpa [Except.isOk, Except.toBool] using ih

theorem flush_issued (sink : Sink) (events : List Event) (st : BackfillState) :
    (b.flush sink clock events st).issued =
      st.issued + (b.batchesOf clock st.elapsed events).length := by
  unfold flush
  simp only
  split <;> rfl

theorem flush_sent (sink : Sink) (events : List Event) (st : BackfillState) :
    (b.flush sink clock events st).sent =
      st.sent ++ numberFrom st.issued (b.batchesOf clock st.elapsed events) := by
  unfold flush
  simp only
  split <;> rfl

/-- **The failed deliveries of a flush** are those that the sink refuses. -/
theorem flush_grown (hsink : ∀ b, sink.crash? b = none) (events : List Event) (st : BackfillState) :
    st.ledger.Grown sink (b.flush sink clock events st).ledger
      (b.batchesOf clock st.elapsed events) := by
  have hcalm : (b.batchesOf clock st.elapsed events).findSome? sink.crash? = none :=
    List.findSome?_eq_none_iff.2 fun b _ => hsink b
  constructor
  · exact b.flush_issued clock sink events st
  · show (b.flush sink clock events st).sent.toList = _
    rw [flush_sent, Array.toList_appendList]
    rfl
  · unfold flush
    simp only [hcalm]
    exact congrArg (st.report.failedDeliveries + ·) (length_failuresOf sink _)

theorem Flushes.grows (h : b.Flushes sink clock st st') (hsink : ∀ b, sink.crash? b = none) :
    st.Grows sink st' := by
  induction h with
  | quiet hledger _ => exact .of_ledger hledger
  | flush events st => exact ⟨_, b.flush_grown clock hsink events st⟩
  | trans _ _ ih ih' => exact ih.trans ih'

/-- **The failed deliveries of a whole backfill** are those that the sink refuses. -/
theorem run_grows (hsink : ∀ b, sink.crash? b = none) (today : Day) (st : BackfillState) :
    st.Grows sink (b.run generator sink clock today st) :=
  (b.run_flushes generator clock sink today st).grows b clock hsink

end Grows

/-! ## Nothing twice -/

/-- The batches of a flush hold its events in order of time. -/
theorem events_batchesOf (elapsed : Nat) (events : List Event) :
    (b.batchesOf clock elapsed events).flatMap (·.events) = byTime events := by
  unfold batchesOf
  rw [List.flatMap_map]
  show (chunksOf b.settings.eventsPerRequest (byTime events)).flatMap (fun chunk => chunk) = _
  rw [List.flatMap_id', flatten_chunksOf b.batch_pos]

/-- **A flush hands over what is buffered, once**, and keeps nothing, whatever is answered. -/
theorem flushBuffer_events (sink : Sink) (st : BackfillState) :
    (((b.flushBuffer sink clock st).sent.toList.flatMap (·.batch.events) : List Event) :
        Multiset Event) =
        (st.sent.toList.flatMap (·.batch.events) : List Event) + (st.buffer.toList : Multiset Event) ∧
      (b.flushBuffer sink clock st).buffer = #[] := by
  constructor
  · unfold flushBuffer
    rw [flush_sent, Array.toList_appendList, List.flatMap_append, events_numberFrom,
      events_batchesOf, ← Multiset.coe_add]
    congr 1
    exact Multiset.coe_eq_coe.2 (byTime_perm _)
  · unfold flushBuffer flush
    simp only
    split <;> rfl

end Backfill

/-! ## Streams and backfills -/

/-- A stream takes no notice of the answers of its sinks: with others that take the same time it
goes the same way, refused batches are counted and never handed over again or left for another window. -/
structure Streamer.IgnoresAnswers (s : Streamer) (st : StreamState) (os os' : List Occasion) :
    Prop where
  same : s.recordWithoutAnswers os' st = s.recordWithoutAnswers os st
  failed : ∀ es st', s.record os' st = .ok (es, st') →
    st'.books.sent.toList = st.books.sent.toList ++ es.flatMap (·.sent) ∧
      st'.books.counts.failedDeliveries =
        st.books.counts.failedDeliveries + (es.flatMap (·.refused)).length
  once : ∀ es st', s.record os' st = .ok (es, st') →
    ((st'.books.batches.flatMap (·.events) : List Event) : Multiset Event) + st'.backlog.events ≤
      ((st.books.batches.flatMap (·.events) : List Event) + st.backlog.events) +
        (es.flatMap (Episode.kept s) : List Event)

/-- A backfill takes no notice of the answers of its sink. -/
structure Backfill.IgnoresAnswers (b : Backfill) (generator : Generator) (sink sink' : Sink)
    (clock : Clock) (today : Day) (st : BackfillState) : Prop where
  same : (b.run generator sink' clock today st).withoutAnswers =
    (b.run generator sink clock today st).withoutAnswers
  failed : ∃ batches, st.ledger.Grown sink' (b.run generator sink' clock today st).ledger batches
  once : ∀ st, (((b.flushBuffer sink' clock st).sent.toList.flatMap (·.batch.events) : List Event) :
      Multiset Event) =
      (st.sent.toList.flatMap (·.batch.events) : List Event) + (st.buffer.toList : Multiset Event) ∧
    (b.flushBuffer sink' clock st).buffer = #[]

/-- **Answers are never fed back**, neither into a stream, from its start through any history, nor
into a backfill, from any state. -/
theorem answers_ignored :
    (∀ (s : Streamer) (population : Population) (entropy : Nat) {os os' : List Occasion},
      List.Forall₂ Occasion.Alike os os' →
        s.IgnoresAnswers (s.start population entropy) os os') ∧
    ∀ (b : Backfill) (generator : Generator) {sink sink' : Sink} (clock : Clock) (today : Day)
      (st : BackfillState), sink.Alike sink' →
        b.IgnoresAnswers generator sink sink' clock today st := by
  constructor
  · intro s population entropy os os' hos
    have hcalm : ∀ o' ∈ os', ∀ b, o'.around.sink.crash? b = none := by
      intro o' ho'
      obtain ⟨o, -, halike⟩ := exists_left_of_forall₂ hos ho'
      exact halike.sink.calm'
    constructor
    · exact s.record_withoutAnswers hos rfl
    · intro es st' h
      exact (Streamer.recorded_of_record h).grown hcalm
    · intro es st' h
      exact (Streamer.recorded_of_record h).events_le (Streamer.start_sound s population entropy)
  · intro b generator sink sink' clock today st h
    constructor
    · exact b.run_same generator clock h today rfl
    · exact b.run_grows generator clock h.calm' today st
    · exact b.flushBuffer_events clock sink'

/-- The surroundings of the small stream with a sink that refuses everything. -/
def Surroundings.refused : Surroundings := { Surroundings.twoEvents with sink := .unavailable }

/-- A backfill of two days for one user. -/
def Backfill.twoDays : Backfill where
  settings := { days := 2, eventsPerRequest := 3, allUsers := 4 }
  batch_pos := by decide
  newUsersPerDay := 0
  activeCount := Streamer.daily.activeCount
  planner := Streamer.daily.planner
  progressEvery := 1

theorem Sink.alike_unavailable : Sink.accepting.Alike .unavailable :=
  ⟨fun _ => rfl, fun _ => rfl, fun _ => rfl⟩

theorem answers_ignored_daily :
    List.Forall₂ Occasion.Alike Occasion.twoDays
        [{ around := .refused }, { around := .refused }] ∧
      Streamer.daily.IgnoresAnswers (Streamer.daily.start .single 0) Occasion.twoDays
        [{ around := .refused }, { around := .refused }] ∧
      Sink.accepting.Alike .unavailable ∧
      Backfill.twoDays.IgnoresAnswers Surroundings.twoEvents.generator .accepting .unavailable
        (.startingAt .zero) ⟨5, by decide⟩ { population := .single, source := .ofSeed 0 } := by
  have halike : Occasion.Alike { around := .twoEvents } { around := .refused } :=
    ⟨rfl, rfl, Sink.alike_unavailable⟩
  have hos : List.Forall₂ Occasion.Alike Occasion.twoDays
      [{ around := .refused }, { around := .refused }] := .cons halike (.cons halike .nil)
  exact ⟨hos, answers_ignored.1 Streamer.daily .single 0 hos, Sink.alike_unavailable,
    answers_ignored.2 Backfill.twoDays _ _ _ _ Sink.alike_unavailable⟩

end ShopTraffic
