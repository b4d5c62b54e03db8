import Mathlib
import ShopTraffic.Proofs.Answers
import ShopTraffic.Proofs.BackfillAnswers
import ShopTraffic.Proofs.Calls
import ShopTraffic.Proofs.Limits

/-!
# What a backfill ships

What is generated depends on the settings, the users and the source alone, never on deliveries: the
calls of the generator for the users of the days, one after the other, fill buffers, and the buffers
are handed over in waves of batches, each when the one before is answered. A backfill that breaks off
has handed over the first of these buffers; one that does not break off has handed them all over,
once, and counted them.

* `Work` — users and the buffers that they fill; `spill`, `buffersOf` — how a day fills them;
* `seatDays`, `dayWork`, `daysWork`, `work` — the work of a day, of days and of a whole backfill;
* `waves` — the batches of buffers in turn;
* `Hands`, `Counts` — buffers handed over, and work counted in the report;
* `Ships`, `Ships.andThen` — a stretch of a backfill that may break off, and two of them in a row;
* `runUsers_ships`, `runGrown_ships`, `run_ships` — the users of a day, a day, and a whole backfill.
-/

set_option autoImplicit false

namespace ShopTraffic

open Chance

/-! ## Work -/

/-- One user on one day: its seat and the calls of the generator for its sessions. -/
structure UserDay where
  day : Day
  seat : Nat
  calls : List Call

/-- Everything the calls of the day emitted, also one that failed. -/
def UserDay.events (u : UserDay) : List Event := u.calls.flatMap (·.session.events)

/-- Why a call of the day stopped early. -/
def UserDay.stop (u : UserDay) : Option (Stop GenerationError) :=
  u.calls.findSome? (·.session.stop)

/-- The sessions of the day could not be completed. -/
def UserDay.failed (u : UserDay) : Bool :=
  match u.stop with
  | some (.error _) => true
  | _ => false

/-- What a stretch of a backfill has to do: days to complete, users to generate and buffers to
deliver. -/
structure Work where
  days : Nat := 0
  users : List UserDay := []
  buffers : List (List Event) := []

/-- The work of two stretches in a row. -/
def Work.followedBy (w w' : Work) : Work :=
  ⟨w.days + w'.days, w.users ++ w'.users, w.buffers ++ w'.buffers⟩

/-- The buffers that are full before the day is over, and what is left then. After each user, a
buffer of more than the threshold is full. -/
def spill (threshold : Nat) : (held : List Event) → List (List Event) →
    List (List Event) × List Event
  | held, [] => ([], held)
  | held, events :: rest =>
    if threshold < (held ++ events).length then
      let spilled := spill threshold [] rest
      ((held ++ events) :: spilled.1, spilled.2)
    else spill threshold (held ++ events) rest

/-- What is left at the end of a day, if anything. -/
def remainder (left : List Event) : List (List Event) := if left.isEmpty then [] else [left]

/-- The buffers that the users of a day fill. -/
def buffersOf (threshold : Nat) (users : List UserDay) : List (List Event) :=
  let spilled := spill threshold [] (users.map (·.events))
  spilled.1 ++ remainder spilled.2

/-- Nothing is lost between buffers and nothing is in two of them. -/
theorem flatten_spill (threshold : Nat) (held : List Event) (rest : List (List Event)) :
    (spill threshold held rest).1.flatten ++ (spill threshold held rest).2 =
      held ++ rest.flatten := by
  induction rest generalizing held with
  | nil => simp [spill]
  | cons events rest ih =>
    rw [spill, List.flatten_cons, ← List.append_assoc]
    split
    · rw [List.flatten_cons, List.append_assoc, ih, List.nil_append]
    · exact ih _

theorem flatten_remainder (left : List Event) : (remainder left).flatten = left := by
  unfold remainder
  split
  · rename_i h
    rw [List.isEmpty_iff.1 h, List.flatten_nil]
  · simp

/-- **The buffers of a day hold what its users emitted**, in that order. -/
theorem flatten_buffersOf (threshold : Nat) (users : List UserDay) :
    (buffersOf threshold users).flatten = users.flatMap (·.events) := by
  unfold buffersOf
  rw [List.flatten_append, flatten_remainder, flatten_spill, List.nil_append, List.flatMap_def]

/-- A full buffer is over the threshold by no more than one user emitted, and what is left is not
over it. -/
theorem spill_length_le {threshold k : Nat} (held : List Event) {rest : List (List Event)}
    (hheld : held.length ≤ threshold) (hrest : ∀ events ∈ rest, events.length ≤ k) :
    (∀ buffer ∈ (spill threshold held rest).1, buffer ≠ [] ∧ buffer.length ≤ threshold + k) ∧
      (spill threshold held rest).2.length ≤ threshold := by
  induction rest generalizing held with
  | nil => exact ⟨by simp [spill], hheld⟩
  | cons events rest ih =>
    obtain ⟨hevents, hrest⟩ := List.forall_mem_cons.1 hrest
    rw [spill]
    split
    · rename_i hfull
      obtain ⟨hbuffers, hleft⟩ := ih [] (Nat.zero_le _) hrest
      refine ⟨?_, hleft⟩
      rw [List.forall_mem_cons]
      refine ⟨⟨List.length_pos_iff.1 (by omega), ?_⟩, hbuffers⟩
      rw [List.length_append]
      omega
    · exact ih _ (by omega) hrest

/-- **No buffer is empty**, and none is over the threshold by more than one user emitted. -/
theorem buffersOf_length_le {threshold k : Nat} {users : List UserDay}
    (h : ∀ u ∈ users, u.events.length ≤ k) :
    ∀ buffer ∈ buffersOf threshold users, buffer ≠ [] ∧ buffer.length ≤ threshold + k := by
  have hevents : ∀ events ∈ users.map (·.events), events.length ≤ k := by
    intro events hmem
    obtain ⟨u, hu, rfl⟩ := List.mem_map.1 hmem
    exact h u hu
  obtain ⟨hfull, hleft⟩ := spill_length_le [] (Nat.zero_le threshold) hevents
  intro buffer hbuffer
  rcases List.mem_append.1 hbuffer with hmem | hmem
  · exact hfull buffer hmem
  · unfold remainder at hmem
    split at hmem
    · cases hmem
    · rename_i hempty
      rw [List.mem_singleton.1 hmem]
      refine ⟨fun h0 => hempty (List.isEmpty_iff.2 h0), ?_⟩
      omega

/-- What a backfill goes on with: its population, its source and what is buffered. -/
def BackfillState.hand (st : BackfillState) : Population × Source × List Event :=
  (st.population, st.source, st.buffer.toList)

/-- What a backfill goes on with once the sessions of a user are generated. -/
def BackfillState.handAfter (st : BackfillState) (session : Session) :
    Population × Source × List Event :=
  (st.population.put session.user, session.source, st.buffer.toList ++ session.events)

theorem BackfillState.andThen_of_none {st : BackfillState} {f : BackfillState → BackfillState}
    (h : st.crash = none) : st.andThen f = f st := by
  unfold andThen
  rw [h]
  rfl

/-- How long the answers to some batches take that are on their way at once. -/
def Sink.slowest (sink : Sink) (batches : List Batch) : Nat :=
  (batches.map sink.latency).foldl max 0

/-- Numbers change nothing about batches. -/
theorem map_batch_numberFrom (issued : Nat) (batches : List Batch) :
    (numberFrom issued batches).map (·.batch) = batches := by
  induction batches generalizing issued with
  | nil => rfl
  | cons batch rest ih => rw [numberFrom_cons, List.map_cons, ih]

namespace Backfill

variable (b : Backfill) (generator : Generator)

/-- The calls for the users on the given seats on a day, and the population and the source that they
leave. -/
def seatDays (day : Day) : List Nat → Population → Source → List UserDay × Population × Source
  | [], p, s => ([], p, s)
  | seat :: rest, p, s =>
    match p.users[seat]? with
    | none => seatDays day rest p s
    | some user =>
      let planned := b.planner.planDay day.start s
      let calls := callsFrom generator planned.1 user planned.2
      let left := leftBy calls user planned.2
      let later := seatDays day rest (p.put left.1) left.2
      (⟨day, seat, calls⟩ :: later.1, later.2)

/-- The work of the users on the given seats, with something held already, and what is at hand then:
the population, the source and what is held. -/
def seatsWork (day : Day) (held : List Event) (seats : List Nat) (p : Population) (s : Source) :
    Work × Population × Source × List Event :=
  let users := b.seatDays generator day seats p s
  let spilled := spill b.settings.flushThreshold held (users.1.map (·.events))
  (⟨0, users.1, spilled.1⟩, users.2.1, users.2.2, spilled.2)

/-- The work of one day that the population has grown for. -/
def dayWork (day : Day) (p : Population) (s : Source) : Work × Population × Source :=
  let count := b.activeCount.draw s
  let seats := p.sample count.1 count.2
  let users := b.seatDays generator day seats.1 p seats.2
  (⟨1, users.1, buffersOf b.settings.flushThreshold users.1⟩, users.2)

/-- The work of some days, up to one whose newcomers find no room. -/
def daysWork : List Day → Population → Source → Work × Population × Source
  | [], p, s => ({}, p, s)
  | day :: rest, p, s =>
    match p.checkedGrow b.newUsersPerDay s with
    | .error _ => ({}, p, s)
    | .ok grown =>
      let first := b.dayWork generator day grown.1 grown.2
      let later := daysWork rest first.2.1 first.2.2
      (first.1.followedBy later.1, later.2)

/-- The work of the days before `today`. -/
def work (today : Day) (p : Population) (s : Source) : Work :=
  match today.checkedPreceding b.settings.days with
  | .error _ => {}
  | .ok days => (b.daysWork generator days p s).1

/-! ## Waves -/

/-- The moment when the batches of buffers are all answered, one buffer after the other. -/
def answeredAt (sink : Sink) (clock : Clock) : (elapsed : Nat) → List (List Event) → Nat
  | elapsed, [] => elapsed
  | elapsed, buffer :: rest =>
    answeredAt sink clock (elapsed + sink.slowest (b.batchesOf clock elapsed buffer)) rest

/-- The batches of buffers, each handed over when the batches of the one before are answered. -/
def waves (sink : Sink) (clock : Clock) : (elapsed : Nat) → List (List Event) → List (List Batch)
  | _, [] => []
  | elapsed, buffer :: rest =>
    let batches := b.batchesOf clock elapsed buffer
    batches :: waves sink clock (elapsed + sink.slowest batches) rest

section Waves

variable (sink : Sink) (clock : Clock) (elapsed : Nat) (fs gs : List (List Event))

theorem answeredAt_append :
    b.answeredAt sink clock elapsed (fs ++ gs) =
      b.answeredAt sink clock (b.answeredAt sink clock elapsed fs) gs := by
  induction fs generalizing elapsed with
  | nil => rfl
  | cons f fs ih => exact ih _

theorem waves_append :
    b.waves sink clock elapsed (fs ++ gs) =
      b.waves sink clock elapsed fs ++
        b.waves sink clock (b.answeredAt sink clock elapsed fs) gs := by
  induction fs generalizing elapsed with
  | nil => rfl
  | cons f fs ih => exact congrArg (_ :: ·) (ih _)

end Waves

/-! ## Handed over and counted -/

variable {sink : Sink} {clock : Clock} {st st' st'' : BackfillState} {w w' : Work}
  {hand hand' : Population × Source × List Event}

/-- From one state to another the given buffers were handed over, wave after wave, under the next
numbers. -/
structure Hands (b : Backfill) (sink : Sink) (clock : Clock) (buffers : List (List Event))
    (st st' : BackfillState) : Prop where
  sent : st'.sent.toList =
    st.sent.toList ++ numberFrom st.issued (b.waves sink clock st.elapsed buffers).flatten
  issued : st'.issued = st.issued + (b.waves sink clock st.elapsed buffers).flatten.length
  elapsed : st'.elapsed = b.answeredAt sink clock st.elapsed buffers

/-- From one state to another some work was done and counted. -/
structure Counts (b : Backfill) (sink : Sink) (clock : Clock) (w : Work)
    (st st' : BackfillState) : Prop extends b.Hands sink clock w.buffers st st' where
  days : st'.report.days = st.report.days + w.days
  events : st'.report.events = st.report.events + w.buffers.flatten.length
  deliveries : st'.report.deliveries =
    st.report.deliveries + (b.waves sink clock st.elapsed w.buffers).flatten.length
  failedUsers : st'.report.failedUsers = st.report.failedUsers + (w.users.filter (·.failed)).length

/-- A stretch of a backfill that may break off: it has handed over the first buffers of its work, and
if it has not broken off, all of its work is done and it goes on with what is at hand. -/
structure Ships (b : Backfill) (sink : Sink) (clock : Clock) (w : Work)
    (hand : Population × Source × List Event) (st st' : BackfillState) : Prop where
  handed : ∃ buffers, buffers <+: w.buffers ∧ b.Hands sink clock buffers st st'
  done : st'.crash = none → b.Counts sink clock w st st' ∧ st'.hand = hand

section Handing

variable {b}

theorem Hands.trans {fs gs : List (List Event)} (h : b.Hands sink clock fs st st')
    (h' : b.Hands sink clock gs st' st'') : b.Hands sink clock (fs ++ gs) st st'' := by
  constructor
  · rw [h'.sent, h.sent, h.elapsed, h.issued, waves_append, List.flatten_append, numberFrom_append,
      List.append_assoc]
  · rw [h'.issued, h.issued, waves_append, h.elapsed, List.flatten_append, List.length_append,
      Nat.add_assoc]
  · rw [h'.elapsed, h.elapsed, answeredAt_append]

/-- Between two states nothing was handed over. -/
theorem Hands.none (hsent : st'.sent = st.sent) (hissued : st'.issued = st.issued)
    (helapsed : st'.elapsed = st.elapsed) : b.Hands sink clock [] st st' := by
  constructor
  · rw [hsent]
    exact (List.append_nil _).symm
  · exact hissued
  · exact helapsed

theorem Counts.trans (h : b.Counts sink clock w st st') (h' : b.Counts sink clock w' st' st'') :
    b.Counts sink clock (w.followedBy w') st st'' := by
  have helapsed := h.elapsed
  constructor
  · exact h.toHands.trans h'.toHands
  · rw [h'.days, h.days]
    exact Nat.add_assoc _ _ _
  · rw [h'.events, h.events]
    show _ = _ + (w.buffers ++ w'.buffers).flatten.length
    rw [List.flatten_append, List.length_append]
    omega
  · rw [h'.deliveries, h.deliveries, helapsed]
    show _ = _ + (b.waves sink clock st.elapsed (w.buffers ++ w'.buffers)).flatten.length
    rw [waves_append, List.flatten_append, List.length_append]
    omega
  · rw [h'.failedUsers, h.failedUsers]
    show _ = _ + ((w.users ++ w'.users).filter (·.failed)).length
    rw [List.filter_append, List.length_append]
    omega

/-- **Two stretches in a row**, the second one only if the first has not broken off. -/
theorem Ships.andThen {f : BackfillState → BackfillState} (h : b.Ships sink clock w hand st st')
    (hf : st'.crash = none → st'.hand = hand → b.Ships sink clock w' hand' st' (f st')) :
    b.Ships sink clock (w.followedBy w') hand' st (st'.andThen f) := by
  obtain ⟨buffers, hprefix, hhands⟩ := h.handed
  unfold BackfillState.andThen
  split
  · rename_i hcrash
    refine ⟨⟨buffers, hprefix.trans (List.prefix_append _ _), hhands⟩, fun hnone => ?_⟩
    rw [hnone] at hcrash
    cases hcrash
  · rename_i hcrash
    have hgoes : st'.crash = none := Option.not_isSome_iff_eq_none.1 hcrash
    obtain ⟨hcounts, hhand⟩ := h.done hgoes
    have hships := hf hgoes hhand
    obtain ⟨later, hlater, hhands'⟩ := hships.handed
    refine ⟨⟨w.buffers ++ later, (List.prefix_append_right_inj _).2 hlater, ?_⟩, fun hnone => ?_⟩
    · exact hcounts.toHands.trans hhands'
    · obtain ⟨hcounts', hhand'⟩ := hships.done hnone
      exact ⟨hcounts.trans hcounts', hhand'⟩

/-- A stretch that hands nothing over. -/
theorem Ships.quiet {days : Nat} {users : List UserDay} (hhands : b.Hands sink clock [] st st')
    (hdays : st'.report.days = st.report.days + days)
    (hevents : st'.report.events = st.report.events)
    (hdeliveries : st'.report.deliveries = st.report.deliveries)
    (hfailed : st'.report.failedUsers = st.report.failedUsers + (users.filter (·.failed)).length)
    (hhand : st'.hand = hand) : b.Ships sink clock ⟨days, users, []⟩ hand st st' := by
  refine ⟨⟨[], List.nil_prefix, hhands⟩, fun _ => ⟨?_, hhand⟩⟩
  exact ⟨hhands, hdays, hevents, hdeliveries, hfailed⟩

/-- A stretch from another state in which as much was handed over and counted. -/
theorem Ships.from_same {st₀ : BackfillState} (h : b.Ships sink clock w hand st₀ st')
    (hsent : st₀.sent = st.sent) (hissued : st₀.issued = st.issued)
    (helapsed : st₀.elapsed = st.elapsed) (hreport : st₀.report = st.report) :
    b.Ships sink clock w hand st st' := by
  have hhands : ∀ {buffers}, b.Hands sink clock buffers st₀ st' →
      b.Hands sink clock buffers st st' := by
    rintro buffers ⟨hsent', hissued', helapsed'⟩
    rw [hsent, hissued, helapsed] at hsent'
    rw [hissued, helapsed] at hissued'
    rw [helapsed] at helapsed'
    exact ⟨hsent', hissued', helapsed'⟩
  obtain ⟨buffers, hprefix, hhanded⟩ := h.handed
  refine ⟨⟨buffers, hprefix, hhands hhanded⟩, fun hnone => ?_⟩
  obtain ⟨⟨hhanded, hdays, hevents, hdeliveries, hfailed⟩, hhand⟩ := h.done hnone
  rw [hreport] at hdays hevents hdeliveries hfailed
  rw [helapsed] at hdeliveries
  exact ⟨⟨hhands hhanded, hdays, hevents, hdeliveries, hfailed⟩, hhand⟩

/-- A stretch in which nothing happens. -/
theorem Ships.refl (st : BackfillState) : b.Ships sink clock {} st.hand st st :=
  .quiet (.none rfl rfl rfl) rfl rfl rfl rfl rfl

end Handing

/-! ## One user and one buffer -/

variable (sink clock)

/-- A user on a day goes back to its seat, and its events behind the others. -/
theorem hand_generateUserDay (day : Day) (user : User) :
    (b.generateUserDay generator day user st).hand =
      st.handAfter (runSessions generator (b.planner.planDay day.start st.source).1 user
        (b.planner.planDay day.start st.source).2) := by
  unfold generateUserDay
  generalize b.planner.planDay day.start st.source = planned
  obtain ⟨starts, source⟩ := planned
  simp only
  split <;>
    simp only [BackfillState.hand, BackfillState.handAfter, BackfillState.notify,
      Array.toList_appendList]

/-- One user on one day adds its events to the buffer, and to the count of failed users if its
sessions fail. -/
theorem generateSeat_ships (day : Day) {seat : Nat} {p : Population} {s : Source}
    {held : List Event} {user : User} {calls : List Call} {left : User × Source}
    (hst : st.hand = (p, s, held)) (huser : p.users[seat]? = some user)
    (hcalls : callsFrom generator (b.planner.planDay day.start s).1 user
      (b.planner.planDay day.start s).2 = calls)
    (hleft : leftBy calls user (b.planner.planDay day.start s).2 = left) :
    b.Ships sink clock ⟨0, [⟨day, seat, calls⟩], []⟩
      (p.put left.1, left.2, held ++ calls.flatMap (·.session.events)) st
      (b.generateSeat generator day seat st) := by
  obtain ⟨rfl, rfl, rfl⟩ : st.population = p ∧ st.source = s ∧ st.buffer.toList = held := by
    simpa only [BackfillState.hand, Prod.mk.injEq] using hst
  have hgiven := runSessions_eq generator (b.planner.planDay day.start st.source).1 user
    (b.planner.planDay day.start st.source).2
  rw [hcalls, hleft] at hgiven
  generalize hsession : runSessions generator (b.planner.planDay day.start st.source).1 user
    (b.planner.planDay day.start st.source).2 = session at hgiven
  have hstops : (⟨day, seat, calls⟩ : UserDay).stop = session.stop :=
    (congrArg Session.stop hgiven).symm
  have hafter : (st.population.put left.1, left.2,
      st.buffer.toList ++ calls.flatMap (·.session.events)) = st.handAfter session := by
    rw [hgiven]
    rfl
  have hhand : (b.generateUserDay generator day user st).hand = st.handAfter session := by
    rw [hand_generateUserDay, hsession]
  rw [hafter]
  unfold generateSeat
  rw [huser]
  revert hhand
  unfold generateUserDay
  simp only [hsession]
  cases hstop : session.stop with
  | none =>
    intro hhand
    refine .quiet (.none rfl rfl rfl) rfl rfl rfl ?_ hhand
    simp [UserDay.failed, hstops, hstop]
  | some stop =>
    cases stop with
    | crash crash =>
      intro hhand
      refine .quiet (.none rfl rfl rfl) rfl rfl rfl ?_ hhand
      simp [UserDay.failed, hstops, hstop]
    | error cause =>
      intro hhand
      refine .quiet (.none rfl rfl rfl) rfl rfl rfl ?_ hhand
      simp [UserDay.failed, hstops, hstop, BackfillState.notify]

theorem eventCount_batchesOf (elapsed : Nat) (events : List Event) :
    eventCount (b.batchesOf clock elapsed events) = events.length := by
  unfold eventCount
  rw [← length_flatMap_eq_totalOf, events_batchesOf]
  exact (byTime_perm events).length_eq

/-- **A flush** hands what is buffered over in one wave and keeps nothing. -/
theorem flushBuffer_ships {p : Population} {s : Source} {held : List Event}
    (hst : st.hand = (p, s, held)) :
    b.Ships sink clock ⟨0, [], [held]⟩ (p, s, []) st (b.flushBuffer sink clock st) := by
  obtain ⟨rfl, rfl, rfl⟩ : st.population = p ∧ st.source = s ∧ st.buffer.toList = held := by
    simpa only [BackfillState.hand, Prod.mk.injEq] using hst
  have hwave : (b.waves sink clock st.elapsed [st.buffer.toList]).flatten =
      b.batchesOf clock st.elapsed st.buffer.toList := List.append_nil _
  have hhands : b.Hands sink clock [st.buffer.toList] st (b.flushBuffer sink clock st) := by
    constructor
    · unfold flushBuffer
      rw [flush_sent, Array.toList_appendList, hwave]
    · unfold flushBuffer
      rw [flush_issued, hwave]
    · unfold flushBuffer flush
      simp only
      split <;> rfl
  refine ⟨⟨_, List.prefix_rfl, hhands⟩, fun hnone => ⟨⟨hhands, ?_, ?_, ?_, ?_⟩, ?_⟩⟩
  all_goals
    unfold flushBuffer flush at hnone ⊢
    simp only [hwave] at hnone ⊢
    split at hnone
    · rename_i hcrash
      rw [hnone] at hcrash
      cases hcrash
    · rename_i hcrash
      rw [if_neg hcrash]
      simp [BackfillState.notify, BackfillState.hand, eventCount_batchesOf]

/-! ## A day -/

variable {b generator} in
theorem seatDays_cons {day : Day} {seat : Nat} {rest : List Nat} {p : Population} {s : Source}
    {user : User} {calls : List Call} {left : User × Source} (huser : p.users[seat]? = some user)
    (hcalls : callsFrom generator (b.planner.planDay day.start s).1 user
      (b.planner.planDay day.start s).2 = calls)
    (hleft : leftBy calls user (b.planner.planDay day.start s).2 = left) :
    b.seatDays generator day (seat :: rest) p s =
      (⟨day, seat, calls⟩ :: (b.seatDays generator day rest (p.put left.1) left.2).1,
        (b.seatDays generator day rest (p.put left.1) left.2).2) := by
  rw [seatDays, huser]
  simp only [hcalls, hleft]

/-- A buffer over the threshold is handed over, another one is kept. -/
theorem flushFull_ships (day : Day) (active left : Nat) {p : Population} {s : Source}
    {held : List Event} (hst : st.hand = (p, s, held)) :
    if b.settings.flushThreshold < held.length then
      b.Ships sink clock ⟨0, [], [held]⟩ (p, s, []) st (b.flushFull clock sink day active left st)
    else b.flushFull clock sink day active left st = st := by
  obtain ⟨-, -, hheld⟩ : st.population = p ∧ st.source = s ∧ st.buffer.toList = held := by
    simpa only [BackfillState.hand, Prod.mk.injEq] using hst
  have hsize : st.buffer.size = held.length := by
    rw [← hheld, Array.length_toList]
  unfold flushFull
  rw [hsize]
  split
  · have hflushed : b.Ships sink clock ⟨0, [], [held]⟩ (p, s, [])
        (st.notify [.bufferFlushed day active left]) _ := b.flushBuffer_ships sink clock hst
    exact hflushed.from_same rfl rfl rfl rfl
  · rfl

/-- **The users of a day** fill buffers one after the other. -/
theorem runUsers_ships (day : Day) (active : Nat) (seats : List Nat) {p : Population} {s : Source}
    {held : List Event} (hst : st.hand = (p, s, held))
    (hheld : held.length ≤ b.settings.flushThreshold) :
    b.Ships sink clock (b.seatsWork generator day held seats p s).1
      (b.seatsWork generator day held seats p s).2 st
      (b.runUsers generator sink clock day active seats st) := by
  induction seats generalizing st p s held with
  | nil =>
    show b.Ships sink clock {} (p, s, held) st st
    rw [← hst]
    exact .refl st
  | cons seat rest ih =>
    rw [runUsers_cons]
    generalize hgo : (fun st => (b.flushFull clock sink day active rest.length st).andThen
      (b.runUsers generator sink clock day active rest)) = go
    -- what follows a user: its buffer is handed over if it is full, and kept otherwise
    have hfull : ∀ {st : BackfillState} {p s held}, st.hand = (p, s, held) →
        b.settings.flushThreshold < held.length →
        b.Ships sink clock (Work.followedBy ⟨0, [], [held]⟩ (b.seatsWork generator day [] rest p s).1)
          (b.seatsWork generator day [] rest p s).2 st (go st) := by
      intro st p s held hhand hfull
      have hflushed := b.flushFull_ships sink clock day active rest.length hhand
      rw [if_pos hfull] at hflushed
      subst hgo
      exact hflushed.andThen fun _ hhand' => ih hhand' (Nat.zero_le _)
    have hkept : ∀ {st : BackfillState} {p s held}, st.crash = none → st.hand = (p, s, held) →
        ¬b.settings.flushThreshold < held.length →
        b.Ships sink clock (b.seatsWork generator day held rest p s).1
          (b.seatsWork generator day held rest p s).2 st (go st) := by
      intro st p s held hnone hhand hkept
      have hsame := b.flushFull_ships sink clock day active rest.length hhand
      rw [if_neg hkept] at hsame
      subst hgo
      simp only [hsame, BackfillState.andThen_of_none hnone]
      exact ih hhand (Nat.le_of_not_lt hkept)
    cases huser : p.users[seat]? with
    | none =>
      have hseat : b.generateSeat generator day seat st = st := by
        obtain ⟨hpopulation, -⟩ := Prod.mk.inj hst
        unfold generateSeat
        rw [hpopulation, huser]
      rw [hseat, seatsWork, seatDays, huser]
      exact (Ships.refl st).andThen fun hnone _ => hkept hnone hst (Nat.not_lt.2 hheld)
    | some user =>
      have hgenerated := b.generateSeat_ships generator sink clock day hst huser rfl rfl
      rw [seatsWork, seatDays_cons huser rfl rfl]
      generalize callsFrom generator (b.planner.planDay day.start s).1 user
        (b.planner.planDay day.start s).2 = calls at hgenerated ⊢
      generalize leftBy calls user (b.planner.planDay day.start s).2 = left at hgenerated ⊢
      have hevents : (⟨day, seat, calls⟩ : UserDay).events = calls.flatMap (·.session.events) := rfl
      simp only [List.map_cons, spill, hevents]
      split
      · rename_i hover
        exact hgenerated.andThen fun _ hhand => hfull hhand hover
      · rename_i hunder
        exact hgenerated.andThen fun hnone hhand => hkept hnone hhand hunder

/-- What is left at the end of a day is handed over. -/
theorem flushRest_ships {p : Population} {s : Source} {left : List Event}
    (hnone : st.crash = none) (hst : st.hand = (p, s, left)) :
    b.Ships sink clock ⟨0, [], remainder left⟩ (p, s, []) st (b.flushRest clock sink st) := by
  obtain ⟨-, hrest⟩ := Prod.mk.inj hst
  obtain ⟨-, hleft⟩ := Prod.mk.inj hrest
  have hempty : st.buffer.isEmpty = left.isEmpty := by
    rw [← hleft, Array.isEmpty_toList]
  unfold flushRest remainder
  rw [hnone, hempty]
  cases hcase : left.isEmpty with
  | true =>
    rw [List.isEmpty_iff.1 hcase] at hst
    rw [← hst]
    exact .refl st
  | false => exact b.flushBuffer_ships sink clock hst

/-- A backfill that has broken off hands nothing more over at the end of the day. -/
theorem flushRest_eq (st : BackfillState) :
    b.flushRest clock sink st = st.andThen (b.flushRest clock sink) := by
  unfold BackfillState.andThen
  split
  · rename_i hcrash
    unfold flushRest
    rw [if_pos (.inl hcrash)]
  · rfl

theorem closeDay_ships (day : Day) (st : BackfillState) :
    b.Ships sink clock ⟨1, [], []⟩ st.hand st (closeDay day st) :=
  .quiet (.none rfl rfl rfl) rfl rfl rfl rfl rfl

/-- **A day** does its work. -/
theorem runGrown_ships (day : Day) {p : Population} {s : Source} (hnone : st.crash = none)
    (hst : st.hand = (p, s, [])) :
    b.Ships sink clock (b.dayWork generator day p s).1
      ((b.dayWork generator day p s).2.1, (b.dayWork generator day p s).2.2, []) st
      (b.runGrown generator sink clock day st) := by
  obtain ⟨rfl, hrest⟩ := Prod.mk.inj hst
  obtain ⟨rfl, hbuffer⟩ := Prod.mk.inj hrest
  generalize hseats : st.population.sample (b.activeCount.draw st.source).1
    (b.activeCount.draw st.source).2 = seats
  have hdrawn : (b.openDay day st).1 = seats.1 := hseats ▸ rfl
  have hopened : b.Ships sink clock {} (st.population, seats.2, []) st (b.openDay day st).2 := by
    refine .quiet (.none rfl rfl rfl) rfl rfl rfl rfl ?_
    rw [← hbuffer, ← hseats]
    rfl
  have hwork : (b.dayWork generator day st.population st.source).1 = Work.followedBy {}
      (((b.seatsWork generator day [] seats.1 st.population seats.2).1.followedBy
        ⟨0, [], remainder (b.seatsWork generator day [] seats.1 st.population seats.2).2.2.2⟩).followedBy
          ⟨1, [], []⟩) := by
    simp [dayWork, seatsWork, buffersOf, Work.followedBy, hseats]
  have hhand : (b.dayWork generator day st.population st.source).2 =
      ((b.seatsWork generator day [] seats.1 st.population seats.2).2.1,
        (b.seatsWork generator day [] seats.1 st.population seats.2).2.2.1) := by
    rw [dayWork, hseats, seatsWork]
  rw [hwork, hhand, runGrown_eq, hdrawn, flushRest_eq]
  have hopen : (b.openDay day st).2.crash = none := hnone
  have hships := hopened.andThen (f := fun st => ((b.runUsers generator sink clock day seats.1.length
      seats.1 st).andThen (b.flushRest clock sink)).andThen (closeDay day)) fun _ hhand => by
    have husers := b.runUsers_ships generator sink clock day seats.1.length seats.1 hhand
      (Nat.zero_le _)
    have hrest := husers.andThen fun hnone hhand => b.flushRest_ships sink clock hnone hhand
    exact hrest.andThen fun _ hhand => hhand ▸ b.closeDay_ships sink clock day _
  rw [BackfillState.andThen_of_none hopen] at hships
  exact hships

/-- A day does its work after newcomers have joined. -/
theorem grownDay_ships (day : Day) {p : Population} {s : Source} (hnone : st.crash = none)
    (hst : st.hand = (p, s, [])) (grown : Population × Source) :
    b.Ships sink clock (b.dayWork generator day grown.1 grown.2).1
      ((b.dayWork generator day grown.1 grown.2).2.1, (b.dayWork generator day grown.1 grown.2).2.2,
        []) st
      (b.runGrown generator sink clock day
        { st with population := grown.1, source := grown.2 }) := by
  obtain ⟨-, hrest⟩ := Prod.mk.inj hst
  obtain ⟨-, hbuffer⟩ := Prod.mk.inj hrest
  have hjoined : BackfillState.hand { st with population := grown.1, source := grown.2 } =
      (grown.1, grown.2, []) := congrArg (fun held => (grown.1, grown.2, held)) hbuffer
  have hgoes : BackfillState.crash { st with population := grown.1, source := grown.2 } = none :=
    hnone
  exact (b.runGrown_ships generator sink clock day hgoes hjoined).from_same rfl rfl rfl rfl

/-! ## Days -/

/-- A backfill that has broken off runs no more days. -/
theorem foldl_runDay_eq (days : List Day) (st : BackfillState) :
    days.foldl (fun st day => b.runDay generator sink clock day st) st =
      st.andThen fun st => days.foldl (fun st day => b.runDay generator sink clock day st) st := by
  cases hcrash : st.crash with
  | none => rw [BackfillState.andThen_of_none hcrash]
  | some crash =>
    have hstays : ∀ f : BackfillState → BackfillState, st.andThen f = st := by
      intro f
      unfold BackfillState.andThen
      rw [hcrash]
      rfl
    rw [hstays]
    induction days with
    | nil => rfl
    | cons day rest ih => rw [List.foldl_cons, runDay_eq, hstays, ih]

/-- **Days** do their work, up to one whose newcomers find no room. -/
theorem foldl_runDay_ships (days : List Day) {p : Population} {s : Source} (hnone : st.crash = none)
    (hst : st.hand = (p, s, [])) :
    b.Ships sink clock (b.daysWork generator days p s).1
      ((b.daysWork generator days p s).2.1, (b.daysWork generator days p s).2.2, []) st
      (days.foldl (fun st day => b.runDay generator sink clock day st) st) := by
  induction days generalizing st p s with
  | nil =>
    show b.Ships sink clock {} (p, s, []) st st
    rw [← hst]
    exact .refl st
  | cons day rest ih =>
    obtain ⟨rfl, hrest⟩ := Prod.mk.inj hst
    obtain ⟨rfl, -⟩ := Prod.mk.inj hrest
    rw [List.foldl_cons, runDay_eq, BackfillState.andThen_of_none hnone, growDay, daysWork,
      foldl_runDay_eq]
    cases st.population.checkedGrow b.newUsersPerDay st.source with
    | error crash =>
      refine ⟨⟨[], List.nil_prefix, .none rfl rfl rfl⟩, fun h => ?_⟩
      cases h
    | ok grown =>
      have hday := b.grownDay_ships generator sink clock day hnone hst grown
      exact hday.andThen fun hnone hhand => ih hnone hhand

/-- **A whole backfill** does its work. -/
theorem run_ships (today : Day) (hnone : st.crash = none) (hbuffer : st.buffer = #[]) :
    ∃ hand, b.Ships sink clock (b.work generator today st.population st.source) hand st
      (b.run generator sink clock today st) := by
  unfold work run
  cases today.checkedPreceding b.settings.days with
  | error crash =>
    refine ⟨st.hand, ⟨[], List.nil_prefix, .none rfl rfl rfl⟩, fun h => ?_⟩
    cases h
  | ok days =>
    have hhand : st.hand = (st.population, st.source, []) := by
      rw [BackfillState.hand, hbuffer]
    have hdays := b.foldl_runDay_ships generator sink clock days hnone hhand
    have hwork : (b.daysWork generator days st.population st.source).1 =
        (b.daysWork generator days st.population st.source).1.followedBy {} := by
      simp [Work.followedBy]
    simp only [runDays_eq]
    rw [hwork]
    exact ⟨_, hdays.andThen fun _ _ => .quiet (.none rfl rfl rfl) rfl rfl rfl rfl rfl⟩

/-! ## Without breaking off -/

section Quiet

variable {generator} {sink}
  (hgenerator : ∀ user start source crash, (generator user start source).stop ≠ some (.crash crash))
  (hsink : ∀ batch, sink.crash? batch = none)

include hgenerator in
theorem generateSeat_quiet (day : Day) (seat : Nat) (hnone : st.crash = none) :
    (b.generateSeat generator day seat st).crash = none := by
  unfold generateSeat
  split
  · unfold generateUserDay
    simp only
    split
    · exact hnone
    · rename_i crash hstop
      exact absurd hstop (runSessions_stop (fun _ _ _ => hgenerator _ _ _ crash) _ _ _)
    · exact hnone
  · exact hnone

include hsink in
theorem flushBuffer_quiet (st : BackfillState) : (b.flushBuffer sink clock st).crash = none := by
  have hcalm : (b.batchesOf clock st.elapsed st.buffer.toList).findSome? sink.crash? = none :=
    List.findSome?_eq_none_iff.2 fun batch _ => hsink batch
  unfold flushBuffer flush
  simp only
  split
  · exact hcalm
  · exact hcalm

include hgenerator hsink in
theorem runUsers_quiet (day : Day) (active : Nat) (seats : List Nat) (hnone : st.crash = none) :
    (b.runUsers generator sink clock day active seats st).crash = none := by
  induction seats generalizing st with
  | nil => exact hnone
  | cons seat rest ih =>
    have hgenerated := b.generateSeat_quiet hgenerator day seat hnone
    have hflushed : (b.flushFull clock sink day active rest.length
        (b.generateSeat generator day seat st)).crash = none := by
      unfold flushFull
      split
      · exact b.flushBuffer_quiet clock hsink _
      · exact hgenerated
    rw [runUsers_cons, BackfillState.andThen_of_none hgenerated,
      BackfillState.andThen_of_none hflushed]
    exact ih hflushed

include hgenerator hsink in
/-- **A day does not break off** where the generator and the sink do not. -/
theorem runGrown_quiet (day : Day) (hnone : st.crash = none) :
    (b.runGrown generator sink clock day st).crash = none := by
  have hopened : (b.openDay day st).2.crash = none := hnone
  have husers := b.runUsers_quiet clock hgenerator hsink day (b.openDay day st).1.length
    (b.openDay day st).1 hopened
  have hrest : (b.flushRest clock sink (b.runUsers generator sink clock day
      (b.openDay day st).1.length (b.openDay day st).1 (b.openDay day st).2)).crash = none := by
    unfold flushRest
    split
    · exact husers
    · exact b.flushBuffer_quiet clock hsink _
  rw [runGrown_eq, BackfillState.andThen_of_none hrest]
  exact hrest

include hgenerator hsink in
/-- **Days are counted** up to one whose newcomers find no room. -/
theorem foldl_runDay_counts (days : List Day) {p : Population} {s : Source} (hnone : st.crash = none)
    (hst : st.hand = (p, s, [])) :
    b.Counts sink clock (b.daysWork generator days p s).1 st
      (days.foldl (fun st day => b.runDay generator sink clock day st) st) := by
  induction days generalizing st p s with
  | nil => exact ((Ships.refl st).done hnone).1
  | cons day rest ih =>
    obtain ⟨rfl, hrest⟩ := Prod.mk.inj hst
    obtain ⟨rfl, -⟩ := Prod.mk.inj hrest
    rw [List.foldl_cons, runDay_eq, BackfillState.andThen_of_none hnone, growDay, daysWork,
      foldl_runDay_eq]
    cases st.population.checkedGrow b.newUsersPerDay st.source with
    | error crash => exact ⟨.none rfl rfl rfl, rfl, rfl, rfl, rfl⟩
    | ok grown =>
      have hgoes : BackfillState.crash { st with population := grown.1, source := grown.2 } = none :=
        hnone
      have hquiet := b.runGrown_quiet clock hgenerator hsink day hgoes
      have hday := b.grownDay_ships generator sink clock day hnone hst grown
      obtain ⟨hcounts, hhand⟩ := hday.done hquiet
      simp only [BackfillState.andThen_of_none hquiet]
      exact hcounts.trans (ih hquiet hhand)

include hgenerator hsink in
/-- **A whole backfill is counted**, where the generator and the sink do not break off. -/
theorem run_counts (today : Day) (hnone : st.crash = none) (hbuffer : st.buffer = #[]) :
    b.Counts sink clock (b.work generator today st.population st.source) st
      (b.run generator sink clock today st) := by
  unfold work run
  cases today.checkedPreceding b.settings.days with
  | error crash => exact ⟨.none rfl rfl rfl, rfl, rfl, rfl, rfl⟩
  | ok days =>
    have hhand : st.hand = (st.population, st.source, []) := by
      rw [BackfillState.hand, hbuffer]
    have hdays := b.foldl_runDay_counts clock hgenerator hsink days hnone hhand
    simp only [runDays_eq]
    unfold BackfillState.andThen
    split
    · exact hdays
    · exact ⟨⟨hdays.sent, hdays.issued, hdays.elapsed⟩, hdays.days, hdays.events, hdays.deliveries,
        hdays.failedUsers⟩

end Quiet

end Backfill

end ShopTraffic
