import Mathlib
import ShopTraffic.Proofs.Acceptance
import ShopTraffic.Proofs.Passages
import ShopTraffic.Proofs.Shipments

/-!
# A backfill delivers everything once

Every event that was generated, also for a user whose sessions failed later, is in exactly one batch.
A buffer goes out as one wave: its events in order of time, cut into batches that are all full but the
last. The report counts the events, the batches and the users who failed, and, where the days and the
users can be listed, the days and all users.

* `chunksOf_length`, `chunksOf_full`, `length_chunksOf` — the pieces of a buffer;
* `IsWave`, `waves_isWave` — the batches of one flush, and all waves of a backfill;
* `work_calls`, `flatten_work`, `work_nodup` — what was generated are the calls of the generator, and
  the buffers hold what these emitted, for each user on a day once;
* `foldl_runDay_room`, `run_room` — when days and a whole backfill find room;
* `Complete`, `run_complete` — a whole backfill.
-/

set_option autoImplicit false

namespace ShopTraffic

open Chance

/-! ## Pieces -/

section Pieces

variable {α : Type} {n : Nat}

/-- No piece is empty and none is too long. -/
theorem chunksOf_length (hn : 0 < n) (xs : List α) :
    ∀ chunk ∈ chunksOf n xs, 1 ≤ chunk.length ∧ chunk.length ≤ n := by
  fun_induction chunksOf n xs with
  | case1 xs h => simp
  | case2 xs h ih =>
    rw [List.forall_mem_cons]
    refine ⟨?_, ih⟩
    have hpos := List.length_pos_iff.2 fun hnil => h (.inr hnil)
    rw [List.length_take]
    omega

/-- All pieces but the last are full. -/
theorem chunksOf_full (xs : List α) : ∀ chunk ∈ (chunksOf n xs).dropLast, chunk.length = n := by
  fun_induction chunksOf n xs with
  | case1 xs h => simp
  | case2 xs h ih =>
    intro chunk hmem
    cases hrest : chunksOf n (xs.drop n) with
    | nil => simp [hrest] at hmem
    | cons second rest =>
      rw [hrest, List.dropLast_cons_cons, ← hrest, List.mem_cons] at hmem
      rcases hmem with rfl | hmem
      · have hlong : n < xs.length := by
          by_contra hshort
          rw [chunksOf, dif_pos (.inr (List.drop_eq_nil_iff.2 (Nat.le_of_not_lt hshort)))] at hrest
          cases hrest
        rw [List.length_take]
        omega
      · exact ih chunk hmem

/-- There are as many pieces as it takes. -/
theorem length_chunksOf (hn : 0 < n) (xs : List α) :
    (chunksOf n xs).length = (xs.length + n - 1) / n := by
  fun_induction chunksOf n xs with
  | case1 xs h =>
    rcases h with h | rfl
    · omega
    · exact (Nat.div_eq_of_lt (by simp only [List.length_nil]; omega)).symm
  | case2 xs h ih =>
    have hpos := List.length_pos_iff.2 fun hnil => h (.inr hnil)
    rw [List.length_cons, ih, List.length_drop]
    by_cases hlong : n ≤ xs.length
    · rw [← Nat.add_div_right _ hn]
      congr 1
      omega
    · have hlast : (xs.length - n + n - 1) / n = 0 := Nat.div_eq_of_lt (by omega)
      have hone : (xs.length + n - 1) / n = 1 :=
        Nat.div_eq_of_lt_le (by omega) (by omega)
      rw [hlast, hone]

end Pieces

/-- The days before a day are different ones. -/
theorem Day.preceding_nodup (today : Day) (count : Nat) : (today.preceding count).Nodup := by
  unfold Day.preceding
  refine List.Nodup.map_on (fun i hi j hj heq => ?_) List.nodup_range
  have hlt := today.number_lt
  have hnumber := congrArg Day.number heq
  simp only [Day.cap] at hnumber
  rw [List.mem_range] at hi hj
  omega

theorem Population.checkedGrow_eq (p : Population) (n : Nat) (s : Source) :
    p.checkedGrow n s = if p.size + n ≤ maxItems then .ok (p.grow n s) else .error .noRoom := by
  unfold checkedGrow claimRoom
  split <;> rfl

/-! ## Waves -/

/-- The batches of one flush: together they hold a buffer in order of time, events of one time in the
order they were generated; none belongs to a user, none is empty, all but the last are full, and they
are handed over at one moment. -/
structure IsWave (size : Nat) (wave : List Batch) (buffer : List Event) : Prop where
  events : wave.flatMap (·.events) = byTime buffer
  ordered : TimeOrdered (wave.flatMap (·.events))
  stable : ∀ t, (wave.flatMap (·.events)).filter (·.time = t) = buffer.filter (·.time = t)
  bulk : ∀ batch ∈ wave,
    batch.owner = none ∧ 1 ≤ batch.events.length ∧ batch.events.length ≤ size
  full : ∀ batch ∈ wave.dropLast, batch.events.length = size
  together : ∃ moment, ∀ batch ∈ wave, batch.elapsed = moment

namespace Backfill

variable (b : Backfill) (generator : Generator) (sink : Sink) (clock : Clock)

theorem batchesOf_isWave (elapsed : Nat) (events : List Event) :
    IsWave b.settings.eventsPerRequest (b.batchesOf clock elapsed events) events := by
  have hevents := b.events_batchesOf clock elapsed events
  constructor
  · exact hevents
  · rw [hevents]
    exact timeOrdered_byTime events
  · rw [hevents]
    exact filter_byTime events
  · intro batch hbatch
    obtain ⟨chunk, hchunk, rfl⟩ := List.mem_map.1 hbatch
    exact ⟨rfl, chunksOf_length b.batch_pos _ chunk hchunk⟩
  · intro batch hbatch
    unfold batchesOf at hbatch
    rw [← List.map_dropLast] at hbatch
    obtain ⟨chunk, hchunk, rfl⟩ := List.mem_map.1 hbatch
    exact chunksOf_full _ chunk hchunk
  · refine ⟨elapsed, fun batch hbatch => ?_⟩
    obtain ⟨chunk, -, rfl⟩ := List.mem_map.1 hbatch
    rfl

/-- **Every buffer goes out as a wave.** -/
theorem waves_isWave (elapsed : Nat) (buffers : List (List Event)) :
    List.Forall₂ (IsWave b.settings.eventsPerRequest) (b.waves sink clock elapsed buffers)
      buffers := by
  induction buffers generalizing elapsed with
  | nil => exact .nil
  | cons buffer rest ih => exact .cons (b.batchesOf_isWave clock elapsed buffer) (ih _)

/-- The waves hold what the buffers hold. -/
theorem waves_events {size : Nat} {waves : List (List Batch)} {buffers : List (List Event)}
    (h : List.Forall₂ (IsWave size) waves buffers) :
    ((waves.flatten.flatMap (·.events) : List Event) : Multiset Event) =
      (buffers.flatten : List Event) := by
  induction h with
  | nil => rfl
  | cons hwave _ ih =>
    rw [List.flatten_cons, List.flatMap_append, List.flatten_cons, ← Multiset.coe_add, ih,
      ← Multiset.coe_add, hwave.events]
    congr 1
    exact Multiset.coe_eq_coe.2 (byTime_perm _)

/-! ## What was generated -/

theorem seatDays_calls (day : Day) (seats : List Nat) (p : Population) (s : Source) :
    ∀ u ∈ (b.seatDays generator day seats p s).1, ∀ c ∈ u.calls, c.Of generator := by
  induction seats generalizing p s with
  | nil => exact fun u hu => absurd hu List.not_mem_nil
  | cons seat rest ih =>
    rw [seatDays]
    split
    · exact ih p s
    · exact List.forall_mem_cons.2 ⟨callsFrom_of generator _ _ _, ih _ _⟩

theorem daysWork_calls (days : List Day) (p : Population) (s : Source) :
    ∀ u ∈ (b.daysWork generator days p s).1.users, ∀ c ∈ u.calls, c.Of generator := by
  induction days generalizing p s with
  | nil => exact fun u hu => absurd hu List.not_mem_nil
  | cons day rest ih =>
    rw [daysWork]
    split
    · exact fun u hu => absurd hu List.not_mem_nil
    · exact List.forall_mem_append.2 ⟨b.seatDays_calls generator day _ _ _, ih _ _⟩

/-- **What users emitted is what the generator gave**, call by call. -/
theorem work_calls (today : Day) (p : Population) (s : Source) :
    ∀ u ∈ (b.work generator today p s).users, ∀ c ∈ u.calls, c.Of generator := by
  unfold work
  split
  · exact fun u hu => absurd hu List.not_mem_nil
  · exact b.daysWork_calls generator _ p s

theorem flatten_daysWork (days : List Day) (p : Population) (s : Source) :
    (b.daysWork generator days p s).1.buffers.flatten =
      (b.daysWork generator days p s).1.users.flatMap (·.events) := by
  induction days generalizing p s with
  | nil => rfl
  | cons day rest ih =>
    rw [daysWork]
    split
    · rfl
    · simp only [Work.followedBy, dayWork, List.flatten_append, List.flatMap_append, ih,
        flatten_buffersOf]

/-- **The buffers of a backfill hold what its users emitted**, in that order. -/
theorem flatten_work (today : Day) (p : Population) (s : Source) :
    (b.work generator today p s).buffers.flatten =
      (b.work generator today p s).users.flatMap (·.events) := by
  unfold work
  split
  · rfl
  · exact b.flatten_daysWork generator _ p s

theorem seatDays_seats (day : Day) (seats : List Nat) (p : Population) (s : Source) :
    ((b.seatDays generator day seats p s).1.map fun u => (u.day, u.seat)).Sublist
      (seats.map fun seat => (day, seat)) := by
  induction seats generalizing p s with
  | nil => exact .slnil
  | cons seat rest ih =>
    rw [seatDays]
    split
    · exact (ih p s).cons _
    · exact (ih _ _).cons_cons _

theorem dayWork_nodup (day : Day) (p : Population) (s : Source) :
    ((b.dayWork generator day p s).1.users.map fun u => (u.day, u.seat)).Nodup ∧
      ∀ u ∈ (b.dayWork generator day p s).1.users, u.day = day := by
  have hseats := b.seatDays_seats generator day
    (p.sample (b.activeCount.draw s).1 (b.activeCount.draw s).2).1 p
    (p.sample (b.activeCount.draw s).1 (b.activeCount.draw s).2).2
  constructor
  · refine hseats.nodup (List.Nodup.map (fun i j h => ?_) (p.sample_spec _ _).1)
    exact (Prod.mk.inj h).2
  · intro u hu
    have hmem := hseats.subset (List.mem_map_of_mem (f := fun u : UserDay => (u.day, u.seat)) hu)
    obtain ⟨seat, -, heq⟩ := List.mem_map.1 hmem
    exact (Prod.mk.inj heq).1.symm

theorem daysWork_nodup {days : List Day} (h : days.Nodup) (p : Population) (s : Source) :
    ((b.daysWork generator days p s).1.users.map fun u => (u.day, u.seat)).Nodup ∧
      ∀ u ∈ (b.daysWork generator days p s).1.users, u.day ∈ days := by
  induction days generalizing p s with
  | nil => exact ⟨.nil, by simp [daysWork]⟩
  | cons day rest ih =>
    obtain ⟨hday, hrest⟩ := List.nodup_cons.1 h
    rw [daysWork]
    split
    · exact ⟨.nil, by simp⟩
    · rename_i grown _
      obtain ⟨hnodup, hsame⟩ := b.dayWork_nodup generator day grown.1 grown.2
      obtain ⟨hnodup', hlater⟩ := ih hrest (b.dayWork generator day grown.1 grown.2).2.1
        (b.dayWork generator day grown.1 grown.2).2.2
      simp only [Work.followedBy, List.map_append]
      refine ⟨List.nodup_append.2 ⟨hnodup, hnodup', ?_⟩, ?_⟩
      · intro pair hpair pair' hpair' heq
        obtain ⟨u, hu, rfl⟩ := List.mem_map.1 hpair
        obtain ⟨v, hv, rfl⟩ := List.mem_map.1 hpair'
        have hdays : u.day = v.day := (Prod.mk.inj heq).1
        rw [hsame u hu] at hdays
        exact hday (hdays ▸ hlater v hv)
      · intro u hu
        rcases List.mem_append.1 hu with hu | hu
        · exact List.mem_cons.2 (.inl (hsame u hu))
        · exact List.mem_cons_of_mem _ (hlater u hu)

/-- **No user is generated twice on a day.** -/
theorem work_nodup (today : Day) (p : Population) (s : Source) :
    ((b.work generator today p s).users.map fun u => (u.day, u.seat)).Nodup := by
  unfold work Day.checkedPreceding
  cases claimRoom (min b.settings.days today.number) with
  | error crash => exact .nil
  | ok _ => exact (b.daysWork_nodup generator (today.preceding_nodup b.settings.days) p s).1

/-! ## Room -/

theorem seatDays_size (day : Day) (seats : List Nat) (p : Population) (s : Source) :
    (b.seatDays generator day seats p s).2.1.size = p.size := by
  induction seats generalizing p s with
  | nil => rfl
  | cons seat rest ih =>
    rw [seatDays]
    split
    · exact ih p s
    · exact (ih _ _).trans (Population.size_put _ _)

section Quiet

variable {generator} {sink} {st : BackfillState}
  (hgenerator : ∀ user start source crash, (generator user start source).stop ≠ some (.crash crash))
  (hsink : ∀ batch, sink.crash? batch = none)

include hgenerator hsink in
/-- **Days break off only for want of room**, where the generator and the sink do not break off:
exactly when the newcomers of all days are too many. -/
theorem foldl_runDay_room (days : List Day) {p : Population} {s : Source} (hnone : st.crash = none)
    (hst : st.hand = (p, s, [])) (hroom : p.size ≤ maxItems) :
    ((days.foldl (fun st day => b.runDay generator sink clock day st) st).crash = none ↔
        p.size + days.length * b.newUsersPerDay ≤ maxItems) ∧
      (p.size + days.length * b.newUsersPerDay ≤ maxItems →
        (b.daysWork generator days p s).1.days = days.length ∧
          (b.daysWork generator days p s).2.1.size = p.size + days.length * b.newUsersPerDay) := by
  induction days generalizing st p s with
  | nil => simpa [daysWork, hnone] using hroom
  | cons day rest ih =>
    have hpopulation : st.population = p := (Prod.mk.inj hst).1
    have hsource : st.source = s := (Prod.mk.inj (Prod.mk.inj hst).2).1
    rw [List.foldl_cons, runDay_eq, BackfillState.andThen_of_none hnone, growDay, hpopulation,
      hsource, daysWork, foldl_runDay_eq, Population.checkedGrow_eq, List.length_cons, Nat.succ_mul]
    by_cases hgrows : p.size + b.newUsersPerDay ≤ maxItems
    · rw [if_pos hgrows]
      set grown := p.grow b.newUsersPerDay s
      have hsize : grown.1.size = p.size + b.newUsersPerDay := Population.size_grow p _ s
      have hgoes : BackfillState.crash { st with population := grown.1, source := grown.2 } = none :=
        hnone
      have hquiet := b.runGrown_quiet clock hgenerator hsink day hgoes
      have hhand := ((b.grownDay_ships generator sink clock day hnone hst grown).done hquiet).2
      have hdaySize : (b.dayWork generator day grown.1 grown.2).2.1.size = grown.1.size :=
        b.seatDays_size generator day _ _ _
      obtain ⟨hcrash, hwork⟩ := ih hquiet hhand (by rw [hdaySize, hsize]; exact hgrows)
      rw [hdaySize, hsize] at hcrash hwork
      have hsum : p.size + (rest.length * b.newUsersPerDay + b.newUsersPerDay) =
          p.size + b.newUsersPerDay + rest.length * b.newUsersPerDay := by omega
      simp only [BackfillState.andThen_of_none hquiet, hsum]
      refine ⟨hcrash, fun hfits => ?_⟩
      obtain ⟨hdays, hlast⟩ := hwork hfits
      refine ⟨?_, hlast⟩
      show 1 + (b.daysWork generator rest _ _).1.days = rest.length + 1
      rw [hdays, Nat.add_comm]
    · rw [if_neg hgrows]
      have hmany : ¬p.size + (rest.length * b.newUsersPerDay + b.newUsersPerDay) ≤ maxItems := by
        omega
      refine ⟨⟨fun h => ?_, fun h => absurd h hmany⟩, fun h => absurd h hmany⟩
      cases h

include hgenerator hsink in
/-- **A whole backfill breaks off only for want of room**: where its days or all its users are too
many to list. Otherwise it reports all users. -/
theorem run_room (today : Day) (hnone : st.crash = none) (hbuffer : st.buffer = #[])
    (hroom : st.population.size ≤ maxItems) :
    ((b.run generator sink clock today st).crash = none ↔
        min b.settings.days today.number ≤ maxItems ∧
          st.population.size + min b.settings.days today.number * b.newUsersPerDay ≤ maxItems) ∧
      ((b.run generator sink clock today st).crash = none →
        (b.work generator today st.population st.source).days = min b.settings.days today.number ∧
          (b.run generator sink clock today st).report.users =
            st.population.size + min b.settings.days today.number * b.newUsersPerDay) := by
  have hhand : st.hand = (st.population, st.source, []) := by
    rw [BackfillState.hand, hbuffer]
  unfold run work Day.checkedPreceding claimRoom
  by_cases hlist : min b.settings.days today.number ≤ maxItems
  · rw [if_pos hlist]
    simp only [bind, Except.bind, pure, Except.pure, runDays_eq]
    have hships := b.foldl_runDay_ships generator sink clock (today.preceding b.settings.days)
      hnone hhand
    obtain ⟨hcrash, hwork⟩ := b.foldl_runDay_room clock hgenerator hsink
      (today.preceding b.settings.days) hnone hhand hroom
    rw [Day.length_preceding] at hcrash hwork
    generalize (today.preceding b.settings.days).foldl _ st = ended at hships hcrash ⊢
    by_cases hended : ended.crash = none
    · have hfits := hcrash.1 hended
      obtain ⟨hdays, hsize⟩ := hwork hfits
      have hpopulation := (Prod.mk.inj (hships.done hended).2).1
      rw [BackfillState.andThen_of_none hended]
      refine ⟨⟨fun _ => ⟨hlist, hfits⟩, fun _ => hended⟩, fun _ => ⟨hdays, ?_⟩⟩
      show ended.population.size = _
      rw [hpopulation, hsize]
    · have hstays : ended.andThen closeReport = ended := by
        unfold BackfillState.andThen
        rw [if_pos (Option.isSome_iff_ne_none.2 hended)]
      rw [hstays]
      exact ⟨⟨fun h => absurd h hended, fun h => absurd (hcrash.2 h.2) hended⟩,
        fun h => absurd h hended⟩
  · rw [if_neg hlist]
    refine ⟨⟨fun h => ?_, fun h => absurd h.1 hlist⟩, fun h => ?_⟩
    · cases h
    · cases h

end Quiet

/-! ## Everything once -/

/-- **What a finished backfill has done**, whatever its work was: every event that the generator
emitted for its users is in one batch, once; the buffers hold these events one after the other, and
the batches go out as their waves; and the report tells how many events, batches and failed users
there were, and, if the days and users could be listed, how many days and users. -/
structure Complete (c : Settings) (generator : Generator) (today : Day) (work : Work)
    (finished : BackfillState) : Prop where
  calls : ∀ u ∈ work.users, ∀ call ∈ u.calls, call.Of generator
  once : ((finished.sent.toList.flatMap (·.batch.events) : List Event) : Multiset Event) =
    (work.users.flatMap (·.events) : List Event)
  bulk : ∀ d ∈ finished.sent.toList, d.batch.owner = none ∧ 1 ≤ d.batch.events.length ∧
    d.batch.events.length ≤ c.backfill.eventsPerRequest
  buffers : work.buffers.flatten = work.users.flatMap (·.events)
  waves : ∃ waves, List.Forall₂ (IsWave c.backfill.eventsPerRequest) waves work.buffers ∧
    finished.sent.toList = numberFrom 0 waves.flatten
  events : finished.report.events = (work.users.flatMap (·.events)).length
  deliveries : finished.report.deliveries = finished.sent.size
  failedUsers : finished.report.failedUsers = (work.users.filter (·.failed)).length
  nodup : (work.users.map fun u => (u.day, u.seat)).Nodup
  listed : finished.crash = none ↔ min c.backfill.days today.number ≤ maxItems ∧
    c.backfill.allUsers / 4 + min c.backfill.days today.number * (c.backfill.allUsers / 40) ≤ maxItems
  reported : finished.crash = none → finished.report.days = min c.backfill.days today.number ∧
    finished.report.users =
      c.backfill.allUsers / 4 + finished.report.days * (c.backfill.allUsers / 40)

/-- **A backfill delivers everything once.** With settings that pass their check, a generator that
may fail but does not break off, and any answers to the deliveries, all that was generated is
delivered in full batches and counted. -/
theorem run_complete (c : Settings) (entropy : Nat) (b : Backfill) (st : BackfillState)
    (hmade : (ofSettings c entropy).2 = .ok (b, st)) (generator : Generator) (sink : Sink)
    (clock : Clock) (today : Day)
    (hgenerator : ∀ user start source crash,
      (generator user start source).stop ≠ some (.crash crash))
    (hsink : ∀ batch, sink.crash? batch = none) :
    Complete c generator today (b.work generator today st.population st.source)
      (b.run generator sink clock today st) := by
  have hfresh := fresh_of_ofSettings hmade
  have hcounts := b.run_counts clock hgenerator hsink today hfresh.crash_eq hfresh.buffer_eq
  obtain ⟨hlisted, hreported⟩ := b.run_room clock hgenerator hsink today hfresh.crash_eq
    hfresh.buffer_eq (by rw [hfresh.size]; exact hfresh.room)
  rw [hfresh.settings, hfresh.newcomers, hfresh.size] at hlisted hreported
  have hwaves := b.waves_isWave sink clock st.elapsed
    (b.work generator today st.population st.source).buffers
  have hflatten := b.flatten_work generator today st.population st.source
  have hsent := hcounts.sent
  have hdeliveries := hcounts.deliveries
  have hevents := hcounts.events
  have hfailed := hcounts.failedUsers
  have hdays := hcounts.days
  have hnothing : st.sent.toList = [] ∧ st.issued = 0 ∧ st.report = {} := by
    rw [hfresh.state]
    exact ⟨rfl, rfl, rfl⟩
  rw [hnothing.1, hnothing.2.1, List.nil_append] at hsent
  rw [hnothing.2.2, Nat.zero_add] at hdeliveries hevents hfailed hdays
  rw [hfresh.settings] at hwaves
  generalize b.waves sink clock st.elapsed
    (b.work generator today st.population st.source).buffers = waves at hwaves hsent hdeliveries
  constructor
  case calls => exact b.work_calls generator today st.population st.source
  case once =>
    rw [hsent, events_numberFrom, waves_events hwaves, hflatten]
  case bulk =>
    intro d hd
    have hbatch : d.batch ∈ waves.flatten := by
      rw [← map_batch_numberFrom 0 waves.flatten, ← hsent]
      exact List.mem_map_of_mem hd
    obtain ⟨wave, hwave, hmem⟩ := List.mem_flatten.1 hbatch
    obtain ⟨buffer, -, hiswave⟩ := exists_right_of_forall₂ hwaves hwave
    exact hiswave.bulk _ hmem
  case buffers => exact hflatten
  case waves => exact ⟨waves, hwaves, hsent⟩
  case events => rw [hevents, hflatten]
  case deliveries =>
    rw [hdeliveries, ← Array.length_toList, hsent, length_numberFrom]
  case failedUsers => exact hfailed
  case nodup => exact b.work_nodup generator today st.population st.source
  case listed => exact hlisted
  case reported =>
    intro hended
    obtain ⟨hall, husers⟩ := hreported hended
    rw [hdays, hall]
    exact ⟨rfl, husers⟩

end Backfill

/-- A generator whose sessions fail after one event. -/
def Generator.stumbling : Generator := fun user start source =>
  { events := [{ type := "begin", time := start }], user, source
    stop := some (.error (.misconfigured "no pages")) }

theorem Generator.stumbling_goes (user : User) (start : Instant) (source : Source) (crash : Crash) :
    (stumbling user start source).stop ≠ some (.crash crash) := by
  intro h
  cases h

theorem Backfill.run_complete_stumbling :
    ∃ b st, (ofSettings {} 0).2 = .ok (b, st) ∧
      (∀ user start source crash,
        (Generator.stumbling user start source).stop ≠ some (.crash crash)) ∧
      (∀ batch, Sink.unavailable.crash? batch = none) ∧
      Complete {} .stumbling ⟨5, by decide⟩ (b.work .stumbling ⟨5, by decide⟩ st.population st.source)
        (b.run .stumbling .unavailable (.startingAt .zero) ⟨5, by decide⟩ st) := by
  obtain ⟨⟨b, st⟩, hmade⟩ := (ofSettings_judged {} 0).exists_ok (by decide) (by decide)
  exact ⟨b, st, hmade, Generator.stumbling_goes, fun _ => rfl, run_complete {} 0 b st hmade
    .stumbling .unavailable _ _ Generator.stumbling_goes fun _ => rfl⟩

end ShopTraffic
