import Mathlib
import ShopTraffic.Proofs.Deadlines
import ShopTraffic.Proofs.FullDelivery

/-!
# Deliveries that are on their way at once

All batches of a flush are on their way at once, and the next flush waits for their answers. So no
more batches are ever on their way than one flush has. The buffer is looked at after each user only:
it can be over its threshold by all that one user emitted on a day, and a user who emits more than a
batch holds can take a flush over the limit. The limit is kept exactly when no buffer holds more
events than the batches of the limit.

* `inFlight` — the deliveries on their way at a moment;
* `waves_inFlight_le`, `exists_inFlight` — no more than in the largest wave, and at one moment as many;
* `forall_waves_length_le`, `work_buffers_length_le` — the size of waves, and of the buffers;
* `inFlight_limits` — a whole backfill; `oneAtOnce_exceeded` — a user who exceeds the limit.
-/

set_option autoImplicit false

namespace ShopTraffic

open Chance

/-- A batch is on its way at a moment: it was handed over, and is not answered yet. -/
def Sink.awaits (sink : Sink) (moment : Nat) (batch : Batch) : Bool :=
  batch.elapsed ≤ moment ∧ moment < batch.elapsed + sink.latency batch

/-- How many deliveries are on their way at a moment. -/
def inFlight (sink : Sink) (sent : List Sent) (moment : Nat) : Nat :=
  (sent.filter fun d => sink.awaits moment d.batch).length

/-- Numbers do not matter for what is on its way. -/
theorem inFlight_numberFrom (sink : Sink) (issued : Nat) (batches : List Batch) (moment : Nat) :
    inFlight sink (numberFrom issued batches) moment =
      (batches.filter (sink.awaits moment)).length := by
  unfold inFlight
  conv_rhs => rw [← map_batch_numberFrom issued batches, List.filter_map, List.length_map]
  rfl

/-- No answer takes longer than the slowest one. -/
theorem Sink.latency_le_slowest (sink : Sink) {batches : List Batch} {batch : Batch}
    (h : batch ∈ batches) : sink.latency batch ≤ sink.slowest batches := by
  have hmem : sink.latency batch ∈ batches.map sink.latency := List.mem_map_of_mem h
  unfold slowest
  rw [List.foldl_max]
  cases hmax : (batches.map sink.latency).max? with
  | none =>
    rw [List.max?_eq_none_iff] at hmax
    rw [hmax] at hmem
    cases hmem
  | some slowest =>
    exact Nat.le_trans ((List.max?_eq_some_iff.1 hmax).2 _ hmem) (Nat.le_max_right _ _)

namespace Backfill

variable (b : Backfill) (sink : Sink) (clock : Clock)

theorem elapsed_of_mem_batchesOf {elapsed : Nat} {events : List Event} {batch : Batch}
    (h : batch ∈ b.batchesOf clock elapsed events) : batch.elapsed = elapsed := by
  obtain ⟨chunk, -, rfl⟩ := List.mem_map.1 h
  rfl

/-- No wave comes before the first one. -/
theorem le_elapsed_of_mem_waves {elapsed : Nat} {buffers : List (List Event)} {batch : Batch}
    (h : batch ∈ (b.waves sink clock elapsed buffers).flatten) : elapsed ≤ batch.elapsed := by
  induction buffers generalizing elapsed with
  | nil => cases h
  | cons buffer rest ih =>
    rcases List.mem_append.1 h with h | h
    · exact Nat.le_of_eq (b.elapsed_of_mem_batchesOf clock h).symm
    · exact Nat.le_trans (Nat.le_add_right _ _) (ih h)

/-- **Waves do not overlap**: at no moment are more batches on their way than one wave has. -/
theorem waves_inFlight_le {limit : Nat} {elapsed : Nat} {buffers : List (List Event)}
    (h : ∀ wave ∈ b.waves sink clock elapsed buffers, wave.length ≤ limit) (moment : Nat) :
    ((b.waves sink clock elapsed buffers).flatten.filter (sink.awaits moment)).length ≤ limit := by
  induction buffers generalizing elapsed with
  | nil => exact Nat.zero_le _
  | cons buffer rest ih =>
    obtain ⟨hwave, hlater⟩ := List.forall_mem_cons.1 h
    show ((b.batchesOf clock elapsed buffer ++ _).filter (sink.awaits moment)).length ≤ limit
    rw [List.filter_append, List.length_append]
    by_cases hearly : moment < elapsed + sink.slowest (b.batchesOf clock elapsed buffer)
    · -- the later waves are not handed over yet
      have hnone : ((b.waves sink clock (elapsed + sink.slowest (b.batchesOf clock elapsed buffer))
          rest).flatten.filter (sink.awaits moment)) = [] := by
        refine List.filter_eq_nil_iff.2 fun batch hbatch => ?_
        have := b.le_elapsed_of_mem_waves sink clock hbatch
        simp only [Sink.awaits, decide_eq_true_eq]
        omega
      rw [hnone]
      exact Nat.le_trans (List.length_filter_le _ _) hwave
    · -- this wave is answered
      have hnone : (b.batchesOf clock elapsed buffer).filter (sink.awaits moment) = [] := by
        refine List.filter_eq_nil_iff.2 fun batch hbatch => ?_
        have := sink.latency_le_slowest hbatch
        have := b.elapsed_of_mem_batchesOf clock hbatch
        simp only [Sink.awaits, decide_eq_true_eq]
        omega
      rw [hnone, List.length_nil, Nat.zero_add]
      exact ih hlater

/-- **Every wave is on its way as a whole** when it is handed over, where answers take some time. -/
theorem exists_inFlight (hslow : ∀ batch, 0 < sink.latency batch) {elapsed : Nat}
    {buffers : List (List Event)} {wave : List Batch}
    (h : wave ∈ b.waves sink clock elapsed buffers) :
    ∃ moment, wave.length ≤
      ((b.waves sink clock elapsed buffers).flatten.filter (sink.awaits moment)).length := by
  induction buffers generalizing elapsed with
  | nil => cases h
  | cons buffer rest ih =>
    rcases List.mem_cons.1 h with rfl | h
    · refine ⟨elapsed, ?_⟩
      have hall : (b.batchesOf clock elapsed buffer).filter (sink.awaits elapsed) =
          b.batchesOf clock elapsed buffer := by
        refine List.filter_eq_self.2 fun batch hbatch => ?_
        have := hslow batch
        have := b.elapsed_of_mem_batchesOf clock hbatch
        simp only [Sink.awaits, decide_eq_true_eq]
        omega
      show _ ≤ ((b.batchesOf clock elapsed buffer ++ _).filter (sink.awaits elapsed)).length
      rw [List.filter_append, List.length_append, hall]
      exact Nat.le_add_right _ _
    · obtain ⟨moment, hmoment⟩ := ih h
      refine ⟨moment, Nat.le_trans hmoment ?_⟩
      show _ ≤ ((b.batchesOf clock elapsed buffer ++ _).filter (sink.awaits moment)).length
      rw [List.filter_append, List.length_append]
      exact Nat.le_add_left _ _

/-- Waves are no longer than a limit when buffers are no larger than so many full batches. -/
theorem forall_waves_length_le {limit : Nat} {elapsed : Nat} {buffers : List (List Event)} :
    (∀ wave ∈ b.waves sink clock elapsed buffers, wave.length ≤ limit) ↔
      ∀ buffer ∈ buffers, buffer.length ≤ b.settings.eventsPerRequest * limit := by
  induction buffers generalizing elapsed with
  | nil => simp [waves]
  | cons buffer rest ih =>
    have hlength : (b.batchesOf clock elapsed buffer).length =
        (buffer.length + b.settings.eventsPerRequest - 1) / b.settings.eventsPerRequest := by
      unfold batchesOf
      rw [List.length_map, length_chunksOf b.batch_pos, (byTime_perm buffer).length_eq]
    have hpos := b.batch_pos
    show (∀ wave ∈ b.batchesOf clock elapsed buffer :: _, wave.length ≤ limit) ↔ _
    rw [List.forall_mem_cons, List.forall_mem_cons, ih, hlength,
      Nat.div_le_iff_le_mul_add_pred hpos]
    refine and_congr_left fun _ => ?_
    omega

/-- No buffer of some days is larger than the threshold and what one user emits on a day. -/
theorem daysWork_buffers_length_le (generator : Generator) (days : List Day) (p : Population)
    (s : Source) {k : Nat}
    (h : ∀ u ∈ (b.daysWork generator days p s).1.users, u.events.length ≤ k) :
    ∀ buffer ∈ (b.daysWork generator days p s).1.buffers,
      buffer.length ≤ b.settings.flushThreshold + k := by
  induction days generalizing p s with
  | nil => simp [daysWork]
  | cons day rest ih =>
    rw [daysWork] at h ⊢
    split at h
    · simp
    · rename_i grown _
      simp only [Work.followedBy, List.forall_mem_append] at h ⊢
      refine ⟨fun buffer hbuffer => ?_, ih _ _ h.2⟩
      exact (buffersOf_length_le h.1 buffer hbuffer).2

/-- **No buffer is larger** than the threshold and what one user emits on a day. -/
theorem work_buffers_length_le (generator : Generator) (today : Day) (p : Population) (s : Source)
    {k : Nat} (h : ∀ u ∈ (b.work generator today p s).users, u.events.length ≤ k) :
    ∀ buffer ∈ (b.work generator today p s).buffers,
      buffer.length ≤ b.settings.flushThreshold + k := by
  unfold work at h ⊢
  split at h
  · simp
  · exact b.daysWork_buffers_length_le generator _ p s h

variable {b} {sink} {clock}

/-- What is on its way in a backfill that has just begun, by the buffers that it handed over. -/
theorem Hands.inFlight {c : Settings} {st st' : BackfillState} {buffers : List (List Event)}
    (hfresh : b.Fresh c st) (h : b.Hands sink clock buffers st st') (moment : Nat) :
    inFlight sink st'.sent.toList moment =
      ((b.waves sink clock 0 buffers).flatten.filter (sink.awaits moment)).length := by
  have hstate := hfresh.state
  have hsent := h.sent
  rw [hstate] at hsent
  rw [hsent]
  exact inFlight_numberFrom sink 0 _ moment

section Runs

variable {c : Settings} {st : BackfillState} (clock)

/-- A backfill that breaks off, or not, has no more on its way than its largest buffer needs. -/
theorem run_inFlight_le (hfresh : b.Fresh c st) (generator : Generator) (sink : Sink) (today : Day)
    {limit : Nat} (h : ∀ buffer ∈ (b.work generator today st.population st.source).buffers,
      buffer.length ≤ b.settings.eventsPerRequest * limit) (moment : Nat) :
    inFlight sink (b.run generator sink clock today st).sent.toList moment ≤ limit := by
  obtain ⟨hand, ⟨buffers, hfirst, hhands⟩, -⟩ :=
    b.run_ships generator sink clock today hfresh.crash_eq hfresh.buffer_eq
  rw [hhands.inFlight hfresh]
  refine b.waves_inFlight_le sink clock ?_ moment
  rw [forall_waves_length_le]
  exact fun buffer hmem => h buffer (hfirst.subset hmem)

/-- **As much as the largest buffer needs is on its way**, where nothing breaks off and answers take
some time. -/
theorem run_inFlight_le_iff (hfresh : b.Fresh c st) {generator : Generator} {sink : Sink}
    (hgenerator : ∀ user start source crash,
      (generator user start source).stop ≠ some (.crash crash))
    (hsink : ∀ batch, sink.crash? batch = none) (hslow : ∀ batch, 0 < sink.latency batch)
    (today : Day) (limit : Nat) :
    (∀ moment, inFlight sink (b.run generator sink clock today st).sent.toList moment ≤ limit) ↔
      ∀ buffer ∈ (b.work generator today st.population st.source).buffers,
        buffer.length ≤ b.settings.eventsPerRequest * limit := by
  refine ⟨fun h => ?_, b.run_inFlight_le clock hfresh generator sink today⟩
  have hcounts := b.run_counts clock hgenerator hsink today hfresh.crash_eq hfresh.buffer_eq
  have hwaves : ∀ wave ∈ b.waves sink clock 0
      (b.work generator today st.population st.source).buffers, wave.length ≤ limit := by
    intro wave hwave
    obtain ⟨moment, hmoment⟩ := b.exists_inFlight sink clock hslow hwave
    rw [← hcounts.toHands.inFlight hfresh] at hmoment
    exact Nat.le_trans hmoment (h moment)
  exact (b.forall_waves_length_le sink clock).1 hwaves

end Runs

/-- **How many deliveries are on their way at once.** Whatever breaks off, there are no more than fill
the limit but one, and those of one user on one day. Where nothing breaks off and answers take some
time, the limit is kept exactly when no buffer holds more than the batches of the limit. -/
theorem inFlight_limits (c : Settings) (entropy : Nat) (b : Backfill) (st : BackfillState)
    (hmade : (ofSettings c entropy).2 = .ok (b, st)) (generator : Generator) (sink : Sink)
    (clock : Clock) (today : Day) :
    (∀ k, (∀ u ∈ (b.work generator today st.population st.source).users, u.events.length ≤ k) →
      ∀ moment, inFlight sink (b.run generator sink clock today st).sent.toList moment ≤
        c.backfill.maxRequests - 1 +
          (k + c.backfill.eventsPerRequest - 1) / c.backfill.eventsPerRequest) ∧
    ((∀ user start source crash, (generator user start source).stop ≠ some (.crash crash)) →
      (∀ batch, sink.crash? batch = none) → (∀ batch, 0 < sink.latency batch) →
      ((∀ moment, inFlight sink (b.run generator sink clock today st).sent.toList moment ≤
          c.backfill.maxRequests) ↔
        ∀ buffer ∈ (b.work generator today st.population st.source).buffers,
          buffer.length ≤ c.backfill.eventsPerRequest * c.backfill.maxRequests)) := by
  have hfresh := fresh_of_ofSettings hmade
  rw [← hfresh.settings]
  refine ⟨fun k hk => b.run_inFlight_le clock hfresh generator sink today fun buffer hmem => ?_,
    fun hgenerator hsink hslow => b.run_inFlight_le_iff clock hfresh hgenerator hsink hslow today _⟩
  have hlength := b.work_buffers_length_le generator today _ _ hk buffer hmem
  have hthreshold : b.settings.flushThreshold ≤
      b.settings.eventsPerRequest * (b.settings.maxRequests - 1) := Nat.min_le_left _ _
  have hceil := (Nat.div_le_iff_le_mul_add_pred b.batch_pos).1
    (Nat.le_refl ((k + b.settings.eventsPerRequest - 1) / b.settings.eventsPerRequest))
  have hpos := b.batch_pos
  rw [Nat.mul_add]
  omega

/-- One user a day with one session, one event in a delivery, and one delivery at once. -/
def oneAtOnce : Settings :=
  { seed := some 7
    workload := { activeChoices := [1], sessionCountChoices := [1] }
    backfill := { days := 1, eventsPerRequest := 1, maxRequests := 1, allUsers := 4 } }

/-- The work of the first day under these settings. -/
def oneAtOnceWork (generator : Generator) : Work :=
  match (ofSettings oneAtOnce 0).2 with
  | .ok (b, st) => b.work generator ⟨1, by decide⟩ st.population st.source
  | .error _ => {}

theorem oneAtOnceWork_eq {st : BackfillState} (hmade : (ofSettings oneAtOnce 0).2 = .ok (b, st))
    (generator : Generator) :
    oneAtOnceWork generator = b.work generator ⟨1, by decide⟩ st.population st.source := by
  unfold oneAtOnceWork
  simp only [hmade]

theorem inFlight_limits_stumbling :
    ∃ b st, (ofSettings oneAtOnce 0).2 = .ok (b, st) ∧
      (∀ u ∈ (b.work .stumbling ⟨1, by decide⟩ st.population st.source).users,
        u.events.length ≤ 1) ∧
      (∀ buffer ∈ (b.work .stumbling ⟨1, by decide⟩ st.population st.source).buffers,
        buffer.length ≤ oneAtOnce.backfill.eventsPerRequest * oneAtOnce.backfill.maxRequests) ∧
      ∀ moment, inFlight .slow (b.run .stumbling .slow (.startingAt .zero) ⟨1, by decide⟩
        st).sent.toList moment ≤ oneAtOnce.backfill.maxRequests := by
  obtain ⟨⟨b, st⟩, hmade⟩ := (ofSettings_judged oneAtOnce 0).exists_ok (by decide) (by decide)
  have husers : ∀ u ∈ (oneAtOnceWork .stumbling).users, u.events.length ≤ 1 :=
    List.all_iff_forall_prop.1 (by decide +kernel)
  have hlimits := inFlight_limits oneAtOnce 0 b st hmade .stumbling .slow (.startingAt .zero)
    ⟨1, by decide⟩
  rw [oneAtOnceWork_eq hmade] at husers
  -- one user with one event is within the limit, so the buffers are too
  have hlimit := hlimits.1 1 husers
  exact ⟨b, st, hmade, husers,
    (hlimits.2 Generator.stumbling_goes (fun _ => rfl) fun _ => Nat.succ_pos _).1 hlimit, hlimit⟩

/-- **One user exceeds the limit**: two events, in two deliveries that are on their way at once. -/
theorem oneAtOnce_exceeded :
    oneAtOnce.check = .ok () ∧
    ∃ b st, (ofSettings oneAtOnce 0).2 = .ok (b, st) ∧
      ∃ moment, oneAtOnce.backfill.maxRequests < inFlight .slow
        (b.run Surroundings.twoEvents.generator .slow (.startingAt .zero) ⟨1, by decide⟩
          st).sent.toList moment := by
  obtain ⟨⟨b, st⟩, hmade⟩ := (ofSettings_judged oneAtOnce 0).exists_ok (by decide) (by decide)
  have hfresh := fresh_of_ofSettings hmade
  have hlarge : ¬∀ buffer ∈ (oneAtOnceWork Surroundings.twoEvents.generator).buffers,
      buffer.length ≤ 1 * 1 := by
    rw [← List.all_iff_forall_prop]
    decide +kernel
  rw [oneAtOnceWork_eq hmade] at hlarge
  refine ⟨by decide, b, st, hmade, ?_⟩
  have hsink : ∀ batch, Sink.slow.crash? batch = none := fun _ => rfl
  have hiff := b.run_inFlight_le_iff (.startingAt .zero) hfresh Surroundings.twoEvents_quiet.generator
    hsink (fun _ => Nat.succ_pos _) ⟨1, by decide⟩ 1
  rw [hfresh.settings] at hiff
  by_contra hnone
  exact hlarge (hiff.1 fun moment => Nat.le_of_not_lt fun hlt => hnone ⟨moment, hlt⟩)

end Backfill

end ShopTraffic
