import Mathlib
import ShopTraffic.Proofs.Conservation
import ShopTraffic.Proofs.DeliveryOrder

/-!
# The counters of users

A user counts what its window assigns to it and what of that was handed over. No batch is more than
its user has still to send, so recording a delivery never fails for that reason; and between windows,
if no task crashed, what is assigned and not sent is what waits for the user in the backlog. That
holds for users whose build failed, who had nothing to do or who were not active as well, though
nothing resets their counters. Only a user for whom no window began keeps the counters that it came
with, whatever they are.

* `User.AsCame` — a user with the counters that it came with, for whom no window began;
* `TaskReport.Serves.counts`, `runWindow_counts` — a task, and a window, counts a user anew or leaves
  its counters alone;
* `StreamState.Filled`, `runWindow_filled` — no other user has more sent than assigned, which windows
  keep so;
* `StreamState.Counting`, `runWindow_counting` — all other users count what waits for them, which calm
  windows keep so;
* `record_silent` — who has nothing to do keeps the counters that it came with;
* `record_counters` — the two invariants over histories; `record_keepsCounters` — users who keep
  counters that are off.
-/

set_option autoImplicit false

namespace ShopTraffic

/-- What the window of a user holds beside what was sent can be recorded as sent. -/
theorem User.recordSent_ne_oversent {u : User} {count : Nat} (h : u.sent + count ≤ u.total)
    (user : String) (sent total : Nat) : u.recordSent count ≠ .error (.oversent user sent total) := by
  unfold recordSent checkedAdd
  split
  · simp [bind, Except.bind, h, pure, Except.pure]
  · simp [bind, Except.bind]

/-- The users whose windows began in an episode. -/
def Episode.begun (e : Episode) : List UserId := e.run.reports.flatMap (·.begun)

/-- A user has the counters that it came with, and its window began in none of the episodes. -/
structure User.AsCame (u : User) (came : Population) (es : List Episode) : Prop where
  counters : ∃ v ∈ came.users.toList, v.place = u.place ∧ v.total = u.total ∧ v.sent = u.sent
  idle : ∀ e ∈ es, u.id ∉ e.begun

namespace User

variable {u v : User} {came : Population} {es : List Episode} {e : Episode}

theorem asCame_of_mem (h : u ∈ came.users.toList) : u.AsCame came [] :=
  ⟨⟨u, h, rfl, rfl, rfl⟩, fun _ he => absurd he List.not_mem_nil⟩

/-- Sessions do not count. -/
theorem AsCame.resumes (h : u.AsCame came es) (hv : v.Resumes u) : v.AsCame came es := by
  obtain ⟨⟨w, hw, hplace, htotal, hsent⟩, hidle⟩ := h
  exact ⟨⟨w, hw, hplace.trans hv.place_eq.symm, htotal.trans hv.total_eq.symm,
    hsent.trans hv.sent_eq.symm⟩, hv.id_eq.symm ▸ hidle⟩

theorem AsCame.concat (h : u.AsCame came es) (he : u.id ∉ e.begun) : u.AsCame came (es ++ [e]) := by
  refine ⟨h.counters, fun e' he' => ?_⟩
  rcases List.mem_append.1 he' with he' | he'
  · exact h.idle e' he'
  · exact List.mem_singleton.1 he' ▸ he

/-- Who came with no more sent than assigned has no more sent than assigned. -/
theorem AsCame.fits (h : u.AsCame came es) (hcame : ∀ v ∈ came.users.toList, v.sent ≤ v.total) :
    u.sent ≤ u.total := by
  obtain ⟨v, hv, -, htotal, hsent⟩ := h.counters
  exact htotal ▸ hsent ▸ hcame v hv

/-- Who came with nothing to send has nothing to send. -/
theorem AsCame.unsent_eq_zero (h : u.AsCame came es)
    (hcame : ∀ v ∈ came.users.toList, v.unsent = 0) : u.unsent = 0 := by
  obtain ⟨v, hv, -, htotal, hsent⟩ := h.counters
  rw [unsent, ← htotal, ← hsent]
  exact hcame v hv

end User

/-- No user has more sent than its window holds, but those who may have come so. -/
def StreamState.Filled (st : StreamState) (came : Population) (es : List Episode) : Prop :=
  ∀ u ∈ st.population.users.toList, u.sent ≤ u.total ∨ u.AsCame came es

/-- The tasks of an episode leave no user with more sent than its window holds, but those who may have
come so, and hand over no batch that would make it so. -/
def Episode.Fits (e : Episode) (came : Population) (es : List Episode) : Prop :=
  ∀ r ∈ e.run.reports, (∀ v ∈ r.users, v.sent ≤ v.total ∨ v.AsCame came es) ∧
    ∀ a ∈ r.attempts, a.batch.Fits

/-- What a user has still to send is what waits for it in the backlog, unless nothing waits and the
user is as it came. -/
def StreamState.Counting (st : StreamState) (came : Population) (es : List Episode) : Prop :=
  ∀ u ∈ st.population.users.toList, u.unsent = (st.backlog.eventsOf u.id).length ∨
    st.backlog.eventsOf u.id = [] ∧ u.AsCame came es

namespace TaskReport

variable {r : TaskReport} {w : Window} {kept : List Event} {i : Intake} {as : List Attempt}
  {left : List Event} {v : User}

theorem crashed_of_run? {run : Run} (h : r.run? = some run) : r.crashed = run.broken.isSome := by
  unfold run? at h
  unfold crashed
  split at h
  · rename_i hfinish
    rw [hfinish]
    cases h
    rfl
  · cases h

/-- **A task counts a user anew or leaves its counters alone.** It counts it if the window of the user
begins: then the user has no more sent than assigned, and unless the task crashes, as much left to send
as the task returns for it. -/
theorem Serves.counts (h : r.Serves w kept i as left v) :
    v.sent ≤ v.total ∧
        (r.crashed = false → (∀ a ∈ as, a.recorded) → v.unsent = left.length) ∨
      v.Resumes i.user ∧ (i.carried = [] ∨ r.task.generates) ∧ i.user.id ∉ r.begun ∧
        (r.crashed = false → left = i.carried) := by
  have hunbegun : r.run? = none → i.user.id ∉ r.begun := fun hnone => by
    rw [begun, hnone]
    exact List.not_mem_nil
  cases h with
  | idle hnone hv hidle => exact .inr ⟨hv, .inl hnone, hidle, fun _ => hnone.symm⟩
  | @paced run u own as q hrun _ _ _ _ _ hdrained =>
    have hcounted := Queue.counted_beginWindow u (i.carried ++ own)
    refine .inl ⟨Nat.le_trans (Nat.le_add_right _ _) (hdrained.fits hcounted.fits), ?_⟩
    intro hcalm hrecorded
    rw [crashed_of_run? hrun] at hcalm
    rw [hcalm, if_neg Bool.false_ne_true]
    exact (hdrained.counts hrecorded hcounted).unsent
  | failed hgenerates hfinish hv =>
    exact .inr ⟨hv, .inr hgenerates, hunbegun (by rw [run?, hfinish]), fun _ => rfl⟩
  | crashed hgenerates hfinish hv =>
    refine .inr ⟨hv, .inr hgenerates, hunbegun (by rw [run?, hfinish]), fun hcalm => ?_⟩
    rw [TaskReport.crashed, hfinish] at hcalm
    cases hcalm

/-- Where nothing is carried in and nothing is new, a task leaves a user alone. -/
theorem Serves.resumes_of_nothing (h : r.Serves w [] i as left v) (hnone : i.carried = []) :
    v.Resumes i.user ∧ left = [] := by
  cases h with
  | idle _ hv _ => exact ⟨hv, rfl⟩
  | paced _ _ _ _ hown hne _ =>
    rw [hnone, List.sublist_nil.1 hown] at hne
    exact absurd rfl hne
  | failed _ _ hv => exact ⟨hv, hnone⟩
  | crashed _ _ hv => exact ⟨hv, rfl⟩

end TaskReport

namespace Streamer

variable {s : Streamer} {around : Surroundings} {st : StreamState} {came : Population}
  {past : List Episode}

/-! ## What a window does to the counters -/

theorem mem_begun {id : UserId} : id ∈ Episode.begun ⟨around, st, s.runWindow around st⟩ ↔
    ∃ t ∈ s.tasks around st, id ∈ (s.reportOf around st t).begun := by
  unfold Episode.begun
  simp only [runWindow_reports]
  rw [reports, List.flatMap_map, List.mem_flatMap]

/-- The window of a user begins in the task of the user. -/
theorem begun_of_task (hnd : ((s.allIntakes (s.opened around st)).map (·.user.id)).Nodup) {t : Task}
    (ht : t ∈ s.tasks around st) {i : Intake} (hi : i ∈ t.intakes)
    (h : i.user.id ∈ Episode.begun ⟨around, st, s.runWindow around st⟩) :
    i.user.id ∈ (s.reportOf around st t).begun := by
  rw [← task_intakes] at hnd
  have hown : (s.tasks around st).flatMap
        (fun t => (s.reportOf around st t).begun.filter (· = i.user.id)) =
      (s.reportOf around st t).begun.filter (· = i.user.id) := by
    refine flatMap_of_task (fun i => i.user.id) hnd ht hi fun t' _ hid => ?_
    refine List.filter_eq_nil_iff.2 fun id hbegun heq => hid ?_
    exact of_decide_eq_true heq ▸ (performed s around st t').begun_subset hbegun
  obtain ⟨t', ht', hbegun⟩ := mem_begun.1 h
  have hmem : i.user.id ∈ (s.tasks around st).flatMap
      (fun t => (s.reportOf around st t).begun.filter (· = i.user.id)) :=
    List.mem_flatMap.2 ⟨t', ht', List.mem_filter.2 ⟨hbegun, decide_eq_true rfl⟩⟩
  rw [hown] at hmem
  exact (List.mem_filter.1 hmem).1

theorem mem_allIntakes_of_begun {id : UserId}
    (h : id ∈ Episode.begun ⟨around, st, s.runWindow around st⟩) :
    id ∈ (s.allIntakes (s.opened around st)).map (·.user.id) := by
  obtain ⟨t, ht, hbegun⟩ := mem_begun.1 h
  exact ((intakes_sublist ht).map _).subset ((performed s around st t).begun_subset hbegun)

/-- A user that a task may leave alone is handed over as the population has it. -/
theorem user_of_left (h : st.Sound) {t : Task} (ht : t ∈ s.tasks around st) {i : Intake}
    (hi : i ∈ t.intakes) (hleft : i.carried = [] ∨ t.generates) :
    i.user ∈ (s.opened around st).population.users.toList := by
  refine Population.mem_of_getElem? (i := i.user.seat) ?_
  rcases hleft with hcarried | hgenerates
  · exact (user_of_mem_allIntakes (opened_sound h) (mem_allIntakes_of_task ht hi)).resolve_left
      (not_not_intro hcarried)
  · exact user_of_task ht hgenerates hi

/-- **A window counts a user anew or leaves its counters alone.** It leaves alone whose window does not
begin, and unless a task crashes, what waits for such a user goes on to wait. -/
theorem runWindow_counts (h : st.Sound) (hp : (s.opened around st).population.Distinct) {u : User}
    (hu : u ∈ (s.runWindow around st).state.population.users.toList) :
    u.sent ≤ u.total ∧
        (Episode.calm ⟨around, st, s.runWindow around st⟩ →
          u.unsent = ((s.runWindow around st).state.backlog.eventsOf u.id).length) ∨
      ∃ v ∈ (s.opened around st).population.users.toList, u.Resumes v ∧
        u.id ∉ Episode.begun ⟨around, st, s.runWindow around st⟩ ∧
        (Episode.calm ⟨around, st, s.runWindow around st⟩ →
          ((s.runWindow around st).state.backlog.eventsOf u.id).Perm
            (st.backlog.eventsOf u.id)) := by
  rcases served_or_untouched h hp hu with
    ⟨t, ht, i, hi, hid, hcarried, left, hserves, hleft⟩ | ⟨hu, hid, hbefore, hafter⟩
  · rcases hserves.counts with ⟨hfits, hcounts⟩ | ⟨hresumes, hkept, hidle, hsame⟩
    · refine .inl ⟨hfits, fun hcalm => ?_⟩
      have hcalm := (episode_calm s around st).1 hcalm
      rw [hleft.length_eq]
      exact hcounts (hcalm t ht) fun a ha => recorded_of_calm hcalm a (List.mem_filter.1 ha).1
    · rw [(performed s around st t).task_eq] at hkept
      refine .inr ⟨i.user, user_of_left h ht hi hkept, hresumes, fun hbegun => ?_, fun hcalm => ?_⟩
      · rw [← hid] at hbegun
        exact hidle (begun_of_task (allIntakes_nodup (opened_sound h) hp).1 ht hi hbegun)
      · rw [← hcarried, ← hsame ((episode_calm s around st).1 hcalm t ht)]
        exact hleft
  · refine .inr ⟨u, hu, .refl u, fun hbegun => hid (mem_allIntakes_of_begun hbegun), fun _ => ?_⟩
    rw [hbefore, hafter]

/-! ## No user has more sent than assigned -/

theorem opened_filled (hst : st.Filled came past) : (s.opened around st).Filled came past := by
  intro u hu
  rcases opened_new s around st hu with hu | ⟨hsent, htotal, -⟩
  · exact hst u hu
  · rw [hsent, htotal]
    exact .inl (Nat.le_refl 0)

/-- The tasks of a window write back no user with more sent than assigned, but those who may have come
so, and hand over no batch that would make it so. -/
theorem runWindow_fits (h : st.Sound) (hst : st.Filled came past) :
    Episode.Fits ⟨around, st, s.runWindow around st⟩ came past := by
  intro r hr
  simp only [runWindow_reports] at hr
  obtain ⟨t, ht, rfl⟩ := List.mem_map.1 hr
  obtain ⟨husers, hbatches⟩ := (performed s around st t).fits
  refine ⟨fun v hv => ?_, hbatches⟩
  rcases husers v hv with hfits | ⟨i, hi, hleft, hresumes⟩
  · exact .inl hfits
  · rcases opened_filled hst i.user (user_of_left h ht hi hleft) with hfits | hcame
    · rw [hresumes.sent_eq, hresumes.total_eq]
      exact .inl hfits
    · exact .inr (hcame.resumes hresumes)

/-- **A window leaves no user with more sent than assigned**, but those who may have come so. -/
theorem runWindow_filled (h : st.Sound) (hp : (s.opened around st).population.Distinct)
    (hst : st.Filled came past) : (s.runWindow around st).state.Filled came
      (past ++ [⟨around, st, s.runWindow around st⟩]) := by
  intro u hu
  rcases runWindow_counts h hp hu with ⟨hfits, -⟩ | ⟨v, hv, hresumes, hidle, -⟩
  · exact .inl hfits
  · rcases opened_filled hst v hv with hfits | hcame
    · rw [hresumes.sent_eq, hresumes.total_eq]
      exact .inl hfits
    · exact .inr ((hcame.resumes hresumes).concat hidle)

/-! ## Users count what waits for them -/

/-- Nothing waits for newcomers, and they have nothing to send. -/
theorem opened_counting (h : st.Sound) (hp : (s.opened around st).population.Distinct)
    (hst : st.Counting came past) : (s.opened around st).Counting came past := by
  intro u hu
  rw [opened_backlog]
  rcases opened_new s around st hu with hold | ⟨hsent, htotal, hseat⟩
  · exact hst u hold
  · have hnone : st.backlog.eventsOf u.id = [] := by
      refine Backlog.eventsOf_eq_nil fun c hc hid => ?_
      have hplace := h.resident c hc
      have hsame := hp.seat_eq_of_id_eq ((opened_population s around st).subset hplace)
        (Population.place_mem hu) hid
      obtain ⟨x, hx, -⟩ := Population.mem_places.1 hplace
      have hlt := (Array.getElem?_eq_some_iff.1 hx).1
      unfold Population.size at hseat
      omega
    rw [hnone, User.unsent, hsent, htotal]
    exact .inl rfl

/-- **A window without a crash leaves every user counting what waits for it**, or as it came with
nothing waiting. -/
theorem runWindow_counting (h : st.Sound) (hp : (s.opened around st).population.Distinct)
    (hcalm : Episode.calm ⟨around, st, s.runWindow around st⟩) (hst : st.Counting came past) :
    (s.runWindow around st).state.Counting came
      (past ++ [⟨around, st, s.runWindow around st⟩]) := by
  intro u hu
  rcases runWindow_counts h hp hu with ⟨-, hcounts⟩ | ⟨v, hv, hresumes, hidle, hwaits⟩
  · exact .inl (hcounts hcalm)
  · have hcounts := opened_counting h hp hst v hv
    have hunsent : u.unsent = v.unsent := by
      rw [User.unsent, hresumes.total_eq, hresumes.sent_eq, User.unsent]
    rw [opened_backlog, ← hresumes.id_eq, ← hunsent] at hcounts
    rw [(hwaits hcalm).length_eq]
    exact hcounts.imp_right fun hcame =>
      ⟨(hcame.1 ▸ hwaits hcalm).eq_nil, (hcame.2.resumes hresumes).concat hidle⟩

/-! ## Users with nothing to do -/

/-- Where nothing waits and no session has an event, a window leaves the counters of all users alone. -/
theorem runWindow_silent (h : st.Sound) (hp : (s.opened around st).population.Distinct)
    (hnone : st.backlog.entries = [])
    (hsilent : ∀ user start source, (around.generator user start source).events = []) {v : User}
    (hv : v ∈ st.population.users.toList) :
    ∃ u ∈ (s.runWindow around st).state.population.users.toList, u.Resumes v ∧
      (s.runWindow around st).state.backlog.eventsOf u.id = [] := by
  have hplaces := opened_population s around st
  rw [← runWindow_places h] at hplaces
  obtain ⟨u, hu, hplace⟩ := List.mem_map.1 (hplaces.subset (Population.place_mem hv))
  obtain ⟨hleft, w, hw, hresumes⟩ : (s.runWindow around st).state.backlog.eventsOf u.id = [] ∧
      ∃ w ∈ (s.opened around st).population.users.toList, u.Resumes w := by
    rcases served_or_untouched h hp hu with
      ⟨t, ht, i, hi, -, hcarried, left, hserves, hleft⟩ | ⟨hu, -, -, hafter⟩
    · rw [Backlog.eventsOf_eq_nil (by simp [hnone])] at hcarried
      rw [Task.kept_of_silent hsilent] at hserves
      obtain ⟨hresumes, rfl⟩ := hserves.resumes_of_nothing hcarried
      exact ⟨hleft.eq_nil, i.user, user_of_left h ht hi (.inl hcarried), hresumes⟩
    · exact ⟨hafter, u, hu, .refl u⟩
  have hseat : w.seat = v.seat := hresumes.seat_eq.symm.trans (congrArg Prod.snd hplace)
  have hbefore := Population.getElem?_seat hv
  rcases opened_new s around st hw with hold | ⟨-, -, hnew⟩
  · have hsame := Population.getElem?_seat hold
    rw [hseat, hbefore] at hsame
    cases hsame
    exact ⟨u, hu, hresumes, hleft⟩
  · have hlt : v.seat < st.population.size := (Array.getElem?_eq_some_iff.1 hbefore).1
    exact absurd (hseat ▸ hnew) (Nat.not_le_of_lt hlt)

/-- Such a window is calm, where nothing crashes. -/
theorem calm_of_silent (h : st.Sound) (hquiet : around.Quiet) (hnone : st.backlog.entries = [])
    (hsilent : ∀ user start source, (around.generator user start source).events = []) :
    Episode.calm ⟨around, st, s.runWindow around st⟩ := by
  have hkept : s.newlyKept around st = [] :=
    List.flatMap_eq_nil_iff.2 fun _ _ => Task.kept_of_silent hsilent
  have hroom : st.backlog.events.length + (s.newlyKept around st).length < 0x10000000000000000 := by
    rw [hkept, Backlog.events, hnone]
    decide
  exact (episode_calm s around st).2 fun _ ht => reportOf_calm h hquiet hroom ht

/-- **Who has nothing to do keeps the counters that it came with**: over a window without events all
users do, and nothing waits for them. -/
theorem record_silent (s : Streamer) (population : Population) (entropy : Nat) {o : Occasion}
    {es : List Episode} {st : StreamState}
    (h : s.record [o] (s.start population entropy) = .ok (es, st)) (hp : st.population.Distinct)
    (hquiet : o.around.Quiet)
    (hsilent : ∀ user start source, (o.around.generator user start source).events = []) :
    (∀ e ∈ es, e.calm) ∧ ∀ v ∈ population.users.toList, ∃ u ∈ st.population.users.toList,
      u.Resumes v ∧ st.backlog.eventsOf u.id = [] := by
  cases recorded_of_record h with
  | cons hrest =>
    have hsound : ((s.start population entropy).wait o.wait).Sound :=
      wait_sound (start_sound s population entropy) o.wait
    have hopened := hrest.distinct_opened (start_sound s population entropy) hp
    cases hrest
    exact ⟨List.forall_mem_singleton.2 (calm_of_silent hsound hquiet rfl hsilent),
      fun _ hv => runWindow_silent hsound hopened rfl hsilent hv⟩

/-! ## Histories -/

/-- **Counters and queues agree**, but for users who keep the counters that they came with. No other
user ever has more sent than assigned, neither between windows nor as a task leaves it, and no batch is
more than its user has still to send, so that recording it never fails for that. If no task crashed,
every user counts as unsent what waits for it in the backlog, or nothing waits for it and no window
began for it. Where all users come with no more sent than assigned, or with nothing to send, there are
no exceptions; the users of a new population come so. -/
theorem record_counters (s : Streamer) (population : Population) (entropy : Nat)
    {os : List Occasion} {es : List Episode} {st : StreamState}
    (h : s.record os (s.start population entropy) = .ok (es, st)) (hp : st.population.Distinct) :
    (∀ u ∈ st.population.users.toList, u.sent ≤ u.total ∨ u.AsCame population es) ∧
      (∀ (before : List Episode) (e : Episode), before ++ [e] <+: es → ∀ r ∈ e.run.reports,
        (∀ v ∈ r.users, v.sent ≤ v.total ∨ v.AsCame population before) ∧
        ∀ a ∈ r.attempts, ∃ u, a.batch.owner = some u ∧
          u.sent + a.batch.events.length ≤ u.total ∧ ∀ user sent total,
            u.recordSent a.batch.events.length ≠ .error (.oversent user sent total)) ∧
      ((∀ e ∈ es, e.calm) → ∀ u ∈ st.population.users.toList,
        u.unsent = (st.backlog.eventsOf u.id).length ∨
          st.backlog.eventsOf u.id = [] ∧ u.AsCame population es) ∧
      ((∀ u ∈ population.users.toList, u.sent ≤ u.total) →
        (∀ u ∈ st.population.users.toList, u.sent ≤ u.total) ∧
          ∀ e ∈ es, ∀ r ∈ e.run.reports, ∀ v ∈ r.users, v.sent ≤ v.total) ∧
      ((∀ u ∈ population.users.toList, u.unsent = 0) → (∀ e ∈ es, e.calm) →
        ∀ u ∈ st.population.users.toList, u.unsent = (st.backlog.eventsOf u.id).length) ∧
      ∀ mix n source rest, Population.generate mix n source = .ok (population, rest) →
        population.Fresh := by
  have hrecorded := recorded_of_record h
  have hsound := start_sound s population entropy
  have hnow : (s.start population entropy).Filled population [] := fun _ hu =>
    .inr (User.asCame_of_mem hu)
  have hwaits : (s.start population entropy).Counting population [] := fun _ hu =>
    .inr ⟨rfl, User.asCame_of_mem hu⟩
  obtain ⟨hfilled, hfits⟩ := hrecorded.preserves_past (P := fun past st => st.Filled population past)
    (A := fun _ => True) (Q := fun past e => e.Fits population past) (fun _ _ _ hst => hst)
    (fun _ _ _ hsound hopened hst _ =>
      ⟨runWindow_filled hsound hopened hst, runWindow_fits hsound hst⟩)
    hsound hp [] hnow fun _ _ => trivial
  have hcounting : (∀ e ∈ es, e.calm) → st.Counting population es := fun hcalm =>
    (hrecorded.preserves_past (P := fun past st => st.Counting population past)
      (Q := fun _ _ => True) (fun _ _ _ hst => hst)
      (fun _ _ _ hsound hopened hst hcalm =>
        ⟨runWindow_counting hsound hopened hcalm hst, trivial⟩)
      hsound hp [] hwaits hcalm).1
  refine ⟨hfilled, fun before e he r hr => ⟨(hfits before e he r hr).1, fun a ha => ?_⟩, hcounting,
    fun hcame => ⟨fun u hu => ?_, fun e he r hr v hv => ?_⟩, fun hcame hcalm u hu => ?_,
    fun mix n source rest hnew => Population.generate_fresh hnew⟩
  · obtain ⟨u, howner, hsent⟩ := (hfits before e he r hr).2 a ha
    exact ⟨u, howner, hsent, User.recordSent_ne_oversent hsent⟩
  · exact (hfilled u hu).elim id fun h => h.fits hcame
  · obtain ⟨before, after, rfl⟩ := List.append_of_mem he
    have hbefore : before ++ [e] <+: before ++ e :: after := ⟨after, by simp⟩
    exact ((hfits before e hbefore r hr).1 v hv).elim id fun h => h.fits hcame
  · rcases hcounting hcalm u hu with hcounts | ⟨hnone, hcame'⟩
    · exact hcounts
    · rw [hcame'.unsent_eq_zero hcame, hnone]
      rfl

theorem record_counters_daily : ∃ es st,
    daily.record Occasion.twoDays (daily.start .single 0) = .ok (es, st) ∧
      st.population.Distinct ∧ (∀ e ∈ es, e.calm) ∧ Population.single.Fresh ∧
      (∀ u ∈ st.population.users.toList, u.sent ≤ u.total) ∧
      (∀ (before : List Episode) (e : Episode), before ++ [e] <+: es → ∀ r ∈ e.run.reports,
        (∀ v ∈ r.users, v.sent ≤ v.total) ∧
        ∀ a ∈ r.attempts, ∃ u, a.batch.owner = some u ∧
          u.sent + a.batch.events.length ≤ u.total ∧ ∀ user sent total,
            u.recordSent a.batch.events.length ≠ .error (.oversent user sent total)) ∧
      ∀ u ∈ st.population.users.toList, u.unsent = (st.backlog.eventsOf u.id).length := by
  obtain ⟨es, st, h, hsize⟩ := daily_record
  have hp := Population.distinct_of_size_le_one hsize
  have hcalm := daily_calm h hsize
  have hfresh : Population.single.Fresh := by unfold Population.Fresh; decide
  obtain ⟨-, hreports, -, hfilled, hcounting, -⟩ := record_counters daily .single 0 h hp
  obtain ⟨husers, hleft⟩ := hfilled fun u hu => (hfresh u hu).1
  refine ⟨es, st, h, hp, hcalm, hfresh, husers, fun before e he r hr => ⟨?_, ?_⟩,
    hcounting (fun u hu => (hfresh u hu).2) hcalm⟩
  · exact hleft e (he.subset (by simp)) r hr
  · exact (hreports before e he r hr).2

end Streamer

/-- Sessions without events, on a clock that keeps time. -/
def Surroundings.silent : Surroundings :=
  { Surroundings.twoEvents with generator := fun user _ source => { events := [], user, source } }

/-- A population of one user, who comes with the given counters. -/
def Population.coming (total sent : Nat) : Population :=
  .ofUsers (Population.single.users.toList.map fun u => { u with total, sent })

namespace Streamer

theorem daily_silent (total sent : Nat) : ∃ es st,
    daily.record [{ around := .silent }] (daily.start (.coming total sent) 0) = .ok (es, st) ∧
      st.population.Distinct ∧ (∀ e ∈ es, e.calm) ∧
      ∃ u ∈ st.population.users.toList,
        u.total = total ∧ u.sent = sent ∧ st.backlog.eventsOf u.id = [] := by
  have hroom : (Population.coming total sent).size + 1 * 0 ≤ maxItems := by
    show 1 ≤ maxItems
    decide
  have hquiet : Surroundings.silent.Quiet := ⟨fun _ _ _ _ hstop => (nomatch hstop), fun _ => rfl⟩
  obtain ⟨es, st, h, hsize⟩ := record_ok (s := daily) [{ around := .silent }]
    (daily.start (.coming total sent) 0) (start_sound daily _ 0) hroom
  have hp : st.population.Distinct := Population.distinct_of_size_le_one hsize
  obtain ⟨hcalm, hkept⟩ := record_silent daily _ 0 h hp hquiet fun _ _ _ => rfl
  obtain ⟨u, hu, hresumes, hnone⟩ := hkept _ List.mem_cons_self
  exact ⟨es, st, h, hp, hcalm, u, hu, hresumes.total_eq, hresumes.sent_eq, hnone⟩

/-- A user who comes with nine events to send has them still to send while nothing waits for it, and one
who comes with more sent than assigned goes on so. -/
theorem record_keepsCounters :
    (∃ es st, daily.record [{ around := .silent }] (daily.start (.coming 9 0) 0) = .ok (es, st) ∧
      st.population.Distinct ∧ (∀ e ∈ es, e.calm) ∧
      ¬∀ u ∈ st.population.users.toList, u.unsent = (st.backlog.eventsOf u.id).length) ∧
    ∃ es st, daily.record [{ around := .silent }] (daily.start (.coming 0 1) 0) = .ok (es, st) ∧
      st.population.Distinct ∧ (∀ e ∈ es, e.calm) ∧
      ¬∀ u ∈ st.population.users.toList, u.sent ≤ u.total := by
  obtain ⟨es, st, h, hp, hcalm, u, hu, htotal, hsent, hnone⟩ := daily_silent 9 0
  obtain ⟨es', st', h', hp', hcalm', v, hv, htotal', hsent', -⟩ := daily_silent 0 1
  refine ⟨⟨es, st, h, hp, hcalm, fun hall => ?_⟩, es', st', h', hp', hcalm', fun hall => ?_⟩
  · have hcounts := hall u hu
    rw [User.unsent, htotal, hsent, hnone] at hcounts
    cases hcounts
  · have hfits := hall v hv
    rw [htotal', hsent'] at hfits
    exact absurd hfits (by decide)

end Streamer

end ShopTraffic
