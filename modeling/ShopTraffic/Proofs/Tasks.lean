import Mathlib
import ShopTraffic.Proofs.Backlog
import ShopTraffic.Proofs.Building
import ShopTraffic.Proofs.Runs

/-!
# What a task does

A task takes the events carried in and those its build keeps, hands some over and returns the rest.

* `Task.Performed`, `perform_performed` — how a task ends; all that follows is read off its cases;
* `Performed.events`, `Performed.generated` — unless it crashes, a task loses no event and counts those
  it keeps;
* `TaskReport.begun` — the users whose windows it began, which are users of the task;
* `TaskReport.Serves` — what a task does for one of its users, by the way it ends;
  `Performed.serves` — every user of a task is served, where the users of the task are different ones;
* `User.written` — a user once others are written to its seat.
-/

set_option autoImplicit false

namespace ShopTraffic

/-! ## Lists -/

theorem sublist_flatMap_of_mem {α β : Type} (f : α → List β) {x : α} {xs : List α} (h : x ∈ xs) :
    (f x).Sublist (xs.flatMap f) :=
  List.sublist_flatten_of_mem (List.mem_map_of_mem h)

theorem exists_left_of_forall₂ {α β : Type} {R : α → β → Prop} {xs : List α} {ys : List β}
    (h : List.Forall₂ R xs ys) {y : β} (hy : y ∈ ys) : ∃ x ∈ xs, R x y := by
  induction h with
  | nil => cases hy
  | cons hr _ ih =>
    rcases List.mem_cons.1 hy with rfl | hy
    · exact ⟨_, List.mem_cons_self, hr⟩
    · obtain ⟨x, hx, hr⟩ := ih hy
      exact ⟨x, List.mem_cons_of_mem _ hx, hr⟩

theorem exists_right_of_forall₂ {α β : Type} {R : α → β → Prop} {xs : List α} {ys : List β}
    (h : List.Forall₂ R xs ys) {x : α} (hx : x ∈ xs) : ∃ y ∈ ys, R x y :=
  exists_left_of_forall₂ h.flip hx

theorem map_eq_of_forall₂ {α β γ : Type} {R : α → β → Prop} {f : α → γ} {g : β → γ}
    (hfg : ∀ x y, R x y → f x = g y) {xs : List α} {ys : List β} (h : List.Forall₂ R xs ys) :
    xs.map f = ys.map g := by
  induction h with
  | nil => rfl
  | cons hr _ ih => rw [List.map_cons, List.map_cons, hfg _ _ hr, ih]

/-- Every user that a build leaves is one that it was handed. -/
theorem exists_intake_of_resumes {users : List User} {intakes : List Intake}
    (h : List.Forall₂ User.Resumes users (intakes.map (·.user))) {v : User} (hv : v ∈ users) :
    ∃ i ∈ intakes, v.Resumes i.user := by
  obtain ⟨u, hu, hresumes⟩ := exists_right_of_forall₂ h hv
  obtain ⟨i, hi, rfl⟩ := List.mem_map.1 hu
  exact ⟨i, hi, hresumes⟩

/-! ## Users written over -/

/-- A user once others are written back in order: the last one on its seat counts. -/
def User.written (u : User) (vs : List User) : User :=
  vs.foldl (fun u v => if v.seat = u.seat then v else u) u

namespace User

theorem written_append (u : User) (vs ws : List User) :
    u.written (vs ++ ws) = (u.written vs).written ws :=
  List.foldl_append

theorem seat_written (u : User) (vs : List User) : (u.written vs).seat = u.seat := by
  unfold written
  induction vs generalizing u with
  | nil => rfl
  | cons v vs ih =>
    rw [List.foldl_cons, ih]
    split
    · assumption
    · rfl

theorem written_eq_self {u : User} {vs : List User} (h : u.seat ∉ vs.map (·.seat)) :
    u.written vs = u := by
  unfold written
  induction vs with
  | nil => rfl
  | cons v vs ih =>
    rw [List.map_cons, List.mem_cons, not_or] at h
    rw [List.foldl_cons, if_neg (Ne.symm h.1)]
    exact ih h.2

theorem written_of_mem {u v : User} {vs : List User} (h : (vs.map (·.seat)).Nodup) (hv : v ∈ vs)
    (hseat : v.seat = u.seat) : u.written vs = v := by
  induction vs generalizing u with
  | nil => cases hv
  | cons w vs ih =>
    obtain ⟨hw, hvs⟩ := List.nodup_cons.1 h
    rcases List.mem_cons.1 hv with rfl | hv
    · unfold written
      rw [List.foldl_cons, if_pos hseat]
      exact written_eq_self hw
    · have hne : w.seat ≠ u.seat := fun heq =>
        hw (List.mem_map.2 ⟨v, hv, hseat.trans heq.symm⟩)
      unfold written
      rw [List.foldl_cons, if_neg hne]
      exact ih hvs hv hseat

end User

/-! ## What is returned -/

theorem heldFor_leftovers (p : UserId → Bool) (qs : List Queue) :
    heldFor p (leftovers qs) = queuedEvents (qs.filter (p ·.user.id)) := by
  unfold leftovers
  induction qs with
  | nil => rfl
  | cons q rest ih =>
    rw [List.filterMap_cons, List.filter_cons]
    by_cases hq : q.events.isEmpty
    · rw [if_pos hq]
      simp only
      rw [ih]
      split
      · simp [queuedEvents, List.isEmpty_iff.1 hq]
      · rfl
    · rw [if_neg hq]
      simp only
      rw [heldFor_cons, ih]
      split
      · rfl
      · rfl

theorem heldFor_returnedOf (p : UserId → Bool) {users : List User} {intakes : List Intake}
    (h : List.Forall₂ User.Resumes users (intakes.map (·.user))) :
    heldFor p (returnedOf users intakes) =
      (intakes.filter (p ·.user.id)).flatMap (·.carried) := by
  unfold returnedOf
  rw [List.forall₂_map_right_iff] at h
  induction h with
  | nil => rfl
  | cons hr _ ih =>
    rename_i v i vs is _
    rw [List.zip_cons_cons, List.filterMap_cons, List.filter_cons]
    by_cases hi : i.carried.isEmpty
    · simp only [if_pos hi]
      rw [ih]
      split
      · simp [List.isEmpty_iff.1 hi]
      · rfl
    · simp only [if_neg hi]
      rw [heldFor_cons, ih, hr.id_eq]
      split <;> rfl

theorem leftovers_places (qs : List Queue) :
    ((leftovers qs).map (·.user.place)).Sublist (qs.map (·.user.place)) ∧
      ∀ c ∈ leftovers qs, c.events ≠ [] := by
  unfold leftovers
  induction qs with
  | nil => exact ⟨.slnil, fun _ hc => absurd hc List.not_mem_nil⟩
  | cons q rest ih =>
    rw [List.filterMap_cons]
    by_cases hq : q.events.isEmpty
    · simp only [if_pos hq]
      exact ⟨ih.1.cons _, ih.2⟩
    · simp only [if_neg hq]
      exact ⟨ih.1.cons_cons _, List.forall_mem_cons.2 ⟨fun h => hq (List.isEmpty_iff.2 h), ih.2⟩⟩

theorem returnedOf_places {users : List User} {intakes : List Intake}
    (h : List.Forall₂ User.Resumes users (intakes.map (·.user))) :
    ((returnedOf users intakes).map (·.user.place)).Sublist (intakes.map (·.user.place)) ∧
      ∀ c ∈ returnedOf users intakes, c.events ≠ [] := by
  obtain ⟨hback, -⟩ := returnedOf_handedBack h
  constructor
  · rw [map_eq_of_forall₂ (fun _ _ hc => hc.1.place_eq) hback]
    exact List.filter_sublist.map _
  · intro c hc
    obtain ⟨i, hi, -, hevents⟩ := exists_right_of_forall₂ hback hc
    have hcarried := (List.mem_filter.1 hi).2
    rw [hevents]
    simpa using hcarried

/-! ## A task as a whole -/

theorem paced_of_run {sink : Sink} {clock : Clock} {interval : Interval} {grace : Nat}
    {finish : Instant} {queues : List Queue} {start : Nat} {run : Run}
    (h : run = pace sink clock interval grace finish queues start) :
    Paced queues run.attempts run.queues :=
  h ▸ pace_paced sink clock interval grace finish queues start

/-- How a task can end. -/
inductive Task.Performed (t : Task) (pace : Pace) (around : Surroundings) (w : Window)
    (start : Nat) (kept : List Event) : TaskReport → Prop
  | paced {drafts : List Draft} {tally : Tally} {users : List User} {run : Run} :
    List.Forall₂ Draft.Of drafts t.intakes → drafts.flatMap (·.kept w) = kept →
    tally.generated = kept.length →
    users = drafts.map (·.settledUser w) ∨ users = [] ∧ drafts = t.intakes.map .resting →
    run = ShopTraffic.pace around.sink (around.taskClock t.shard) pace.interval pace.grace w.finish
      (drafts.filterMap (·.queue? w)) start →
    Performed t pace around w start kept
      ⟨t, .paced tally run, users ++ run.queues.map (·.user), run.elapsed⟩
  | failed {cause : GenerationError} {users : List User} :
    t.generates → kept = [] → List.Forall₂ User.Resumes users (t.intakes.map (·.user)) →
    Performed t pace around w start kept
      ⟨t, .buildFailed cause (returnedOf users t.intakes), users, start⟩
  | crashed {crash : Crash} {users : List User} :
    t.generates → List.Forall₂ User.Resumes users (t.intakes.map (·.user)) →
    Performed t pace around w start kept ⟨t, .buildCrashed crash, users, start⟩

/-- **How a task ends.** -/
theorem Task.perform_performed (t : Task) (p : Planner) (pace : Pace) (around : Surroundings)
    (w : Window) (start : Nat) :
    t.Performed pace around w start (t.kept p around.generator w)
      (t.perform p pace around w start) := by
  have hprepared := t.prepare_prepared p around.generator w
  unfold perform
  generalize t.prepare p around.generator w = prepared at hprepared
  cases hprepared with
  | built hdrafts hkept hgenerated husers => exact .paced hdrafts hkept hgenerated husers rfl
  | failed hgenerates hkept husers => exact .failed hgenerates hkept husers
  | crashed hgenerates husers => exact .crashed hgenerates husers

namespace Task.Performed

variable {t : Task} {pace : Pace} {around : Surroundings} {w : Window} {start : Nat}
  {kept : List Event} {r : TaskReport}

theorem task_eq (h : t.Performed pace around w start kept r) : r.task = t := by
  cases h <;> rfl

/-- **A run loses no event and invents none**: what it handed over and what its queues still hold is
what was carried in and what its build kept. -/
theorem run_events (h : t.Performed pace around w start kept r) {run : Run}
    (hrun : r.run? = some run) :
    ((r.attempts.flatMap (·.batch.events) : List Event) : Multiset Event) +
        queuedEvents run.queues =
      (t.intakes.flatMap (·.carried) : List Event) + (kept : Multiset Event) := by
  cases h with
  | @paced drafts tally users _ hdrafts hkept _ _ hpace =>
    cases hrun
    have hcarried : drafts.map (·.carried) = t.intakes.map (·.carried) :=
      map_eq_of_forall₂ (fun _ _ hof => hof.carried) hdrafts
    show ((run.attempts.flatMap (·.batch.events) : List Event) : Multiset Event) + _ = _
    rw [(paced_of_run hpace).events, queuedEvents_queues, coe_queued, hkept, List.flatMap_def,
      hcarried, ← List.flatMap_def]
  | failed _ _ _ => cases hrun
  | crashed _ _ => cases hrun

/-- **A task that does not crash loses no event and invents none.** -/
theorem events (h : t.Performed pace around w start kept r) (hcalm : r.crashed = false) :
    ((r.attempts.flatMap (·.batch.events) : List Event) : Multiset Event) +
        (r.returned.flatMap (·.events) : List Event) =
      (t.intakes.flatMap (·.carried) : List Event) + (kept : Multiset Event) := by
  cases h with
  | @paced drafts tally users run hdrafts hkept hgenerated husers hrun =>
    have hnot : run.broken.isSome = false := hcalm
    rw [← run_events (.paced hdrafts hkept hgenerated husers hrun) rfl]
    simp only [TaskReport.returned, hnot, Bool.false_eq_true, if_false]
    rw [← heldFor_true, heldFor_leftovers, List.filter_true]
  | failed _ hkept husers =>
    simp only [TaskReport.attempts, TaskReport.run?, TaskReport.returned, Option.map_none,
      Option.getD_none, List.flatMap_nil]
    rw [← heldFor_true, heldFor_returnedOf _ husers, List.filter_true, hkept]
    exact add_comm _ _
  | crashed _ _ => cases hcalm

/-- A task that does not crash counts the new events it keeps. -/
theorem generated (h : t.Performed pace around w start kept r) (hcalm : r.crashed = false) :
    totalOf (·.generated) r.tally?.toList = kept.length := by
  cases h with
  | paced _ _ hgenerated _ _ => exact hgenerated
  | failed _ hkept _ => rw [hkept]; rfl
  | crashed _ _ => cases hcalm

/-- A task that does not crash records every batch. -/
theorem recorded (h : t.Performed pace around w start kept r) (hcalm : r.crashed = false)
    {a : Attempt} (ha : a ∈ r.attempts) : a.recorded := by
  cases h with
  | @paced drafts tally users run =>
    have hnone : run.broken = none := by simpa [TaskReport.crashed] using hcalm
    exact Run.recorded_of_broken_eq_none hnone ha
  | failed _ _ _ => cases ha
  | crashed _ _ => cases ha

/-- Batches of a task are handed over one after the other. -/
theorem moments (h : t.Performed pace around w start kept r) :
    (r.attempts.map (·.batch)).Pairwise (·.elapsed ≤ ·.elapsed) := by
  cases h with
  | @paced drafts tally users run _ _ _ _ hrun =>
    have hmoments : run.batches.toList.Pairwise (·.elapsed ≤ ·.elapsed) := hrun ▸ pace_moments
    rw [← Run.batch_attempts] at hmoments
    exact hmoments
  | failed _ _ _ => exact .nil
  | crashed _ _ => exact .nil

end Task.Performed

/-! ## A task for one of its users -/

/-- The users whose windows a task began, which are those with a queue. -/
def TaskReport.begun (r : TaskReport) : List UserId :=
  (r.run?.map fun run => run.queues.map (·.user.id)).getD []

/-- What a task does for a user: the batches it hands over, the events it returns and the user as it
leaves it. -/
inductive TaskReport.Serves (r : TaskReport) (w : Window) (kept : List Event) (i : Intake) :
    List Attempt → List Event → User → Prop
  /-- There was nothing for the user, and its window did not begin. -/
  | idle {v : User} : i.carried = [] → v.Resumes i.user → i.user.id ∉ r.begun →
    Serves r w kept i [] [] v
  /-- The queue of the user was paced. -/
  | paced {run : Run} {u : User} {own : List Event} {as : List Attempt} {q : Queue} :
    r.run? = some run → u.Resumes i.user → TimeOrdered own → (∀ e ∈ own, w.contains e.time) →
    own.Sublist kept → i.carried ++ own ≠ [] →
    Queue.Drained ⟨u.beginWindow (i.carried ++ own).length, i.carried ++ own⟩ as q →
    Serves r w kept i as (if run.broken.isSome then [] else q.events) q.user
  /-- The build failed and gave back what was carried in. -/
  | failed {cause : GenerationError} {returned : List Carried} {v : User} :
    r.task.generates → r.finish = .buildFailed cause returned → v.Resumes i.user →
    Serves r w kept i [] i.carried v
  /-- The build crashed. -/
  | crashed {crash : Crash} {v : User} :
    r.task.generates → r.finish = .buildCrashed crash → v.Resumes i.user →
    Serves r w kept i [] [] v

section Users

variable {w : Window} {drafts : List Draft} {intakes : List Intake}

theorem places_of_drafts (h : List.Forall₂ Draft.Of drafts intakes) :
    drafts.map (·.user.place) = intakes.map (·.user.place) :=
  map_eq_of_forall₂ (fun _ _ hof => hof.user.place_eq) h

theorem ids_of_drafts (h : List.Forall₂ Draft.Of drafts intakes) :
    drafts.map (·.user.id) = intakes.map (·.user.id) := by
  simpa [Function.comp_def, User.place] using congrArg (List.map Prod.fst) (places_of_drafts h)

theorem seats_of_drafts (h : List.Forall₂ Draft.Of drafts intakes) :
    drafts.map (·.user.seat) = intakes.map (·.user.seat) := by
  simpa [Function.comp_def, User.place] using congrArg (List.map Prod.snd) (places_of_drafts h)

theorem queue_places_sublist (w : Window) (h : List.Forall₂ Draft.Of drafts intakes) :
    ((drafts.filterMap (·.queue? w)).map (·.user.place)).Sublist (intakes.map (·.user.place)) := by
  have hsub := (queues_users_sublist w drafts).map (·.place)
  simp only [List.map_map, Function.comp_def, Draft.place_settledUser] at hsub
  rwa [places_of_drafts h] at hsub

theorem queue_ids_sublist (w : Window) (h : List.Forall₂ Draft.Of drafts intakes) :
    ((drafts.filterMap (·.queue? w)).map (·.user.id)).Sublist (intakes.map (·.user.id)) := by
  simpa [Function.comp_def, User.place] using (queue_places_sublist w h).map Prod.fst

theorem queue_seats_sublist (w : Window) (h : List.Forall₂ Draft.Of drafts intakes) :
    ((drafts.filterMap (·.queue? w)).map (·.user.seat)).Sublist (intakes.map (·.user.seat)) := by
  simpa [Function.comp_def, User.place] using (queue_places_sublist w h).map Prod.snd

/-- A user without events has no queue: neither its identity nor its seat is among those of the
queues. -/
theorem no_queue_of_idle (hids : (drafts.map (·.user.id)).Nodup)
    (hseats : (drafts.map (·.user.seat)).Nodup) {d : Draft} (hd : d ∈ drafts)
    (hidle : d.queued w = []) :
    d.user.id ∉ (drafts.filterMap (·.queue? w)).map (·.user.id) ∧
      d.user.seat ∉ (drafts.filterMap (·.queue? w)).map (·.user.seat) := by
  constructor
  · intro hmem
    obtain ⟨q, hq, hid⟩ := List.mem_map.1 hmem
    obtain ⟨d', hd', hq'⟩ := List.mem_filterMap.1 hq
    obtain ⟨hne, rfl⟩ := Draft.queue?_eq_some_iff.1 hq'
    have hsame := List.inj_on_of_nodup_map hids hd' hd (Draft.id_settledUser.symm.trans hid)
    exact hne (hsame ▸ hidle)
  · intro hmem
    obtain ⟨q, hq, hseat⟩ := List.mem_map.1 hmem
    obtain ⟨d', hd', hq'⟩ := List.mem_filterMap.1 hq
    obtain ⟨hne, rfl⟩ := Draft.queue?_eq_some_iff.1 hq'
    have hsame := List.inj_on_of_nodup_map hseats hd' hd (Draft.seat_settledUser.symm.trans hseat)
    exact hne (hsame ▸ hidle)

/-- A user that carries something in has a queue. -/
theorem exists_queue_of_carried (w : Window) (h : List.Forall₂ Draft.Of drafts intakes) {i : Intake}
    (hi : i ∈ intakes) (hcarried : i.carried ≠ []) :
    ∃ d : Draft, d.Of i ∧ (⟨d.settledUser w, d.queued w⟩ : Queue) ∈ drafts.filterMap (·.queue? w) := by
  obtain ⟨d, hd, hof⟩ := exists_left_of_forall₂ h hi
  have hqueued : d.queued w ≠ [] := by
    intro hnil
    rw [← hof.carried] at hcarried
    exact hcarried (List.append_eq_nil_iff.1 hnil).1
  exact ⟨d, hof, List.mem_filterMap.2 ⟨d, hd, Draft.queue?_eq_some_iff.2 ⟨hqueued, rfl⟩⟩⟩

theorem written_resumes {users : List User}
    (h : List.Forall₂ User.Resumes users (intakes.map (·.user)))
    (hseats : (intakes.map (·.user.seat)).Nodup) {i : Intake} (hi : i ∈ intakes) :
    (i.user.written users).Resumes i.user := by
  obtain ⟨v, hv, hresumes⟩ := exists_left_of_forall₂ h (List.mem_map_of_mem hi)
  have hsame : users.map (·.seat) = intakes.map (·.user.seat) := by
    rw [map_eq_of_forall₂ (fun _ _ hr => hr.seat_eq) h, List.map_map]
    rfl
  rw [User.written_of_mem (hsame ▸ hseats) hv hresumes.seat_eq]
  exact hresumes

/-- What the build writes of a user before it is paced is the user of its draft. -/
theorem written_of_drafts {users : List User} (h : List.Forall₂ Draft.Of drafts intakes)
    (husers : users = drafts.map (·.settledUser w) ∨ users = [] ∧ drafts = intakes.map .resting)
    (hseats : (intakes.map (·.user.seat)).Nodup) {d : Draft} (hd : d ∈ drafts) {i : Intake}
    (hof : d.Of i) (hidle : d.queued w = []) : (i.user.written users).Resumes i.user := by
  rcases husers with rfl | ⟨rfl, -⟩
  · have hsame : (drafts.map (·.settledUser w)).map (·.seat) = intakes.map (·.user.seat) := by
      rw [List.map_map, ← seats_of_drafts h]
      exact List.map_congr_left fun d _ => Draft.seat_settledUser
    have hseat : (d.settledUser w).seat = i.user.seat :=
      Draft.seat_settledUser.trans hof.user.seat_eq
    rw [User.written_of_mem (hsame ▸ hseats) (List.mem_map_of_mem hd) hseat,
      Draft.settledUser_of_idle hidle]
    exact hof.user
  · exact .refl _

variable {as : List Attempt} {qs : List Queue} {d : Draft} {i : Intake}

/-- Pacing does nothing for a user without events. -/
theorem paced_of_idle (h : List.Forall₂ Draft.Of drafts intakes)
    (hpaced : Paced (drafts.filterMap (·.queue? w)) as qs)
    (hids : (intakes.map (·.user.id)).Nodup) (hseats : (intakes.map (·.user.seat)).Nodup)
    (hd : d ∈ drafts) (hof : d.Of i) (hidle : d.queued w = []) :
    attemptsFor i.user.id as = [] ∧ qs.filter (·.user.id = i.user.id) = [] ∧
      ∀ u : User, u.seat = i.user.seat → u.written (qs.map (·.user)) = u := by
  obtain ⟨hnoid, hnoseat⟩ :=
    no_queue_of_idle (ids_of_drafts h ▸ hids) (seats_of_drafts h ▸ hseats) hd hidle
  rw [hof.user.id_eq] at hnoid
  rw [hof.user.seat_eq] at hnoseat
  refine ⟨hpaced.attemptsFor_eq_nil hnoid, ?_, fun u hu => User.written_eq_self ?_⟩
  · refine List.filter_eq_nil_iff.2 fun q hq heq => hnoid ?_
    rw [← hpaced.ids]
    exact List.mem_map.2 ⟨q, hq, of_decide_eq_true heq⟩
  · rw [List.map_map, hu]
    exact hpaced.seats ▸ hnoseat

/-- Pacing drains the queue of a user with events. -/
theorem paced_of_queued (h : List.Forall₂ Draft.Of drafts intakes)
    (hpaced : Paced (drafts.filterMap (·.queue? w)) as qs)
    (hids : (intakes.map (·.user.id)).Nodup) (hseats : (intakes.map (·.user.seat)).Nodup)
    (hd : d ∈ drafts) (hof : d.Of i) (hqueued : d.queued w ≠ []) :
    ∃ q : Queue, Queue.Drained ⟨d.settledUser w, d.queued w⟩ (attemptsFor i.user.id as) q ∧
      qs.filter (·.user.id = i.user.id) = [q] ∧
      ∀ u : User, u.seat = i.user.seat → u.written (qs.map (·.user)) = q.user := by
  have hqids := hids.sublist (queue_ids_sublist w h)
  have hq : (⟨d.settledUser w, d.queued w⟩ : Queue) ∈ drafts.filterMap (·.queue? w) :=
    List.mem_filterMap.2 ⟨d, hd, Draft.queue?_eq_some_iff.2 ⟨hqueued, rfl⟩⟩
  obtain ⟨q, hqmem, hdrained⟩ := exists_right_of_forall₂ (hpaced.drained hqids) hq
  have hid : q.user.id = i.user.id := by
    rw [hdrained.user_eq]
    exact Draft.id_settledUser.trans hof.user.id_eq
  have hseat : q.user.seat = i.user.seat := by
    rw [hdrained.user_eq]
    exact Draft.seat_settledUser.trans hof.user.seat_eq
  have hown : (d.settledUser w).id = i.user.id := Draft.id_settledUser.trans hof.user.id_eq
  simp only [hown] at hdrained
  refine ⟨q, hdrained, ?_, fun u hu => User.written_of_mem ?_ (List.mem_map_of_mem hqmem) ?_⟩
  · rw [← hid]
    exact filter_key_of_nodup (fun q : Queue => q.user.id) (hpaced.ids ▸ hqids) hqmem
  · rw [List.map_map]
    exact hpaced.seats ▸ hseats.sublist (queue_seats_sublist w h)
  · exact hseat.trans hu.symm

end Users

namespace Task.Performed

variable {t : Task} {pace : Pace} {around : Surroundings} {w : Window} {start : Nat}
  {kept : List Event} {r : TaskReport}

/-- Every batch of a task was cut at the reading with which one of its ticks began. -/
theorem cut (h : t.Performed pace around w start kept r) {a : Attempt} (ha : a ∈ r.attempts) :
    ∃ run, r.run? = some run ∧ a.batch ∈ run.batches.toList ∧
      ∃ tick ∈ run.ticks.toList, tick ≤ a.batch.elapsed ∧
        a.batch.cut = (around.taskClock t.shard).read tick := by
  cases h with
  | @paced drafts tally users run _ _ _ _ hrun =>
    have hb : a.batch ∈ run.batches.toList := by
      rw [← Run.batch_attempts]
      exact List.mem_map_of_mem ha
    refine ⟨run, rfl, hb, ?_⟩
    rw [hrun] at hb ⊢
    exact pace_cuts hb
  | failed _ _ _ => cases ha
  | crashed _ _ => cases ha

/-- A task leaves every user with no more sent than its window holds, or with the counters with which
it was handed over, which happens only where nothing is carried in or a build made; and no batch holds
more than is left to send. -/
theorem fits (h : t.Performed pace around w start kept r) :
    (∀ v ∈ r.users, v.sent ≤ v.total ∨
        ∃ i ∈ t.intakes, (i.carried = [] ∨ t.generates) ∧ v.Resumes i.user) ∧
      ∀ a ∈ r.attempts, a.batch.Fits := by
  have hresumed : t.generates → ∀ {users : List User},
      List.Forall₂ User.Resumes users (t.intakes.map (·.user)) → ∀ v ∈ users, v.sent ≤ v.total ∨
        ∃ i ∈ t.intakes, (i.carried = [] ∨ t.generates) ∧ v.Resumes i.user := by
    intro hgenerates users husers v hv
    obtain ⟨i, hi, hresumes⟩ := exists_intake_of_resumes husers hv
    exact .inr ⟨i, hi, .inr hgenerates, hresumes⟩
  cases h with
  | @paced drafts tally users run hdrafts _ _ husers hrun =>
    have hqueues : ∀ q ∈ drafts.filterMap (·.queue? w), q.Fits := by
      intro q hq
      obtain ⟨d, -, hq⟩ := List.mem_filterMap.1 hq
      obtain ⟨hne, rfl⟩ := Draft.queue?_eq_some_iff.1 hq
      rw [Draft.settledUser_of_queued hne]
      exact (Queue.counted_beginWindow _ _).fits
    obtain ⟨hbatches, hleft⟩ := (paced_of_run hrun).fits hqueues
    refine ⟨fun v hv => ?_, hbatches⟩
    rcases List.mem_append.1 hv with hv | hv
    · rcases husers with rfl | ⟨rfl, -⟩
      · obtain ⟨d, hd, rfl⟩ := List.mem_map.1 hv
        obtain ⟨i, hi, hof⟩ := exists_right_of_forall₂ hdrafts hd
        by_cases hidle : d.queued w = []
        · have hcarried : i.carried = [] := by
            rw [← hof.carried]
            exact (List.append_eq_nil_iff.1 hidle).1
          rw [Draft.settledUser_of_idle hidle]
          exact .inr ⟨i, hi, .inl hcarried, hof.user⟩
        · rw [Draft.settledUser_of_queued hidle]
          exact .inl (Nat.zero_le _)
      · cases hv
    · obtain ⟨q, hq, rfl⟩ := List.mem_map.1 hv
      exact .inl (Nat.le_trans (Nat.le_add_right _ _) (hleft q hq))
  | failed hgenerates _ husers =>
    exact ⟨hresumed hgenerates husers, fun _ ha => absurd ha List.not_mem_nil⟩
  | crashed hgenerates husers =>
    exact ⟨hresumed hgenerates husers, fun _ ha => absurd ha List.not_mem_nil⟩

/-- The users of all batches are users of the task. -/
theorem owner_place (h : t.Performed pace around w start kept r) {a : Attempt}
    (ha : a ∈ r.attempts) :
    ∃ u, a.batch.owner = some u ∧ u.place ∈ t.intakes.map (·.user.place) := by
  cases h with
  | @paced drafts tally users run hdrafts _ _ _ hrun =>
    have hpaced := paced_of_run hrun
    obtain ⟨u, howner, hplace⟩ := hpaced.owner_place ha
    exact ⟨u, howner, (queue_places_sublist w hdrafts).subset hplace⟩
  | failed _ _ _ => cases ha
  | crashed _ _ => cases ha

/-- A task begins the windows of its own users. -/
theorem begun_subset (h : t.Performed pace around w start kept r) :
    r.begun ⊆ t.intakes.map (·.user.id) := by
  cases h with
  | @paced drafts tally users run hdrafts _ _ _ hrun =>
    show run.queues.map (·.user.id) ⊆ _
    rw [(paced_of_run hrun).ids]
    exact (queue_ids_sublist w hdrafts).subset
  | failed _ _ _ => exact List.nil_subset _
  | crashed _ _ => exact List.nil_subset _

/-- The users that a task writes back are its users. -/
theorem users_places (h : t.Performed pace around w start kept r) {v : User} (hv : v ∈ r.users) :
    v.place ∈ t.intakes.map (·.user.place) := by
  have hresumed : ∀ {users : List User},
      List.Forall₂ User.Resumes users (t.intakes.map (·.user)) → v ∈ users →
      v.place ∈ t.intakes.map (·.user.place) := by
    intro users husers hv
    obtain ⟨i, hi, hresumes⟩ := exists_intake_of_resumes husers hv
    exact List.mem_map.2 ⟨i, hi, hresumes.place_eq.symm⟩
  cases h with
  | @paced drafts tally users run hdrafts _ _ husers hrun =>
    have hpaced := paced_of_run hrun
    rcases List.mem_append.1 hv with hv | hv
    · rcases husers with rfl | ⟨rfl, -⟩
      · obtain ⟨d, hd, rfl⟩ := List.mem_map.1 hv
        rw [← places_of_drafts hdrafts, Draft.place_settledUser]
        exact List.mem_map_of_mem hd
      · cases hv
    · obtain ⟨q, hq, rfl⟩ := List.mem_map.1 hv
      refine (queue_places_sublist w hdrafts).subset ?_
      rw [← hpaced.places]
      exact List.mem_map_of_mem hq
  | failed _ _ husers => exact hresumed husers hv
  | crashed _ husers => exact hresumed husers hv

/-- What a task returns belongs to its users, one entry for a user at most, and none is empty. -/
theorem returned_places (h : t.Performed pace around w start kept r) :
    (r.returned.map (·.user.place)).Sublist (t.intakes.map (·.user.place)) ∧
      ∀ c ∈ r.returned, c.events ≠ [] := by
  cases h with
  | @paced drafts tally users run hdrafts _ _ _ hrun =>
    have hpaced := paced_of_run hrun
    simp only [TaskReport.returned]
    split
    · exact ⟨List.nil_sublist _, fun _ hc => absurd hc List.not_mem_nil⟩
    · obtain ⟨hsub, hne⟩ := leftovers_places run.queues
      rw [hpaced.places] at hsub
      exact ⟨hsub.trans (queue_places_sublist w hdrafts), hne⟩
  | failed _ _ husers => exact returnedOf_places husers
  | crashed _ _ => exact ⟨List.nil_sublist _, fun _ hc => absurd hc List.not_mem_nil⟩

/-- **Every user of a task is served**, where its users are different ones. -/
theorem serves (h : t.Performed pace around w start kept r)
    (hids : (t.intakes.map (·.user.id)).Nodup) (hseats : (t.intakes.map (·.user.seat)).Nodup)
    {i : Intake} (hi : i ∈ t.intakes) :
    r.Serves w kept i (attemptsFor i.user.id r.attempts) (heldFor (· = i.user.id) r.returned)
      (i.user.written r.users) := by
  cases h with
  | @paced drafts tally users run hdrafts hkept _ husers hrun =>
    have hpaced := paced_of_run hrun
    obtain ⟨d, hd, hof⟩ := exists_left_of_forall₂ hdrafts hi
    have hreturned : heldFor (· = i.user.id)
        (if run.broken.isSome then [] else leftovers run.queues) =
        if run.broken.isSome then [] else queuedEvents (run.queues.filter (·.user.id = i.user.id)) := by
      split
      · rfl
      · exact heldFor_leftovers _ _
    simp only [TaskReport.attempts, TaskReport.run?, TaskReport.returned, Option.map_some,
      Option.getD_some, User.written_append, hreturned]
    by_cases hidle : d.queued w = []
    · obtain ⟨hattempts, hleft, hwritten⟩ :=
        paced_of_idle hdrafts hpaced hids hseats hd hof hidle
      have hcarried : i.carried = [] := by
        rw [← hof.carried]
        exact (List.append_eq_nil_iff.1 hidle).1
      have hnone : i.user.id ∉ run.queues.map (·.user.id) := fun hmem => by
        obtain ⟨q, hq, hid⟩ := List.mem_map.1 hmem
        exact List.filter_eq_nil_iff.1 hleft q hq (decide_eq_true hid)
      rw [hattempts, hleft, hwritten _ (User.seat_written _ _), show queuedEvents [] = [] from rfl,
        ite_self]
      exact .idle hcarried (written_of_drafts hdrafts husers hseats hd hof hidle) hnone
    · obtain ⟨q, hdrained, hleft, hwritten⟩ :=
        paced_of_queued hdrafts hpaced hids hseats hd hof hidle
      rw [hleft, hwritten _ (User.seat_written _ _),
        show queuedEvents [q] = q.events from List.flatMap_singleton _ _]
      rw [Draft.settledUser_of_queued hidle] at hdrained
      simp only [Draft.queued, hof.carried] at hdrained hidle
      refine .paced rfl hof.user d.timeOrdered_kept (fun e he => (Draft.mem_kept.1 he).2) ?_ hidle
        hdrained
      rw [← hkept]
      exact sublist_flatMap_of_mem (·.kept w) hd
  | @failed cause users hgenerates _ husers =>
    have hreturned : heldFor (· = i.user.id) (returnedOf users t.intakes) = i.carried := by
      rw [heldFor_returnedOf _ husers, filter_key_of_nodup (fun i : Intake => i.user.id) hids hi,
        List.flatMap_singleton]
    simp only [TaskReport.attempts, TaskReport.run?, TaskReport.returned, Option.map_none,
      Option.getD_none, attemptsFor_nil, hreturned]
    exact .failed hgenerates rfl (written_resumes husers hseats hi)
  | @crashed crash users hgenerates husers =>
    exact .crashed hgenerates rfl (written_resumes husers hseats hi)

/-- A task that begins in time and runs to its deadline hands over all that a user carried in on its
first tick, if it is due. -/
theorem first_tick (h : t.Performed pace around w start kept r) {run : Run}
    (hrun : r.run? = some run) (hbroken : run.broken = none)
    (hstart : start < (around.taskClock t.shard).horizon (w.finish.plus pace.grace))
    (hread : (around.taskClock t.shard).read start ≤ w.finish.plus pace.grace) {i : Intake}
    (hi : i ∈ t.intakes) (hcarried : i.carried ≠ [])
    (hdue : ∀ e ∈ i.carried, e.time < (around.taskClock t.shard).read start) :
    run.ticks.toList.head? = some start ∧
      ∃ a ∈ run.attempts, ∃ u, a.batch.owner = some u ∧ u.id = i.user.id ∧
        a.batch.cut = (around.taskClock t.shard).read start ∧ i.carried <+: a.batch.events := by
  cases h with
  | @paced drafts tally users _ hdrafts _ _ _ hpace =>
    cases hrun
    obtain ⟨d, hof, hq⟩ := exists_queue_of_carried w hdrafts hi hcarried
    rw [hpace] at hbroken
    obtain ⟨hticks, as, bs, qs, hserved, hrecorded, hattempts⟩ :=
      pace_first_tick hstart hread hbroken
    rw [← hpace] at hticks hattempts
    have htake : (d.queued w).takeWhile (·.time < (around.taskClock t.shard).read start) =
        i.carried ++ (d.kept w).takeWhile (·.time < (around.taskClock t.shard).read start) := by
      unfold Draft.queued
      rw [hof.carried]
      exact List.takeWhile_append_of_pos fun e he => decide_eq_true (hdue e he)
    have hne : (d.queued w).takeWhile (·.time < (around.taskClock t.shard).read start) ≠ [] := by
      rw [htake]
      exact fun hnil => hcarried (List.append_eq_nil_iff.1 hnil).1
    obtain ⟨a, ha, howner, hcut, hevents⟩ := hserved.serves_due hrecorded hq hne
    refine ⟨hticks, a, hattempts ▸ List.mem_append_left _ ha, _, howner, ?_, hcut, ?_⟩
    · exact Draft.id_settledUser.trans hof.user.id_eq
    · rw [hevents, htake]
      exact List.prefix_append _ _
  | failed _ _ _ => cases hrun
  | crashed _ _ => cases hrun

/-- A task writes back every user that carried something in. -/
theorem seat_mem_users (h : t.Performed pace around w start kept r) {i : Intake}
    (hi : i ∈ t.intakes) (hcarried : i.carried ≠ []) : i.user.seat ∈ r.users.map (·.seat) := by
  have hresumed : ∀ {users : List User},
      List.Forall₂ User.Resumes users (t.intakes.map (·.user)) →
      i.user.seat ∈ users.map (·.seat) := by
    intro users husers
    obtain ⟨v, hv, hresumes⟩ := exists_left_of_forall₂ husers (List.mem_map_of_mem hi)
    exact List.mem_map.2 ⟨v, hv, hresumes.seat_eq⟩
  cases h with
  | @paced drafts tally users run hdrafts _ _ _ hrun =>
    have hpaced := paced_of_run hrun
    obtain ⟨d, hof, hq⟩ := exists_queue_of_carried w hdrafts hi hcarried
    have hseat : i.user.seat ∈ run.queues.map (·.user.seat) := by
      rw [hpaced.seats]
      refine List.mem_map.2 ⟨_, hq, ?_⟩
      exact Draft.seat_settledUser.trans hof.user.seat_eq
    rw [List.map_append, List.map_map]
    exact List.mem_append_right _ hseat
  | failed _ _ husers => exact hresumed husers
  | crashed _ husers => exact hresumed husers

end Task.Performed

end ShopTraffic
