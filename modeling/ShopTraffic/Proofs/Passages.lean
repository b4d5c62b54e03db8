import Mathlib
import ShopTraffic.Proofs.TimeSort
import ShopTraffic.Proofs.Windows

/-!
# A user in a window

At most one task is handed a user. What that task hands over for it, returns for it and leaves of it
is what the whole window does for it, in the order of time over all tasks as well.

* `serves_of_task` — a user that a task is handed; `untouched` — a user that no task is handed;
  `served_or_untouched` — every user is one or the other;
* `attempts_owned` — every batch belongs to a user of the population;
* `serves_of_returned`, `exists_returned_of_entry` — what tasks return and the backlog holds.
-/

set_option autoImplicit false

namespace ShopTraffic

/-! ## One task among many -/

/-- What only the tasks of a user contribute to is what its one task contributes. -/
theorem flatMap_of_task {β κ : Type} (key : Intake → κ) {g : Task → List β} :
    ∀ {ts : List Task}, ((ts.flatMap (·.intakes)).map key).Nodup → ∀ {t : Task}, t ∈ ts →
      ∀ {i : Intake}, i ∈ t.intakes →
      (∀ t' ∈ ts, key i ∉ t'.intakes.map key → g t' = []) → ts.flatMap g = g t
  | [], _, _, ht, _, _, _ => absurd ht List.not_mem_nil
  | t₁ :: rest, hnd, t, ht, i, hi, hg => by
    rw [List.flatMap_cons, List.map_append] at hnd
    obtain ⟨-, hrest, hdisjoint⟩ := List.nodup_append'.1 hnd
    rw [List.flatMap_cons]
    rcases List.mem_cons.1 ht with rfl | ht
    · have hnone : rest.flatMap g = [] := by
        refine List.flatMap_eq_nil_iff.2 fun t' ht' => hg t' (List.mem_cons_of_mem _ ht') ?_
        intro hkey
        refine hdisjoint (List.mem_map_of_mem hi) ?_
        obtain ⟨j, hj, heq⟩ := List.mem_map.1 hkey
        exact List.mem_map.2 ⟨j, List.mem_flatMap.2 ⟨t', ht', hj⟩, heq⟩
      rw [hnone, List.append_nil]
    · have hfirst : g t₁ = [] := by
        refine hg t₁ List.mem_cons_self fun hkey => hdisjoint hkey ?_
        exact List.mem_map_of_mem (List.mem_flatMap.2 ⟨t, ht, hi⟩)
      rw [hfirst, List.nil_append]
      exact flatMap_of_task key hrest ht hi fun t' ht' => hg t' (List.mem_cons_of_mem _ ht')

theorem User.written_filter (u : User) (vs : List User) :
    u.written vs = u.written (vs.filter (·.seat = u.seat)) := by
  unfold User.written
  induction vs generalizing u with
  | nil => rfl
  | cons v vs ih =>
    rw [List.foldl_cons, List.filter_cons]
    by_cases hseat : v.seat = u.seat
    · rw [if_pos hseat, if_pos (decide_eq_true hseat), List.foldl_cons, if_pos hseat, ih, hseat]
    · rw [if_neg hseat, if_neg (by simpa using hseat)]
      exact ih u

/-- Users on one seat, written over alike, end up alike. -/
theorem User.written_congr {u v : User} (hseat : u.seat = v.seat) {vs : List User}
    (h : u.seat ∈ vs.map (·.seat)) : u.written vs = v.written vs := by
  unfold User.written
  induction vs generalizing u v with
  | nil => cases h
  | cons w vs ih =>
    rw [List.foldl_cons, List.foldl_cons, ← hseat]
    by_cases hw : w.seat = u.seat
    · rw [if_pos hw, if_pos hw]
    · rw [if_neg hw, if_neg hw]
      rw [List.map_cons, List.mem_cons] at h
      exact ih hseat (h.resolve_left fun heq => hw heq.symm)

theorem attemptsFor_flatMap {α : Type} (id : UserId) (f : α → List Attempt) (xs : List α) :
    attemptsFor id (xs.flatMap f) = xs.flatMap fun x => attemptsFor id (f x) := by
  induction xs with
  | nil => rfl
  | cons x xs ih => rw [List.flatMap_cons, List.flatMap_cons, attemptsFor_append, ih]

theorem heldFor_flatMap {α : Type} (p : UserId → Bool) (f : α → List Carried) (xs : List α) :
    heldFor p (xs.flatMap f) = xs.flatMap fun x => heldFor p (f x) := by
  induction xs with
  | nil => rfl
  | cons x xs ih => rw [List.flatMap_cons, List.flatMap_cons, heldFor_append, ih]

namespace Streamer

variable {s : Streamer} {around : Surroundings} {st : StreamState}

/-! ## The batches of a window -/

theorem map_attempt_flatMap (reports : List TaskReport) :
    (reports.flatMap fun r => r.attempts.map (ShardAttempt.mk r.task.shard)).map (·.attempt) =
      reports.flatMap (·.attempts) := by
  rw [List.map_flatMap]
  simp only [List.map_map, Function.comp_def, List.map_id']

/-- Before they are put in order the batches stand task by task. -/
theorem attempts_perm (s : Streamer) (around : Surroundings) (st : StreamState) :
    (s.attempts around st).Perm ((s.reports around st).flatMap (·.attempts)) := by
  rw [← map_attempt_flatMap]
  exact (List.mergeSort_perm _ _).map _

theorem mem_attempts {a : Attempt} : a ∈ s.attempts around st ↔
    ∃ t ∈ s.tasks around st, a ∈ (s.reportOf around st t).attempts := by
  rw [(attempts_perm s around st).mem_iff, reports, List.flatMap_map, List.mem_flatMap]

/-- Every batch belongs to a user of the population. -/
theorem attempts_owned (h : st.Sound) {a : Attempt} (ha : a ∈ s.attempts around st) :
    ∃ u, a.batch.owner = some u ∧ u.place ∈ (s.opened around st).population.places := by
  obtain ⟨t, ht, ha⟩ := mem_attempts.1 ha
  obtain ⟨u, howner, hplace⟩ := (performed s around st t).owner_place ha
  exact ⟨u, howner, place_mem_of_task h ht hplace⟩

theorem attemptsFor_report_eq_nil {t : Task} {id : UserId} (hid : id ∉ t.intakes.map (·.user.id)) :
    attemptsFor id (s.reportOf around st t).attempts = [] := by
  unfold attemptsFor
  rw [List.filter_eq_nil_iff]
  intro a ha hfor
  obtain ⟨u, howner, hplace⟩ := (performed s around st t).owner_place ha
  simp only [Batch.isFor, howner, Option.any_some, decide_eq_true_eq] at hfor
  obtain ⟨i, hi, heq⟩ := List.mem_map.1 hplace
  exact hid (List.mem_map.2 ⟨i, hi, (congrArg Prod.fst heq).trans hfor⟩)

/-- The order of time over all tasks keeps the order of what only one of them hands over. -/
theorem filter_attempts {p : Attempt → Bool} {t : Task}
    (hp : ((s.reports around st).flatMap (·.attempts)).filter p =
      (s.reportOf around st t).attempts.filter p) :
    (s.attempts around st).filter p = (s.reportOf around st t).attempts.filter p := by
  have hmoments : ((s.reportOf around st t).attempts.filter p).Pairwise
      (·.batch.elapsed ≤ ·.batch.elapsed) :=
    (List.pairwise_map.1 (performed s around st t).moments).sublist List.filter_sublist
  rw [← hp, ← map_attempt_flatMap, List.filter_map, List.pairwise_map] at hmoments
  rw [← hp, ← map_attempt_flatMap]
  unfold attempts inOrder
  rw [List.filter_map, List.filter_map, filter_mergeSort]
  · intro a b c hab hbc
    simp only [decide_eq_true_eq] at hab hbc ⊢
    omega
  · intro a b
    simp only [Bool.or_eq_true, decide_eq_true_eq]
    omega
  · exact hmoments.imp fun hle => decide_eq_true hle

/-- The order of time over all tasks keeps the order of the batches of a user. -/
theorem attemptsFor_attempts (hnd : ((s.allIntakes (s.opened around st)).map (·.user.id)).Nodup)
    {t : Task} (ht : t ∈ s.tasks around st) {i : Intake} (hi : i ∈ t.intakes) :
    attemptsFor i.user.id (s.attempts around st) =
      attemptsFor i.user.id (s.reportOf around st t).attempts := by
  rw [← task_intakes] at hnd
  apply filter_attempts
  show attemptsFor i.user.id ((s.reports around st).flatMap (·.attempts)) =
    attemptsFor i.user.id (s.reportOf around st t).attempts
  rw [attemptsFor_flatMap, reports, List.flatMap_map]
  exact flatMap_of_task (fun i => i.user.id) hnd ht hi fun t' _ hid => attemptsFor_report_eq_nil hid

/-! ## What becomes of a user -/

/-- After a window the backlog holds for a user what its task returned. -/
theorem eventsOf_runWindow (hnd : ((s.allIntakes (s.opened around st)).map (·.user.id)).Nodup)
    {t : Task} (ht : t ∈ s.tasks around st) {i : Intake} (hi : i ∈ t.intakes) :
    ((s.runWindow around st).state.backlog.eventsOf i.user.id).Perm
      (heldFor (· = i.user.id) (s.reportOf around st t).returned) := by
  rw [← task_intakes] at hnd
  have hreports : heldFor (· = i.user.id) ((s.reports around st).flatMap (·.returned)) =
      heldFor (· = i.user.id) (s.reportOf around st t).returned := by
    rw [heldFor_flatMap, reports, List.flatMap_map]
    refine flatMap_of_task (fun i => i.user.id) hnd ht hi fun t' _ hid => heldFor_eq_nil ?_
    intro hmem
    obtain ⟨c, hc, heq⟩ := List.mem_map.1 hmem
    obtain ⟨j, hj, hplace⟩ := List.mem_map.1
      ((performed s around st t').returned_places.1.subset (List.mem_map_of_mem hc))
    exact hid (List.mem_map.2 ⟨j, hj, (congrArg Prod.fst hplace).trans heq⟩)
  rw [Backlog.eventsOf_eq_heldFor (wellFormed_runWindow s around st).ordered, ← hreports]
  exact Multiset.coe_eq_coe.1 (coe_heldFor_runWindow s around st _)

/-- After a window the population has a user as its task left it. -/
theorem user_runWindow (h : st.Sound)
    (hnd : ((s.allIntakes (s.opened around st)).map (·.user.seat)).Nodup) {t : Task}
    (ht : t ∈ s.tasks around st) {i : Intake} (hi : i ∈ t.intakes) :
    (s.runWindow around st).state.population.users[i.user.seat]? =
      some (i.user.written (s.reportOf around st t).users) := by
  have hintake := mem_allIntakes_of_task ht hi
  have hopened : (s.opened around st).Sound := opened_sound h
  obtain ⟨u, hu, -⟩ := Population.mem_places.1 (allIntakes_places hopened hintake)
  have hseat : u.seat = i.user.seat := Population.seat_eq hu
  rw [← task_intakes] at hnd
  have hreports : ((s.reports around st).flatMap (·.users)).filter (·.seat = u.seat) =
      (s.reportOf around st t).users.filter (·.seat = u.seat) := by
    rw [List.filter_flatMap, reports, List.flatMap_map, hseat]
    refine flatMap_of_task (fun i => i.user.seat) hnd ht hi fun t' _ hid => ?_
    refine List.filter_eq_nil_iff.2 fun v hv heq => hid ?_
    obtain ⟨j, hj, hplace⟩ := List.mem_map.1 ((performed s around st t').users_places hv)
    exact List.mem_map.2 ⟨j, hj, (congrArg Prod.snd hplace).trans (of_decide_eq_true heq)⟩
  rw [runWindow_population, Population.getElem?_putAll, hu, Option.map_some, User.written_filter,
    hreports, ← User.written_filter]
  rcases user_of_mem_allIntakes hopened hintake with hcarried | hsame
  · have hmem := (performed s around st t).seat_mem_users hi hcarried
    rw [User.written_congr hseat (hseat ▸ hmem)]
  · rw [hsame] at hu
    cases hu
    rfl

/-- The users of a task are different ones. -/
theorem intakes_nodup (h : st.Sound) (hp : (s.opened around st).population.Distinct) {t : Task}
    (ht : t ∈ s.tasks around st) :
    (t.intakes.map (·.user.id)).Nodup ∧ (t.intakes.map (·.user.seat)).Nodup := by
  obtain ⟨hids, hseats⟩ := allIntakes_nodup (s := s) (opened_sound h) hp
  exact ⟨hids.sublist ((intakes_sublist ht).map _), hseats.sublist ((intakes_sublist ht).map _)⟩

/-- A task is handed all that waits for its users. -/
theorem carried_of_task (h : st.Sound) (hp : (s.opened around st).population.Distinct) {t : Task}
    (ht : t ∈ s.tasks around st) {i : Intake} (hi : i ∈ t.intakes) :
    i.carried = st.backlog.eventsOf i.user.id := by
  rw [carried_of_mem_allIntakes (opened_sound h) hp (mem_allIntakes_of_task ht hi), opened_backlog]

/-- All that waits for a user is handed to a task. -/
theorem exists_task_of_entry (h : st.Sound) (hp : (s.opened around st).population.Distinct)
    {c : Carried} (hc : c ∈ st.backlog.entries) :
    ∃ t ∈ s.tasks around st, ∃ i ∈ t.intakes, i.user.id = c.user.id ∧ i.carried = c.events := by
  have hentry := hc
  rw [← opened_backlog s around st] at hentry
  obtain ⟨i, hi, hid⟩ := exists_intake_of_entry s hentry
  rw [← task_intakes] at hi
  obtain ⟨t, ht, hi⟩ := List.mem_flatMap.1 hi
  refine ⟨t, ht, i, hi, hid, ?_⟩
  rw [carried_of_task h hp ht hi, hid]
  exact Backlog.eventsOf_entry h.backlog.ordered hc

/-- **A user that a task is handed** leaves the window as the task leaves it, with the batches and
the events left over that the task makes of what the user was handed. -/
theorem serves_of_task (h : st.Sound) (hp : (s.opened around st).population.Distinct) {t : Task}
    (ht : t ∈ s.tasks around st) {i : Intake} (hi : i ∈ t.intakes) :
    i.carried = st.backlog.eventsOf i.user.id ∧ ∃ left v,
      (s.reportOf around st t).Serves (s.opening around st)
        (t.kept s.planner around.generator (s.opening around st)) i
        (attemptsFor i.user.id (s.attempts around st)) left v ∧
      ((s.runWindow around st).state.backlog.eventsOf i.user.id).Perm left ∧
      (s.runWindow around st).state.population.users[i.user.seat]? = some v := by
  obtain ⟨hids, hseats⟩ := allIntakes_nodup (s := s) (opened_sound h) hp
  obtain ⟨hown, hseat⟩ := intakes_nodup h hp ht
  have hserves := (performed s around st t).serves hown hseat hi
  rw [← attemptsFor_attempts hids ht hi] at hserves
  exact ⟨carried_of_task h hp ht hi, _, _, hserves, eventsOf_runWindow hids ht hi,
    user_runWindow h hseats ht hi⟩

theorem returned_ids_nodup (h : st.Sound) (hp : (s.opened around st).population.Distinct) {t : Task}
    (ht : t ∈ s.tasks around st) :
    ((s.reportOf around st t).returned.map (·.user.id)).Nodup := by
  have hfst := (performed s around st t).returned_places.1.map Prod.fst
  simp only [List.map_map, Function.comp_def, User.place] at hfst
  exact (intakes_nodup h hp ht).1.sublist hfst

/-- What a task returns for a user is all that it leaves of what the user was handed. -/
theorem serves_of_returned (h : st.Sound) (hp : (s.opened around st).population.Distinct) {t : Task}
    (ht : t ∈ s.tasks around st) {c : Carried} (hc : c ∈ (s.reportOf around st t).returned) :
    ∃ i ∈ t.intakes, i.user.id = c.user.id ∧ i.carried = st.backlog.eventsOf i.user.id ∧
      (s.reportOf around st t).Serves (s.opening around st)
        (t.kept s.planner around.generator (s.opening around st)) i
        (attemptsFor i.user.id (s.reportOf around st t).attempts) c.events
        (i.user.written (s.reportOf around st t).users) := by
  obtain ⟨hids, hseats⟩ := intakes_nodup h hp ht
  obtain ⟨i, hi, hplace⟩ := List.mem_map.1
    ((performed s around st t).returned_places.1.subset (List.mem_map_of_mem hc))
  have hid : i.user.id = c.user.id := congrArg Prod.fst hplace
  have hserves := (performed s around st t).serves hids hseats hi
  have hleft : heldFor (· = i.user.id) (s.reportOf around st t).returned = c.events := by
    rw [hid]
    exact heldFor_of_nodup (returned_ids_nodup h hp ht) hc
  rw [hleft] at hserves
  exact ⟨i, hi, hid, carried_of_task h hp ht hi, hserves⟩

/-- **A user that no task is handed** has no batch in the window and nothing left over, before and
after. -/
theorem untouched {id : UserId} (hid : id ∉ (s.allIntakes (s.opened around st)).map (·.user.id)) :
    attemptsFor id (s.attempts around st) = [] ∧ st.backlog.eventsOf id = [] ∧
      (s.runWindow around st).state.backlog.eventsOf id = [] := by
  have hnot : ∀ t ∈ s.tasks around st, id ∉ t.intakes.map (·.user.id) := fun t ht hmem => by
    obtain ⟨i, hi, heq⟩ := List.mem_map.1 hmem
    exact hid (List.mem_map.2 ⟨i, mem_allIntakes_of_task ht hi, heq⟩)
  refine ⟨?_, Backlog.eventsOf_eq_nil fun c hc heq => ?_, Backlog.eventsOf_eq_nil ?_⟩
  · unfold attemptsFor
    refine List.filter_eq_nil_iff.2 fun a ha hfor => ?_
    obtain ⟨t, ht, ha⟩ := mem_attempts.1 ha
    have hnone : attemptsFor id (s.reportOf around st t).attempts = [] :=
      attemptsFor_report_eq_nil (hnot t ht)
    exact List.filter_eq_nil_iff.1 hnone a ha hfor
  · rw [← opened_backlog s around st] at hc
    obtain ⟨i, hi, hsame⟩ := exists_intake_of_entry s hc
    exact hid (List.mem_map.2 ⟨i, hi, hsame.trans heq⟩)
  · refine runWindow_backlog_forall (fun t ht c hc heq => ?_) fun c d hc _ => hc
    obtain ⟨i, hi, hplace⟩ := List.mem_map.1
      ((performed s around st t).returned_places.1.subset (List.mem_map_of_mem hc))
    exact hnot t ht (List.mem_map.2 ⟨i, hi, (congrArg Prod.fst hplace).trans heq⟩)

/-- A user on a seat that no task is handed stays as it was. -/
theorem user_untouched {seat : Nat}
    (hseat : seat ∉ (s.allIntakes (s.opened around st)).map (·.user.seat)) :
    (s.runWindow around st).state.population.users[seat]? =
      (s.opened around st).population.users[seat]? := by
  rw [runWindow_population, Population.getElem?_putAll]
  cases hu : (s.opened around st).population.users[seat]? with
  | none => rfl
  | some u =>
    rw [Option.map_some, User.written_eq_self]
    rw [Population.seat_eq hu]
    intro hmem
    obtain ⟨v, hv, heq⟩ := List.mem_map.1 hmem
    obtain ⟨t, ht, hv⟩ := exists_task_of_user hv
    obtain ⟨i, hi, hplace⟩ := List.mem_map.1 ((performed s around st t).users_places hv)
    exact hseat (List.mem_map.2
      ⟨i, mem_allIntakes_of_task ht hi, (congrArg Prod.snd hplace).trans heq⟩)

/-- **A user after a window** is as a task left it, and what the task left of its events waits for it;
or it is as it was, with nothing waiting for it before and after. -/
theorem served_or_untouched (h : st.Sound) (hp : (s.opened around st).population.Distinct) {u : User}
    (hu : u ∈ (s.runWindow around st).state.population.users.toList) :
    (∃ t ∈ s.tasks around st, ∃ i ∈ t.intakes, i.user.id = u.id ∧
        i.carried = st.backlog.eventsOf u.id ∧ ∃ left,
          (s.reportOf around st t).Serves (s.opening around st)
            (t.kept s.planner around.generator (s.opening around st)) i
            (attemptsFor u.id (s.attempts around st)) left u ∧
          ((s.runWindow around st).state.backlog.eventsOf u.id).Perm left) ∨
      u ∈ (s.opened around st).population.users.toList ∧
        u.id ∉ (s.allIntakes (s.opened around st)).map (·.user.id) ∧
        st.backlog.eventsOf u.id = [] ∧
        (s.runWindow around st).state.backlog.eventsOf u.id = [] := by
  have hplace : u.place ∈ (s.opened around st).population.places :=
    runWindow_places h ▸ Population.place_mem hu
  have hu := Population.getElem?_seat hu
  by_cases hid : u.id ∈ (s.allIntakes (s.opened around st)).map (·.user.id)
  · left
    obtain ⟨i, hi, hid⟩ := List.mem_map.1 hid
    have hseat := hp.seat_eq_of_id_eq (allIntakes_places (opened_sound h) hi) hplace hid
    rw [← task_intakes] at hi
    obtain ⟨t, ht, hi⟩ := List.mem_flatMap.1 hi
    obtain ⟨hcarried, left, v, hserves, hleft, hafter⟩ := serves_of_task h hp ht hi
    rw [hseat, hu] at hafter
    cases hafter
    rw [hid] at hcarried hserves hleft
    exact ⟨t, ht, i, hi, hid, hcarried, left, hserves, hleft⟩
  · right
    obtain ⟨-, hbefore, hafter⟩ := untouched hid
    have hseat : u.seat ∉ (s.allIntakes (s.opened around st)).map (·.user.seat) := by
      intro hmem
      obtain ⟨i, hi, hseat⟩ := List.mem_map.1 hmem
      obtain ⟨x, hx, hxid⟩ := Population.mem_places.1 (allIntakes_places (opened_sound h) hi)
      obtain ⟨y, hy, hyid⟩ := Population.mem_places.1 hplace
      rw [hseat, hy] at hx
      cases hx
      exact hid (List.mem_map.2 ⟨i, hi, hxid.symm.trans hyid⟩)
    rw [user_untouched hseat] at hu
    exact ⟨Population.mem_of_getElem? hu, hid, hbefore, hafter⟩

/-- Every entry of the backlog after a window is one that a task returned. -/
theorem exists_returned_of_entry (h : st.Sound) (hp : (s.opened around st).population.Distinct)
    {c : Carried} (hc : c ∈ (s.runWindow around st).state.backlog.entries) :
    ∃ t ∈ s.tasks around st, ∃ d ∈ (s.reportOf around st t).returned,
      d.user.id = c.user.id ∧ c.events.Perm d.events := by
  have hwell := wellFormed_runWindow s around st
  have hevents := Backlog.eventsOf_entry hwell.ordered hc
  by_cases hid : c.user.id ∈ (s.allIntakes (s.opened around st)).map (·.user.id)
  · obtain ⟨i, hi, hid⟩ := List.mem_map.1 hid
    have hids := (allIntakes_nodup (s := s) (opened_sound h) hp).1
    rw [← task_intakes] at hi
    obtain ⟨t, ht, hi⟩ := List.mem_flatMap.1 hi
    have hperm := eventsOf_runWindow hids ht hi
    rw [hid, hevents] at hperm
    obtain ⟨e, he⟩ := List.exists_mem_of_ne_nil _ (hwell.nonempty c hc)
    obtain ⟨d, hd, hsame, -⟩ := mem_heldFor.1 (hperm.mem_iff.1 he)
    have hsame : d.user.id = c.user.id := of_decide_eq_true hsame
    rw [← hsame, heldFor_of_nodup (returned_ids_nodup h hp ht) hd] at hperm
    exact ⟨t, ht, d, hd, hsame, hperm⟩
  · obtain ⟨-, -, hafter⟩ := untouched hid
    exact absurd (hevents.symm.trans hafter) (hwell.nonempty c hc)

end Streamer

end ShopTraffic
