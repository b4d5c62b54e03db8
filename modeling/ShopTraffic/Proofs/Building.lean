import Mathlib
import ShopTraffic.Proofs.Draining
import ShopTraffic.Stream.History

/-!
# What a build leaves

The build of a task moves no events but those it was handed and those it keeps, and changes nothing
of a user but its time, its sessions and the counters of its window.

* `User.Resumes` — a user after some sessions; `Draft.Of` — a draft of an intake;
* `returnedOf_handedBack` — what a build gives back when it fails;
* `Task.Prepared`, `Task.prepare_prepared` — how a build can end, with the users it leaves;
* `queuedEvents_queues`, `queues_users_sublist` — the events and the users of the queues of a task.
-/

set_option autoImplicit false

namespace ShopTraffic

open Chance

/-! ## Sessions -/

/-- A user as it was but for its time and its sessions. -/
def User.Resumes (v u : User) : Prop := v = { u with time := v.time, sessions := v.sessions }

namespace User.Resumes

variable {t u v : User}

theorem refl (u : User) : u.Resumes u := rfl

theorem trans (h : t.Resumes u) (h' : u.Resumes v) : t.Resumes v := by
  unfold User.Resumes at h h' ⊢
  rw [h, h']

theorem id_eq (h : v.Resumes u) : v.id = u.id := by rw [h]

theorem seat_eq (h : v.Resumes u) : v.seat = u.seat := by rw [h]

theorem place_eq (h : v.Resumes u) : v.place = u.place := by rw [h]; rfl

theorem total_eq (h : v.Resumes u) : v.total = u.total := by rw [h]

theorem sent_eq (h : v.Resumes u) : v.sent = u.sent := by rw [h]

end User.Resumes

theorem Generator.run_resumes (generator : Generator) (user : User) (start : Instant)
    (source : Source) : (generator.run (user.moveTo start) start source).user.Resumes user := by
  unfold Generator.run User.Resumes User.moveTo
  rfl

theorem runSessions_resumes (generator : Generator) :
    ∀ (starts : List Instant) (user : User) (source : Source),
      (runSessions generator starts user source).user.Resumes user
  | [], user, _ => .refl user
  | start :: starts, user, source => by
    have hrun := generator.run_resumes user start source
    unfold runSessions
    simp only
    split
    · exact hrun
    · exact (runSessions_resumes generator starts _ _).trans hrun

theorem generateUser_resumes (p : Planner) (generator : Generator) (w : Window) (user : User)
    (s : Source) : (generateUser p generator w user s).user.Resumes user := by
  unfold generateUser
  cases p.planWindow w s with
  | mk starts s => exact runSessions_resumes generator starts user s

/-- A draft of what a user was handed. -/
structure Draft.Of (d : Draft) (i : Intake) : Prop where
  user : d.user.Resumes i.user
  carried : d.carried = i.carried

theorem generateAll_users (p : Planner) (generator : Generator) (w : Window) :
    ∀ (intakes : List Intake) (s : Source),
      List.Forall₂ User.Resumes (generateAll p generator w intakes s).users (intakes.map (·.user))
  | [], _ => .nil
  | i :: rest, s => by
    unfold generateAll
    simp only
    split
    · exact .cons (generateUser_resumes p generator w i.user s)
        (List.forall₂_same.2 fun u _ => .refl u)
    · exact .cons (generateUser_resumes p generator w i.user s) (generateAll_users p generator w rest _)

theorem generateAll_drafts (p : Planner) (generator : Generator) (w : Window) :
    ∀ (intakes : List Intake) (s : Source), (generateAll p generator w intakes s).stop = none →
      List.Forall₂ Draft.Of (generateAll p generator w intakes s).drafts intakes
  | [], _, _ => .nil
  | i :: rest, s, h => by
    unfold generateAll at h ⊢
    simp only at h ⊢
    split at h
    · cases h
    · exact .cons ⟨generateUser_resumes p generator w i.user s, rfl⟩
        (generateAll_drafts p generator w rest _ h)

/-! ## Drafts -/

namespace Draft

variable {d : Draft} {i : Intake} {w : Window}

theorem mem_kept {e : Event} : e ∈ d.kept w ↔ e ∈ d.emitted ∧ w.contains e.time := by
  unfold kept
  rw [(byTime_perm _).mem_iff, List.mem_filter]

theorem timeOrdered_kept : TimeOrdered (d.kept w) := timeOrdered_byTime _

theorem seat_settledUser : (d.settledUser w).seat = d.user.seat := by
  unfold settledUser User.beginWindow
  split <;> rfl

theorem id_settledUser : (d.settledUser w).id = d.user.id := by
  unfold settledUser User.beginWindow
  split <;> rfl

theorem place_settledUser : (d.settledUser w).place = d.user.place :=
  Prod.ext id_settledUser seat_settledUser

theorem settledUser_of_queued (h : d.queued w ≠ []) :
    d.settledUser w = d.user.beginWindow (d.queued w).length := by
  unfold settledUser
  rw [if_neg (by simpa using h)]

theorem settledUser_of_idle (h : d.queued w = []) : d.settledUser w = d.user := by
  unfold settledUser
  rw [if_pos (by simpa using h)]

theorem queue?_eq_some_iff {q : Queue} :
    d.queue? w = some q ↔ d.queued w ≠ [] ∧ q = ⟨d.settledUser w, d.queued w⟩ := by
  unfold queue?
  split
  · rename_i h
    simp [List.isEmpty_iff.1 h]
  · rename_i h
    have hne : d.queued w ≠ [] := fun heq => h (List.isEmpty_iff.2 heq)
    simp [hne, eq_comm]

/-- A draft without sessions, as the queues of carried events alone treat a user. -/
def resting (i : Intake) : Draft := ⟨i.user, i.carried, []⟩

theorem of_resting (i : Intake) : (resting i).Of i := ⟨.refl _, rfl⟩

theorem kept_resting : (resting i).kept w = [] := by
  simp [kept, resting, byTime]

theorem queue?_resting : (resting i).queue? w =
    if i.carried.isEmpty then none else some ⟨i.user.beginWindow i.carried.length, i.carried⟩ := by
  have hqueued : (resting i).queued w = i.carried := by
    rw [queued, kept_resting, List.append_nil]
    rfl
  unfold queue? settledUser
  rw [hqueued]
  split <;> rfl

end Draft

/-- The events that the queues of some drafts hold. -/
theorem queuedEvents_queues (w : Window) (drafts : List Draft) :
    queuedEvents (drafts.filterMap (·.queue? w)) = drafts.flatMap (·.queued w) := by
  induction drafts with
  | nil => rfl
  | cons d rest ih =>
    unfold queuedEvents at ih ⊢
    rw [List.filterMap_cons, List.flatMap_cons, ← ih]
    unfold Draft.queue?
    by_cases h : (d.queued w).isEmpty
    · rw [if_pos h, List.isEmpty_iff.1 h]
      rfl
    · rw [if_neg h]
      rfl

theorem coe_queued (w : Window) (drafts : List Draft) :
    (drafts.flatMap (·.queued w) : Multiset Event) =
      (drafts.flatMap (·.carried) : List Event) + (drafts.flatMap (·.kept w) : List Event) := by
  induction drafts with
  | nil => rfl
  | cons d rest ih =>
    have hd : (d.queued w : Multiset Event) = d.carried + d.kept w := (Multiset.coe_add _ _).symm
    simp only [List.flatMap_cons, ← Multiset.coe_add, ih, hd]
    abel

theorem queues_users_sublist (w : Window) (drafts : List Draft) :
    ((drafts.filterMap (·.queue? w)).map (·.user)).Sublist (drafts.map (·.settledUser w)) := by
  induction drafts with
  | nil => exact .slnil
  | cons d rest ih =>
    rw [List.filterMap_cons, List.map_cons]
    unfold Draft.queue?
    by_cases h : (d.queued w).isEmpty
    · rw [if_pos h]
      exact ih.cons _
    · rw [if_neg h]
      exact ih.cons_cons _

/-- What is given back to users after some sessions is what they carried in, in order. -/
theorem returnedOf_handedBack {users : List User} {intakes : List Intake}
    (h : List.Forall₂ User.Resumes users (intakes.map (·.user))) :
    List.Forall₂ (fun c i => c.user.Resumes i.user ∧ c.events = i.carried) (returnedOf users intakes)
        (intakes.filter (!·.carried.isEmpty)) ∧
      ((returnedOf users intakes).map (·.user)).Sublist users := by
  unfold returnedOf
  rw [List.forall₂_map_right_iff] at h
  induction h with
  | nil => exact ⟨.nil, .slnil⟩
  | @cons u i _ _ hresumes _ ih =>
    obtain ⟨hback, hsame⟩ := ih
    rw [List.zip_cons_cons, List.filterMap_cons, List.filter_cons]
    by_cases hnone : i.carried.isEmpty = true
    · simp only [hnone, Bool.not_true, Bool.false_eq_true, if_true, if_false]
      exact ⟨hback, hsame.cons _⟩
    · simp only [hnone, Bool.not_false, if_true]
      exact ⟨.cons ⟨hresumes, rfl⟩ hback, hsame.cons_cons _⟩

/-! ## Tasks -/

namespace Task

/-- How the build of a task can end, with the users it leaves. Queues of carried events alone come
from users at rest, whom the build leaves to the pacer. -/
inductive Prepared (t : Task) (w : Window) (kept : List Event) : BuildResult × List User → Prop
  | built {drafts : List Draft} {tally : Tally} {users : List User} :
    List.Forall₂ Draft.Of drafts t.intakes → drafts.flatMap (·.kept w) = kept →
    tally.generated = kept.length →
    users = drafts.map (·.settledUser w) ∨ users = [] ∧ drafts = t.intakes.map .resting →
    Prepared t w kept (.built (drafts.filterMap (·.queue? w)) tally, users)
  | failed {cause : GenerationError} {users : List User} :
    t.generates → kept = [] → List.Forall₂ User.Resumes users (t.intakes.map (·.user)) →
    Prepared t w kept (.failed cause (returnedOf users t.intakes), users)
  | crashed {crash : Crash} {users : List User} :
    t.generates → List.Forall₂ User.Resumes users (t.intakes.map (·.user)) →
    Prepared t w kept (.crashed crash, users)

theorem queuesOfCarried_eq (w : Window) (intakes : List Intake) :
    queuesOfCarried intakes = (intakes.map .resting).filterMap (Draft.queue? · w) := by
  unfold queuesOfCarried
  rw [List.filterMap_map]
  congr 1
  funext i
  exact Draft.queue?_resting.symm

/-- **How the build of a task ends.** -/
theorem prepare_prepared (t : Task) (p : Planner) (generator : Generator) (w : Window) :
    t.Prepared w (t.kept p generator w) (t.prepare p generator w) := by
  unfold prepare Task.kept
  split
  · rename_i hgenerates
    have husers := generateAll_users p generator w t.intakes t.source
    unfold build
    simp only
    cases hstop : (generateAll p generator w t.intakes t.source).stop with
    | none =>
      refine .built (generateAll_drafts p generator w t.intakes t.source hstop) rfl ?_ (.inl rfl)
      exact (length_flatMap_eq_totalOf _ _).symm
    | some stop =>
      cases stop with
      | error cause => exact .failed hgenerates rfl husers
      | crash crash => exact .crashed hgenerates husers
  · rw [queuesOfCarried_eq w]
    refine .built (List.forall₂_map_left_iff.2 (List.forall₂_same.2 fun i _ => Draft.of_resting i)) ?_
      rfl (.inr ⟨rfl, rfl⟩)
    simp [Draft.kept_resting]

end Task

end ShopTraffic
