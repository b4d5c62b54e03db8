import Mathlib
import ShopTraffic.Proofs.Calls
import ShopTraffic.Proofs.TimeSort

/-!
# What a build gives

A build whose calls are all complete gives a queue to every user for whom there are events, and the
counts of what it did. A build with a call that fails gives back what was carried in. Either way a
user keeps all but its time and its sessions, unless its window begins.

* `Turn.inside`, `Turn.active` — what a turn adds to a window, and the users there are events for;
* `Turn.Queued`, `Turn.Drafted.queue?` — the queue of such a user;
* `Built`, `build_built` — the build whose calls are all complete;
* `Failed`, `build_failed` — the build with a call that fails.
-/

set_option autoImplicit false

namespace ShopTraffic

open Chance

/-! ## Queues -/

namespace Turn

/-- The new events that lie in the window, as they were emitted. -/
def inside (w : Window) (t : Turn) : List Event := t.emitted.filter (w.contains ·.time)

/-- There are events for the user. -/
def active (w : Window) (t : Turn) : Bool := !(t.intake.carried ++ t.inside w).isEmpty

/-- The queue of a user: what it carries in, then the new events of the window, sorted stably. Its
counters are those of a window that begins. -/
structure Queued (w : Window) (t : Turn) (q : Queue) : Prop where
  user : q.user.Resumes (t.intake.user.beginWindow q.events.length)
  events : ∃ new, q.events = t.intake.carried ++ new ∧ StablySorted new (t.inside w)

/-- The user after the turn. The window begins for a user for whom there are events, and leaves the
counters of the others alone. -/
def Settled (w : Window) (t : Turn) (u : User) : Prop :=
  u.Resumes (if t.active w then t.intake.user.beginWindow (t.intake.carried ++ t.inside w).length
    else t.intake.user)

namespace Drafted

variable {w : Window} {t : Turn} {d : Draft}

theorem kept (h : t.Drafted d) : d.kept w = byTime (t.inside w) := by
  unfold Draft.kept inside
  rw [h.emitted]

theorem queued (h : t.Drafted d) : d.queued w = t.intake.carried ++ byTime (t.inside w) := by
  unfold Draft.queued
  rw [h.of.carried, h.kept]

theorem length_queued (h : t.Drafted d) :
    (d.queued w).length = (t.intake.carried ++ t.inside w).length := by
  rw [h.queued, List.length_append, List.length_append, (byTime_perm _).length_eq]

theorem isEmpty_queued (h : t.Drafted d) : (d.queued w).isEmpty = !t.active w := by
  rw [active, Bool.not_not, Bool.eq_iff_iff, List.isEmpty_iff_length_eq_zero, h.length_queued,
    List.isEmpty_iff_length_eq_zero]

/-- **The window begins for the users for whom there are events.** -/
theorem settled (h : t.Drafted d) : t.Settled w (d.settledUser w) := by
  unfold Settled Draft.settledUser
  rw [h.isEmpty_queued, h.length_queued]
  cases t.active w with
  | false => exact h.of.user
  | true =>
    have huser := h.of.user
    unfold User.Resumes at huser ⊢
    rw [huser]
    rfl

/-- **Who has a queue**, and what is in it. -/
theorem queue? (h : t.Drafted d) :
    if t.active w then ∃ q, d.queue? w = some q ∧ t.Queued w q else d.queue? w = none := by
  have hsettled : t.Settled w (d.settledUser w) := h.settled
  unfold Draft.queue?
  unfold Settled at hsettled
  rw [h.isEmpty_queued]
  by_cases hactive : t.active w = true
  · rw [if_pos hactive] at hsettled ⊢
    rw [← h.length_queued] at hsettled
    refine ⟨⟨d.settledUser w, d.queued w⟩, by simp [hactive], hsettled, ?_⟩
    exact ⟨_, h.queued, stablySorted_byTime _⟩
  · rw [if_neg hactive]
    simp [hactive]

end Drafted

end Turn

/-! ## Complete builds -/

theorem totalOf_forall₂ {α β : Type} {R : α → β → Prop} {f : α → Nat} {g : β → Nat} {xs : List α}
    {ys : List β} (h : List.Forall₂ R xs ys) (heq : ∀ x y, R x y → f x = g y) :
    totalOf f xs = totalOf g ys := by
  induction h with
  | nil => rfl
  | cons hxy _ ih => rw [totalOf_cons, totalOf_cons, heq _ _ hxy, ih]

/-- **A complete build**, by the turns of its users. -/
structure Built (w : Window) (ts : List Turn) (queues : List Queue) (tally : Tally)
    (users : List User) : Prop where
  /-- The users for whom there are events have queues, in order, and nobody else has one. -/
  queued : List.Forall₂ (Turn.Queued w) (ts.filter (·.active w)) queues
  settled : List.Forall₂ (Turn.Settled w) ts users
  /-- The users of the queues are among the users that are left. -/
  same : (queues.map (·.user)).Sublist users
  active : tally.users = queues.length
  carried : tally.carried = totalOf (·.intake.carried.length) (ts.filter (·.active w))
  generated : tally.generated = totalOf (fun t => (t.inside w).length) (ts.filter (·.active w))
  /-- Every event that was emitted is counted once, whether it is kept or not. -/
  emitted : tally.generated + tally.truncated = totalOf (·.emitted.length) ts

section Built

variable {w : Window} {ts : List Turn} {drafts : List Draft}

theorem queued_of_drafted (h : List.Forall₂ Turn.Drafted ts drafts) :
    List.Forall₂ (Turn.Queued w) (ts.filter (·.active w)) (drafts.filterMap (·.queue? w)) := by
  induction h with
  | nil => exact .nil
  | @cons t d _ _ hd _ ih =>
    have hqueue := hd.queue? (w := w)
    rw [List.filter_cons, List.filterMap_cons]
    by_cases hactive : t.active w = true
    · rw [if_pos hactive] at hqueue ⊢
      obtain ⟨q, hq, hqueued⟩ := hqueue
      rw [hq]
      exact .cons hqueued ih
    · rw [if_neg hactive] at hqueue ⊢
      rw [hqueue]
      exact ih

/-- An inactive turn has nothing to count. -/
theorem Turn.lengths_of_inactive {t : Turn} (h : t.active w = false) :
    t.intake.carried.length = 0 ∧ (t.inside w).length = 0 := by
  simpa [active, List.length_eq_zero_iff] using h

/-- **What the drafts of some turns come to.** -/
theorem built_of_drafted (h : List.Forall₂ Turn.Drafted ts drafts) :
    Built w ts (drafts.filterMap (·.queue? w)) (tallyOf w drafts) (drafts.map (·.settledUser w)) := by
  have hkept : ∀ (t : Turn) (d : Draft), t.Drafted d → (t.inside w).length = (d.kept w).length := by
    intro t d hd
    rw [hd.kept, (byTime_perm _).length_eq]
  have hsplit : ∀ (t : Turn) (d : Draft), t.Drafted d →
      t.emitted.length = (d.kept w).length + (d.emitted.length - (d.kept w).length) := by
    intro t d hd
    have hle : (t.inside w).length ≤ t.emitted.length := List.length_filter_le _ _
    rw [hkept t d hd] at hle
    rw [hd.emitted]
    omega
  constructor
  case queued => exact queued_of_drafted h
  case settled => exact List.forall₂_map_right_iff.2 (h.imp fun _ _ hd => hd.settled)
  case same => exact queues_users_sublist w drafts
  case active => rfl
  case carried =>
    rw [totalOf_filter fun t ht => (Turn.lengths_of_inactive ht).1]
    exact (totalOf_forall₂ h fun t d hd => congrArg List.length hd.of.carried.symm).symm
  case generated =>
    rw [totalOf_filter fun t ht => (Turn.lengths_of_inactive ht).2]
    exact (totalOf_forall₂ h hkept).symm
  case emitted =>
    rw [totalOf_forall₂ h hsplit, ← totalOf_add]
    rfl

end Built

section Build

variable {p : Planner} {generator : Generator} {w : Window} {intakes : List Intake} {s : Source}

/-- All users are drafted where all calls are complete. -/
theorem build_of_complete
    (h : ∀ t ∈ turns p generator w intakes s, ∀ c ∈ t.calls, c.session.stop = none) :
    (turns p generator w intakes s).map (·.intake) = intakes ∧
      ∃ drafts, List.Forall₂ Turn.Drafted (turns p generator w intakes s) drafts ∧
        (build p generator w intakes s).result =
          .built (drafts.filterMap (·.queue? w)) (tallyOf w drafts) ∧
        (build p generator w intakes s).users = drafts.map (·.settledUser w) := by
  obtain ⟨hstop, ⟨touched, rest, hintakes, -, -, hrest⟩, hdrafts, -⟩ :=
    generateAll_made p generator w intakes s
  have hnone : (generateAll p generator w intakes s).stop = none := by
    rw [hstop]
    exact List.findSome?_eq_none_iff.2 fun t ht => List.findSome?_eq_none_iff.2 (h t ht)
  rw [hrest hnone, List.append_nil] at hintakes
  unfold build
  simp only [hnone]
  exact ⟨hintakes.symm, _, hdrafts hnone, rfl, rfl⟩

/-- **A build whose calls are all complete** takes every user up, gives a queue to everyone for whom
there are events, and counts every event. -/
theorem build_built (h : ∀ t ∈ turns p generator w intakes s, ∀ c ∈ t.calls, c.session.stop = none) :
    (turns p generator w intakes s).map (·.intake) = intakes ∧
      ∃ queues tally, (build p generator w intakes s).result = .built queues tally ∧
        Built w (turns p generator w intakes s) queues tally (build p generator w intakes s).users := by
  obtain ⟨hintakes, drafts, hdrafted, hresult, husers⟩ := build_of_complete h
  refine ⟨hintakes, _, _, hresult, ?_⟩
  rw [husers]
  exact built_of_drafted hdrafted

end Build

/-- One session a day, at midnight. -/
def Planner.midnight : Planner where
  counts := ⟨[1], Nat.one_pos⟩
  hours := ⟨[(0, 1)], Nat.one_pos⟩
  minutes := ⟨[0], Nat.one_pos⟩

/-- Sessions whose events are out of order and partly of one time. They fail for some users, when
all events are emitted. -/
def Generator.tangled (failing : List UserId) : Generator := fun user start source =>
  { events := [{ type := "last", time := start.plus 90000 }, { type := "open", time := start },
      { type := "view", time := start }]
    user, source
    stop := if user.id ∈ failing then some (.error (.misconfigured "no pages")) else none }

/-- Three users, of whom the first and the last one carry an event in. -/
def Intake.three : List Intake :=
  let device : Device := ⟨"Mozilla", "Firefox", "121.0", 1536, 864, "en_US", "1.1.1.1"⟩
  [⟨{ id := .ofNat 1, platform := .web, device }, [{ type := "earlier", time := .zero }]⟩,
    ⟨{ id := .ofNat 2, platform := .web, device, seat := 1 }, []⟩,
    ⟨{ id := .ofNat 3, platform := .web, device, seat := 2 }, [{ type := "earlier", time := .zero }]⟩]

/-- The turns of the three users in the first minute of a day. -/
def Turn.three (failing : List UserId) : List Turn :=
  turns .midnight (.tangled failing) (.ofLength ⟨0⟩ .zero 60000) Intake.three
    ⟨List.replicate 64 0, .ofSeed 0⟩

/-- The build for the three users. -/
def Build.three (failing : List UserId) : Build :=
  build .midnight (.tangled failing) (.ofLength ⟨0⟩ .zero 60000) Intake.three
    ⟨List.replicate 64 0, .ofSeed 0⟩

theorem build_built_three :
    (∀ t ∈ Turn.three [], ∀ c ∈ t.calls, c.session.stop = none) ∧
      (Turn.three []).map (·.calls.length) = [1, 1, 1] ∧
      (Turn.three []).map (·.intake) = Intake.three ∧
      ∃ queues tally, (Build.three []).result = .built queues tally ∧
        Built (.ofLength ⟨0⟩ .zero 60000) (Turn.three []) queues tally (Build.three []).users := by
  have hcomplete : ∀ t ∈ Turn.three [], ∀ c ∈ t.calls, c.session.stop = none := by decide +kernel
  exact ⟨hcomplete, by decide +kernel, build_built hcomplete⟩

/-! ## Failed builds -/

/-- In a row in which only a last item can stop, the item that stops is the last one. -/
theorem exists_init_of_stop {α β : Type} {f : α → Option β} {xs : List α} {x : α} {b : β}
    (h : xs.IsChain fun y _ => f y = none) (hx : x ∈ xs) (hstop : f x = some b) :
    ∃ init, xs = init ++ [x] ∧ ∀ y ∈ init, f y = none := by
  induction xs with
  | nil => cases hx
  | cons y rest ih =>
    cases rest with
    | nil => exact ⟨[], congrArg ([·]) (List.mem_singleton.1 hx).symm, by simp⟩
    | cons z rest =>
      obtain ⟨hy, hrest⟩ := List.isChain_cons_cons.1 h
      rcases List.mem_cons.1 hx with rfl | hx
      · rw [hstop] at hy
        cases hy
      · obtain ⟨init, hinit, hnone⟩ := ih hrest hx
        exact ⟨y :: init, congrArg (y :: ·) hinit, List.forall_mem_cons.2 ⟨hy, hnone⟩⟩

/-- **A failed build**, by the turns up to the one that failed and the call that failed in it. -/
structure Failed (intakes : List Intake) (ts : List Turn) (t : Turn) (c : Call)
    (returned : List Carried) (users : List User) : Prop where
  /-- All calls before the one that failed are complete. -/
  first : ∃ done calls, ts = done ++ [t] ∧ t.calls = calls ++ [c] ∧
    ∀ d ∈ done.flatMap (·.calls) ++ calls, d.session.stop = none
  /-- What was carried in is given back, in order and with its users. -/
  back : List.Forall₂ (fun r i => r.user.Resumes i.user ∧ r.events = i.carried) returned
    (intakes.filter (!·.carried.isEmpty))
  same : (returned.map (·.user)).Sublist users
  /-- No counter of a window changes. -/
  counters : List.Forall₂ User.Resumes users (intakes.map (·.user))
  /-- The users who had no turn are as they were. -/
  untouched : ∃ touched rest, intakes = ts.map (·.intake) ++ rest ∧
    users = touched ++ rest.map (·.user) ∧ touched.length = ts.length

section Build

variable {p : Planner} {generator : Generator} {w : Window} {intakes : List Intake} {s : Source}

/-- The calls come to their end with one that stops. -/
theorem generateAll_stopped {t : Turn} {c : Call} {stop : Stop GenerationError}
    (ht : t ∈ turns p generator w intakes s) (hc : c ∈ t.calls) (hstop : c.session.stop = some stop) :
    (generateAll p generator w intakes s).stop = some stop ∧
      ∃ done calls, turns p generator w intakes s = done ++ [t] ∧ t.calls = calls ++ [c] ∧
        ∀ d ∈ done.flatMap (·.calls) ++ calls, d.session.stop = none := by
  obtain ⟨hends, -, -, hchained⟩ := generateAll_made p generator w intakes s
  have hmade := turns_made p generator w intakes s t ht
  obtain ⟨calls, hcalls, hearlier⟩ := exists_init_of_stop
    (hmade.chained.imp fun _ _ hthen => hthen.complete) hc hstop
  have hturn : t.stop = some stop := by
    unfold Turn.stop
    rw [hcalls, List.findSome?_append, List.findSome?_eq_none_iff.2 hearlier]
    simp [hstop]
  obtain ⟨done, hdone, hbefore⟩ := exists_init_of_stop hchained ht hturn
  refine ⟨?_, done, calls, hdone, hcalls, fun d hd => ?_⟩
  · rw [hends, hdone, List.findSome?_append, List.findSome?_eq_none_iff.2 hbefore]
    simp [hturn]
  · rcases List.mem_append.1 hd with hd | hd
    · obtain ⟨t', ht', hd⟩ := List.mem_flatMap.1 hd
      exact List.findSome?_eq_none_iff.1 (hbefore t' ht') d hd
    · exact hearlier d hd

/-- **A build with a call that fails** reports that call and gives back what was carried in. -/
theorem build_failed {t : Turn} {c : Call} {cause : GenerationError}
    (ht : t ∈ turns p generator w intakes s) (hc : c ∈ t.calls)
    (hstop : c.session.stop = some (.error cause)) :
    ∃ returned, (build p generator w intakes s).result = .failed cause returned ∧
      Failed intakes (turns p generator w intakes s) t c returned
        (build p generator w intakes s).users := by
  obtain ⟨hcause, hfirst⟩ := generateAll_stopped ht hc hstop
  obtain ⟨-, ⟨touched, rest, hintakes, husers, hlength, -⟩, -, -⟩ :=
    generateAll_made p generator w intakes s
  have hcounters := generateAll_users p generator w intakes s
  obtain ⟨hback, hsame⟩ := returnedOf_handedBack hcounters
  unfold build
  simp only [hcause]
  refine ⟨_, rfl, ?_⟩
  constructor
  case first => exact hfirst
  case back => exact hback
  case same => exact hsame
  case counters => exact hcounters
  case untouched => exact ⟨touched, rest, hintakes, husers, hlength⟩

end Build

theorem build_failed_three :
    ∃ t ∈ Turn.three [.ofNat 2], ∃ c ∈ t.calls,
      c.session.stop = some (.error (.misconfigured "no pages")) ∧
      ∃ returned, (Build.three [.ofNat 2]).result = .failed (.misconfigured "no pages") returned ∧
        Failed Intake.three (Turn.three [.ofNat 2]) t c returned (Build.three [.ofNat 2]).users := by
  have hfailing : ∃ t ∈ Turn.three [.ofNat 2], ∃ c ∈ t.calls,
      c.session.stop = some (.error (.misconfigured "no pages")) := by decide +kernel
  obtain ⟨t, ht, c, hc, hstop⟩ := hfailing
  exact ⟨t, ht, c, hc, hstop, build_failed ht hc hstop⟩

end ShopTraffic
