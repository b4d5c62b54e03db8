import Mathlib
import ShopTraffic.Proofs.Building
import ShopTraffic.Proofs.Plans

/-!
# The calls of a build

A build calls its generator for one session after the other and one user after the other, until a
call stops early. The calls that are made, with all that comes of them, say what a build is made
from.

* `Call`, `callsFrom` — the calls for the sessions of one user, `leftBy` — what they leave; `Turn`,
  `turns` — the users in turn and the calls made for them;
* `callsFrom_of` — the calls are calls of the generator; `runSessions_eq` — the sessions of a user are
  the sessions of its calls;
* `Turn.Made`, `turns_made` — the user of a call is the one the call before it left, and only a last
  call stops early;
* `Drafting.Made`, `generateAll_made` — what users are generated, and what they are left as.
-/

set_option autoImplicit false

namespace ShopTraffic

open Chance

/-- A call of a generator. -/
structure Call where
  /-- The user as it comes to the session. -/
  user : User
  start : Instant
  /-- What the call leaves behind. -/
  session : Session

/-- The calls for the sessions of a user, up to one that stops early. -/
def callsFrom (generator : Generator) : List Instant → User → Source → List Call
  | [], _, _ => []
  | start :: starts, user, source =>
    let session := generator.run (user.moveTo start) start source
    ⟨user, start, session⟩ ::
      match session.stop with
      | some _ => []
      | none => callsFrom generator starts session.user session.source

/-- What the calls for a user leave: the user and the source after the last one. -/
def leftBy (calls : List Call) (user : User) (source : Source) : User × Source :=
  match calls.getLast? with
  | none => (user, source)
  | some c => (c.session.user, c.session.source)

/-- What a call emits, and why it stops early, is the generator's own word. -/
def Call.Of (generator : Generator) (c : Call) : Prop :=
  ∃ source, c.session.events = (generator (c.user.moveTo c.start) c.start source).events ∧
    c.session.stop = (generator (c.user.moveTo c.start) c.start source).stop

/-- What a user is handed, and the calls made for it. -/
structure Turn where
  intake : Intake
  calls : List Call

namespace Turn

/-- All events of the calls. -/
def emitted (t : Turn) : List Event := t.calls.flatMap (·.session.events)

/-- Why a call stopped early. -/
def stop (t : Turn) : Option (Stop GenerationError) := t.calls.findSome? (·.session.stop)

end Turn

/-- The users in turn, up to one that is not complete. -/
def turns (p : Planner) (generator : Generator) (w : Window) : List Intake → Source → List Turn
  | [], _ => []
  | i :: rest, s =>
    let (starts, source) := p.planWindow w s
    let session := generateUser p generator w i.user s
    ⟨i, callsFrom generator starts i.user source⟩ ::
      match session.stop with
      | some _ => []
      | none => turns p generator w rest session.source

/-! ## One user -/

section User

variable (generator : Generator)

theorem leftBy_cons (c : Call) (calls : List Call) (user : User) (source : Source) :
    leftBy (c :: calls) user source = leftBy calls c.session.user c.session.source := by
  unfold leftBy
  rw [List.getLast?_cons]
  cases calls.getLast? <;> rfl

/-- **The sessions of a user are the sessions of its calls.** -/
theorem runSessions_eq (starts : List Instant) (user : User) (source : Source) :
    runSessions generator starts user source =
      { events := (callsFrom generator starts user source).flatMap (·.session.events)
        user := (leftBy (callsFrom generator starts user source) user source).1
        source := (leftBy (callsFrom generator starts user source) user source).2
        stop := (callsFrom generator starts user source).findSome? (·.session.stop) } := by
  induction starts generalizing user source with
  | nil => rfl
  | cons start starts ih =>
    simp only [runSessions, callsFrom, List.flatMap_cons, List.findSome?_cons, leftBy_cons]
    cases hstop : (generator.run (user.moveTo start) start source).stop with
    | some stop =>
      simp only [List.flatMap_nil, List.append_nil, leftBy, List.getLast?_nil]
      rw [← hstop]
    | none =>
      simp only
      rw [ih]

theorem runSessions_calls (starts : List Instant) (user : User) (source : Source) :
    (runSessions generator starts user source).events =
        (callsFrom generator starts user source).flatMap (·.session.events) ∧
      (runSessions generator starts user source).stop =
        (callsFrom generator starts user source).findSome? (·.session.stop) := by
  rw [runSessions_eq]
  exact ⟨rfl, rfl⟩

/-- The calls for a user are calls of the generator. -/
theorem callsFrom_of (starts : List Instant) (user : User) (source : Source) :
    ∀ c ∈ callsFrom generator starts user source, c.Of generator := by
  induction starts generalizing user source with
  | nil => exact fun c hc => absurd hc List.not_mem_nil
  | cons start starts ih =>
    rw [callsFrom]
    refine List.forall_mem_cons.2 ⟨⟨source, rfl, rfl⟩, ?_⟩
    cases (generator.run (user.moveTo start) start source).stop with
    | some stop => exact fun c hc => absurd hc List.not_mem_nil
    | none => exact ih _ _

/-- A call in a window, for a user after some sessions. -/
structure Call.Made (w : Window) (user : User) (c : Call) : Prop where
  start : w.contains c.start
  user : c.user.Resumes user
  run : ∃ source, c.session = generator.run (c.user.moveTo c.start) c.start source

/-- One call after the other: the first one is complete, and the second one takes over its user. -/
structure Call.Then (c d : Call) : Prop where
  complete : c.session.stop = none
  user : d.user = c.session.user

/-- **The calls of a turn** are made one after the other, for one user. -/
structure Turn.Made (w : Window) (t : Turn) : Prop where
  calls : ∀ c ∈ t.calls, c.Made generator w t.intake.user
  first : ∀ c ∈ t.calls.head?, c.user = t.intake.user
  chained : t.calls.IsChain Call.Then

theorem callsFrom_made {w : Window} {starts : List Instant} (h : ∀ start ∈ starts, w.contains start)
    (i : Intake) (user : User) (source : Source) (huser : user.Resumes i.user) :
    (∀ c ∈ callsFrom generator starts user source, c.Made generator w i.user) ∧
      (∀ c ∈ (callsFrom generator starts user source).head?, c.user = user) ∧
      (callsFrom generator starts user source).IsChain Call.Then := by
  induction starts generalizing user source with
  | nil => simp [callsFrom]
  | cons start starts ih =>
    obtain ⟨hstart, hstarts⟩ := List.forall_mem_cons.1 h
    have hmade : Call.Made generator w i.user
        ⟨user, start, generator.run (user.moveTo start) start source⟩ :=
      ⟨hstart, huser, source, rfl⟩
    rw [callsFrom]
    cases hstop : (generator.run (user.moveTo start) start source).stop with
    | some stop =>
      refine ⟨List.forall_mem_singleton.2 hmade, ?_, List.isChain_singleton _⟩
      rintro c hc
      cases hc
      rfl
    | none =>
      obtain ⟨hcalls, hfirst, hchained⟩ := ih hstarts
        (generator.run (user.moveTo start) start source).user
        (generator.run (user.moveTo start) start source).source
        ((generator.run_resumes user start source).trans huser)
      refine ⟨List.forall_mem_cons.2 ⟨hmade, hcalls⟩, ?_, ?_⟩
      · rintro c hc
        cases hc
        rfl
      · exact List.isChain_cons.2 ⟨fun d hd => ⟨hstop, hfirst d hd⟩, hchained⟩

end User

/-! ## All users -/

section Build

variable (p : Planner) (generator : Generator) (w : Window)

theorem planWindow_contains (s : Source) : ∀ start ∈ (p.planWindow w s).1, w.contains start := by
  intro start hstart
  rw [Planner.planWindow_eq_filter] at hstart
  exact (List.mem_filter.1 hstart).2

theorem turns_made (intakes : List Intake) (s : Source) :
    ∀ t ∈ turns p generator w intakes s, t.Made generator w := by
  induction intakes generalizing s with
  | nil => exact fun t ht => absurd ht List.not_mem_nil
  | cons i rest ih =>
    obtain ⟨hcalls, hfirst, hchained⟩ := callsFrom_made generator (planWindow_contains p w s) i i.user
      (p.planWindow w s).2 (.refl i.user)
    rw [turns]
    simp only
    refine List.forall_mem_cons.2 ⟨⟨hcalls, hfirst, hchained⟩, ?_⟩
    cases (generateUser p generator w i.user s).stop with
    | some stop => exact fun t ht => absurd ht List.not_mem_nil
    | none => exact ih _

/-- A draft of what came of a turn. -/
structure Turn.Drafted (t : Turn) (d : Draft) : Prop where
  of : d.Of t.intake
  emitted : d.emitted = t.emitted

/-- **What is drafted in some turns.** All users are complete or one of them stopped; those who had
no turn are left alone. -/
structure Drafting.Made (intakes : List Intake) (ts : List Turn) (d : Drafting) : Prop where
  stop : d.stop = ts.findSome? (·.stop)
  users : ∃ touched rest, intakes = ts.map (·.intake) ++ rest ∧
    d.users = touched ++ rest.map (·.user) ∧ touched.length = ts.length ∧
      (d.stop = none → rest = [])
  drafts : d.stop = none → List.Forall₂ Turn.Drafted ts d.drafts
  /-- Only a last user is not complete. -/
  chained : ts.IsChain fun t _ => t.stop = none

theorem generateAll_made (intakes : List Intake) (s : Source) :
    (generateAll p generator w intakes s).Made intakes (turns p generator w intakes s) := by
  induction intakes generalizing s with
  | nil => exact ⟨rfl, ⟨[], [], rfl, rfl, rfl, fun _ => rfl⟩, fun _ => .nil, .nil⟩
  | cons i rest ih =>
    obtain ⟨hevents, hstops⟩ := runSessions_calls generator (p.planWindow w s).1 i.user
      (p.planWindow w s).2
    have hresumes := generateUser_resumes p generator w i.user s
    rw [generateAll, turns]
    simp only
    have hsession : generateUser p generator w i.user s =
        runSessions generator (p.planWindow w s).1 i.user (p.planWindow w s).2 := rfl
    rw [← hsession] at hevents hstops
    generalize generateUser p generator w i.user s = session at hevents hstops hresumes ⊢
    cases hstop : session.stop with
    | some stop =>
      rw [hstop] at hstops
      constructor
      case stop => simp [Turn.stop, ← hstops]
      case users =>
        exact ⟨[session.user], rest, rfl, rfl, rfl, fun h => absurd h (Option.some_ne_none stop)⟩
      case drafts => exact fun h => absurd h (Option.some_ne_none stop)
      case chained => exact List.isChain_singleton _
    | none =>
      rw [hstop] at hstops
      obtain ⟨hstop, ⟨touched, left, hleft, husers, hlength, hall⟩, hdrafts, hchained⟩ :=
        ih session.source
      have hfirst : Turn.stop ⟨i, callsFrom generator (p.planWindow w s).1 i.user
        (p.planWindow w s).2⟩ = none := hstops.symm
      constructor
      case stop => rw [List.findSome?_cons, hfirst, hstop]
      case users =>
        exact ⟨session.user :: touched, left, congrArg (i :: ·) hleft,
          congrArg (session.user :: ·) husers, congrArg (· + 1) hlength, hall⟩
      case drafts => exact fun h => .cons ⟨⟨hresumes, rfl⟩, hevents⟩ (hdrafts h)
      case chained => exact List.isChain_cons.2 ⟨fun _ _ => hfirst, hchained⟩

end Build

end ShopTraffic
