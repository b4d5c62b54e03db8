import Mathlib
import ShopTraffic.Proofs.Backlog
import ShopTraffic.Proofs.Builds
import ShopTraffic.Proofs.Overruns
import ShopTraffic.Proofs.Schedule

/-!
# Sessions cut off by a window

A shopping session is in order of time, as long as its times can be counted. A window in which it
starts keeps its beginning and cuts off its tail, and the stable sort of a queue keeps the beginnings
of all sessions as they are, however they overlap.

* `session_resumes`, `run_session` — a shopping session changes nothing of a user that it may not
  change;
* `Call.kept`, `Call.tail`, `Call.CutOff` — the two parts of a session;
* `Call.Stays`, `Call.InRange` — the times of a session can be counted; `Call.itinerary` — what it is
  like then;
* `Turn.KeepsBeginnings`, `build_cutsTails` — the queues of a build, and what it leaves out.
-/

set_option autoImplicit false

namespace ShopTraffic

open Chance Shop

namespace Shop

/-! ## What a session leaves alone -/

theorem walk_resumes (shop : Shop) (ctx : Context) (limit : Nat) (page : Page)
    (previous : Option String) (user : User) (source : Source) :
    (shop.walk ctx limit page previous user source).2.1.Resumes user := by
  induction limit generalizing page previous user source with
  | zero => exact .refl user
  | succ limit ih =>
    by_cases hpage : page = .exit
    · rw [walk, if_pos hpage]
      exact .refl user
    · have hadvanced : ∀ stay, (user.advance stay).2.Resumes user := fun _ => rfl
      rw [walk_succ hpage]
      exact (ih _ _ _ _).trans (hadvanced _)

theorem session_resumes (shop : Shop) (user : User) (start : Instant) (source : Source) :
    (shop.session user start source).user.Resumes user := by
  by_cases hnumber : user.sessions + 1 < 0x10000000000000000
  · have hwalk := shop.walk_resumes (shop.context user (user.sessions + 1)) shop.maxScreens
      (entryPage (user.sessions + 1)) none
      (({ user with sessions := user.sessions + 1 } : User).moveTo start) source
    have hnumbered : (({ user with sessions := user.sessions + 1 } : User).moveTo start).Resumes user :=
      rfl
    rw [(session_around hnumber rfl).1]
    exact hwalk.trans hnumbered
  · rw [session_uncounted _ start source hnumber]
    exact .refl user

/-- A shopping session changes nothing of a user that it may not change. -/
theorem run_session (shop : Shop) (user : User) (start : Instant) (source : Source) :
    Generator.run shop.session user start source = shop.session user start source := by
  have hsame := shop.session_resumes user start source
  unfold User.Resumes at hsame
  unfold Generator.run
  simp only
  rw [← hsame]

end Shop

/-! ## One session -/

/-- The event is of the session of that number. -/
def Shop.isOfSession (n : Nat) (e : Event) : Bool :=
  match e.attribute? "session_number" with
  | some (.int m) => m == n
  | _ => false

namespace Call

/-- The events of a session before the end of a window. -/
def kept (w : Window) (c : Call) : List Event := c.session.events.takeWhile (·.time < w.finish)

/-- What comes after them. -/
def tail (w : Window) (c : Call) : List Event := c.session.events.dropWhile (·.time < w.finish)

/-- A session of which a window keeps a beginning with the event that opens it. -/
structure CutOff (w : Window) (c : Call) : Prop where
  whole : c.session.events = c.kept w ++ c.tail w
  opened : ∃ first ∈ (c.kept w).head?, first.type = "_session_start" ∧ first.time = c.start
  /-- What lies in the window is the beginning. -/
  inside : c.session.events.filter (w.contains ·.time) = c.kept w

/-- The stays of a session, as the times of its screens and the time that its user keeps show them. -/
structure Stays (shop : Shop) (c : Call) (stays : List Nat) : Prop where
  drawn : ∀ stay ∈ stays, shop.minDwell ≤ stay ∧ stay ≤ shop.maxDwell
  count : stays.length ≤ shop.maxScreens
  times : (c.session.events.filter isView).map (·.time.millis) ++ [c.session.user.time.millis] =
    countedTimes c.start.millis stays

/-- The times of a session can be counted: its start and all its stays. -/
def InRange (shop : Shop) (c : Call) : Prop :=
  ∀ stays, c.Stays shop stays → c.start.millis + stays.sum < 0x10000000000000000

/-- A session that starts in a window is in range if its longest course from the end of the window
is. -/
theorem inRange_of_room {shop : Shop} {w : Window} {c : Call} (hstart : w.contains c.start)
    (hroom : w.finish.millis + shop.maxScreens * shop.maxDwell ≤ 0x10000000000000000) :
    c.InRange shop := by
  intro stays hstays
  have hfinish : c.start.millis < w.finish.millis := ((w.contains_iff _).1 hstart).2
  have hsum : stays.sum ≤ stays.length * shop.maxDwell := by
    simpa using List.sum_le_card_nsmul stays shop.maxDwell fun stay h => (hstays.drawn stay h).2
  have hlength : stays.length * shop.maxDwell ≤ shop.maxScreens * shop.maxDwell :=
    Nat.mul_le_mul_right _ hstays.count
  omega

section Session

variable {shop : Shop} {w : Window} {user : User} {c : Call}

theorem session_eq (h : c.Made shop.session w user) :
    ∃ source, c.session = shop.session (c.user.moveTo c.start) c.start source := by
  obtain ⟨source, hrun⟩ := h.run
  exact ⟨source, hrun.trans (shop.run_session _ _ _)⟩

/-- **A session in range has an itinerary.** -/
theorem itinerary (h : c.Made shop.session w user) (hscreens : 0 < shop.maxScreens)
    (hstay : shop.minDwell ≤ shop.maxDwell) (hwide : shop.maxDwell < 0x10000000000000000)
    (hrange : c.InRange shop) (hnumber : c.user.sessions + 1 < 0x10000000000000000) :
    ∃ source opening visits closing,
      Itinerary shop (c.user.moveTo c.start) c.start source c.session opening visits closing := by
  obtain ⟨source, hsession⟩ := session_eq h
  obtain ⟨stays, hreckoned, hitinerary⟩ :=
    shop.exists_reckoned_itinerary (c.user.moveTo c.start) c.start source hscreens hstay hwide hnumber
  rw [← hsession] at hreckoned hitinerary
  exact ⟨source, hitinerary (hrange stays ⟨hreckoned.drawn, hreckoned.count.2, hreckoned.times⟩)⟩

/-- **A window cuts off the tail of a session** that starts in it and has an itinerary. -/
theorem cutOff {source : Source} {opening : List Event} {visits : List Visit} {closing : Event}
    (h : Itinerary shop user c.start source c.session opening visits closing)
    (hstart : w.contains c.start) : c.CutOff w := by
  obtain ⟨hfrom, hto⟩ := (w.contains_iff _).1 hstart
  have hcontains : ∀ e ∈ c.session.events,
      w.contains e.time = decide (e.time.millis < w.finish.millis) := by
    intro e he
    have hafter : w.start ≤ e.time := Nat.le_trans hfrom (h.after e he)
    simp [Window.contains, hafter, Instant.lt_def]
  constructor
  case whole => exact List.takeWhile_append_dropWhile.symm
  case opened =>
    have hopened := h.opened
    unfold kept
    rw [h.events]
    cases opening with
    | nil => cases hopened
    | cons first rest =>
      rw [List.map_cons, List.cons.injEq, Prod.mk.injEq] at hopened
      obtain ⟨⟨htype, htime⟩, -⟩ := hopened
      refine ⟨first, ?_, htype, htime⟩
      rw [List.cons_append, List.cons_append, List.takeWhile_cons_of_pos (by simpa [htime] using hto)]
      rfl
  case inside =>
    unfold kept
    rw [List.filter_congr hcontains, (h.ordered.cut w.finish).1]

/-- A complete session that takes the next number, tells it in all its events, and is in order of
time. -/
structure Regular (c : Call) : Prop where
  complete : c.session.stop = none
  counted : c.session.user.sessions = c.user.sessions + 1
  numbered : ∀ n, ∀ e ∈ c.session.events, isOfSession n e = decide (c.user.sessions + 1 = n)
  ordered : TimeOrdered c.session.events

theorem regular {source : Source} {opening : List Event} {visits : List Visit} {closing : Event}
    (h : Itinerary shop (c.user.moveTo c.start) c.start source c.session opening visits closing) :
    c.Regular := by
  constructor
  case complete => exact h.complete
  case counted => rw [h.left]; rfl
  case numbered =>
    intro n e he
    have hnumber : e.attribute? "session_number" = some (.int (c.user.sessions + 1 : Nat)) :=
      (h.shared e he).number
    unfold isOfSession
    rw [hnumber]
    exact (beq_eq_decide _ _).trans (decide_eq_decide.2 Nat.cast_inj)
  case ordered => exact h.ordered

/-- A session whose number cannot be counted crashes. -/
theorem stop_of_uncounted (h : c.Made shop.session w user)
    (hnumber : 0x10000000000000000 ≤ c.user.sessions + 1) :
    c.session.stop = some (.crash .addOverflow) := by
  obtain ⟨source, hsession⟩ := session_eq h
  have huncounted : ¬ (c.user.moveTo c.start).sessions + 1 < 0x10000000000000000 :=
    Nat.not_lt.2 hnumber
  rw [hsession, session_uncounted shop c.start source huncounted]

end Session

end Call

/-! ## The sessions of a user -/

theorem flatMap_filter {α β : Type} (p : α → Bool) (f : α → List β) (xs : List α) :
    (xs.filter p).flatMap f = xs.flatMap fun x => if p x then f x else [] := by
  induction xs with
  | nil => rfl
  | cons x xs ih =>
    rw [List.filter_cons, List.flatMap_cons, ← ih]
    split <;> simp

/-- Among items with different keys, what is given under one key is what one item gives. -/
theorem filter_flatMap_of_nodup {α β κ : Type} [DecidableEq κ] (key : α → κ) {f : α → List β}
    {p : β → Bool} {xs : List α} (h : (xs.map key).Nodup) {x : α} (hx : x ∈ xs)
    (hp : ∀ y ∈ xs, ∀ b ∈ f y, p b = decide (key y = key x)) : (xs.flatMap f).filter p = f x := by
  have hfilter : ∀ y ∈ xs, (f y).filter p = if decide (key y = key x) then f y else [] := by
    intro y hy
    rw [List.filter_congr (hp y hy)]
    cases decide (key y = key x) <;> simp
  rw [List.filter_flatMap, List.flatMap_congr hfilter, ← flatMap_filter, filter_key_of_nodup key h hx,
    List.flatMap_singleton]

namespace Turn

/-- **A queue that keeps the beginnings of all sessions.** The event that opens a session is kept,
the kept events of each session stand in the order in which they were emitted, and no other event is
new. -/
structure KeepsBeginnings (w : Window) (t : Turn) (q : Queue) : Prop where
  queued : t.Queued w q
  cutOff : ∀ c ∈ t.calls, c.CutOff w
  events : ∃ new, q.events = t.intake.carried ++ new ∧ new.Perm (t.calls.flatMap (·.kept w)) ∧
    ∀ c ∈ t.calls, new.filter (isOfSession (c.user.sessions + 1)) = c.kept w

section Sessions

variable {generator : Generator} {w : Window} {t : Turn}

/-- The sessions of a user have different numbers. -/
theorem Made.numbers_nodup (h : t.Made generator w) (hregular : ∀ c ∈ t.calls, c.Regular) :
    (t.calls.map (·.user.sessions)).Nodup := by
  have hrising : t.calls.IsChain fun c d => c.user.sessions < d.user.sessions := by
    refine h.chained.imp_of_mem_imp fun c d hc _ hthen => ?_
    rw [hthen.user, (hregular c hc).counted]
    exact Nat.lt_succ_self _
  have hpairwise : (t.calls.map (·.user.sessions)).Pairwise (· < ·) :=
    ((List.isChain_map _).2 hrising).pairwise
  exact hpairwise.imp Nat.ne_of_lt

theorem inside_eq (hcut : ∀ c ∈ t.calls, c.CutOff w) :
    t.inside w = t.calls.flatMap (·.kept w) := by
  unfold inside emitted
  rw [List.filter_flatMap]
  exact List.flatMap_congr fun c hc => (hcut c hc).inside

theorem keepsBeginnings {q : Queue} (h : t.Made generator w) (hq : t.Queued w q)
    (hregular : ∀ c ∈ t.calls, c.Regular) (hcut : ∀ c ∈ t.calls, c.CutOff w) :
    t.KeepsBeginnings w q := by
  obtain ⟨new, hevents, hsorted⟩ := hq.events
  rw [inside_eq hcut] at hsorted
  refine ⟨hq, hcut, new, hevents, hsorted.perm, fun c hc => ?_⟩
  have hselect : (t.calls.flatMap (·.kept w)).filter (isOfSession (c.user.sessions + 1)) =
      c.kept w := by
    refine filter_flatMap_of_nodup (·.user.sessions) (h.numbers_nodup hregular) hc ?_
    intro d hd e he
    have hmem : e ∈ d.session.events := List.takeWhile_subset _ he
    rw [(hregular d hd).numbered _ e hmem]
    simp
  rw [hsorted.filter_eq (hselect ▸ (hregular c hc).ordered.sublist (List.takeWhile_sublist _)),
    hselect]

/-- The window holds something of every session. -/
theorem active_of_calls (hcut : ∀ c ∈ t.calls, c.CutOff w) (h : t.calls ≠ []) :
    t.active w = true := by
  obtain ⟨c, hc⟩ := List.exists_mem_of_ne_nil _ h
  obtain ⟨first, hfirst, -, -⟩ := (hcut c hc).opened
  have hmem : first ∈ t.intake.carried ++ t.inside w := by
    rw [inside_eq hcut]
    exact List.mem_append_right _ (List.mem_flatMap.2 ⟨c, hc, List.mem_of_mem_head? hfirst⟩)
  simpa [active] using List.ne_nil_of_mem hmem

theorem length_emitted (hcut : ∀ c ∈ t.calls, c.CutOff w) :
    t.emitted.length = (t.inside w).length + totalOf (fun c => (c.tail w).length) t.calls := by
  have hparts : ∀ c ∈ t.calls, c.session.events.length = (c.kept w).length + (c.tail w).length := by
    intro c hc
    rw [(hcut c hc).whole, List.length_append]
  rw [inside_eq hcut]
  unfold emitted
  rw [length_flatMap_eq_totalOf, length_flatMap_eq_totalOf, totalOf_add, totalOf_congr hparts]

end Sessions

end Turn

/-! ## All sessions -/

/-- A build that leaves out nothing but tails of sessions. -/
structure CutsTails (w : Window) (ts : List Turn) (queues : List Queue) (tally : Tally) : Prop where
  /-- Every user who has a session has a queue. -/
  active : ∀ t ∈ ts, t.calls ≠ [] → t.active w = true
  queued : List.Forall₂ (Turn.KeepsBeginnings w) (ts.filter (·.active w)) queues
  truncated : tally.truncated = totalOf (fun t => totalOf (fun c => (c.tail w).length) t.calls) ts

theorem Built.cutsTails {generator : Generator} {w : Window} {ts : List Turn} {queues : List Queue}
    {tally : Tally} {users : List User} (h : Built w ts queues tally users)
    (hmade : ∀ t ∈ ts, t.Made generator w) (hregular : ∀ t ∈ ts, ∀ c ∈ t.calls, c.Regular)
    (hcut : ∀ t ∈ ts, ∀ c ∈ t.calls, c.CutOff w) : CutsTails w ts queues tally := by
  constructor
  case active => exact fun t ht => Turn.active_of_calls (hcut t ht)
  case queued =>
    have hturns : ∀ t ∈ ts.filter (·.active w), t ∈ ts := fun t ht => (List.mem_filter.1 ht).1
    refine ((List.forall₂_and_left _ _).2 ⟨hturns, h.queued⟩).imp fun t q hq => ?_
    exact Turn.keepsBeginnings (hmade t hq.1) hq.2 (hregular t hq.1) (hcut t hq.1)
  case truncated =>
    have hemitted := h.emitted
    rw [h.generated, totalOf_filter fun t ht => (Turn.lengths_of_inactive ht).2,
      totalOf_congr fun t ht => Turn.length_emitted (hcut t ht), ← totalOf_add] at hemitted
    omega

section Build

variable {p : Planner} {w : Window} {intakes : List Intake} {s : Source}

/-- **A build of shopping sessions cuts off nothing but tails**, as long as the times of the sessions
can be counted. Only where the number of a session cannot be counted is there no build. -/
theorem build_cutsTails (appId : String) (c : WorkloadSettings)
    (hwide : c.maxDwell < 0x10000000000000000)
    (hrange : ∀ t ∈ turns p (ofSettings appId c).session w intakes s, ∀ call ∈ t.calls,
      call.InRange (ofSettings appId c)) :
    ((∀ t ∈ turns p (ofSettings appId c).session w intakes s, ∀ call ∈ t.calls,
        call.user.sessions + 1 < 0x10000000000000000) →
      ∃ queues tally,
        (build p (ofSettings appId c).session w intakes s).result = .built queues tally ∧
          CutsTails w (turns p (ofSettings appId c).session w intakes s) queues tally) ∧
      ((∃ t ∈ turns p (ofSettings appId c).session w intakes s, ∃ call ∈ t.calls,
          0x10000000000000000 ≤ call.user.sessions + 1) →
        (build p (ofSettings appId c).session w intakes s).result = .crashed .addOverflow) := by
  have hscreens : 0 < (ofSettings appId c).maxScreens := Nat.le_max_right _ _
  have hstay : (ofSettings appId c).minDwell ≤ (ofSettings appId c).maxDwell := Nat.min_le_right _ _
  have hmade := turns_made p (ofSettings appId c).session w intakes s
  constructor
  · intro hnumbers
    have hcounted : ∀ t ∈ turns p (ofSettings appId c).session w intakes s, ∀ call ∈ t.calls,
        call.Regular ∧ call.CutOff w := by
      intro t ht call hcall
      have hcallMade := (hmade t ht).calls call hcall
      obtain ⟨_, _, _, _, hitinerary⟩ := Call.itinerary hcallMade hscreens hstay hwide
        (hrange t ht call hcall) (hnumbers t ht call hcall)
      exact ⟨Call.regular hitinerary, Call.cutOff hitinerary hcallMade.start⟩
    obtain ⟨-, drafts, hdrafted, hresult, -⟩ := build_of_complete fun t ht call hcall =>
      (hcounted t ht call hcall).1.complete
    refine ⟨_, _, hresult, (built_of_drafted hdrafted).cutsTails hmade ?_ ?_⟩
    · exact fun t ht call hcall => (hcounted t ht call hcall).1
    · exact fun t ht call hcall => (hcounted t ht call hcall).2
  · rintro ⟨t, ht, call, hcall, hnumber⟩
    have hstop := Call.stop_of_uncounted ((hmade t ht).calls call hcall) hnumber
    unfold build
    simp only [(generateAll_stopped ht hcall hstop).1]

end Build

/-- Sessions of three screens with stays that take most of a minute. -/
def slowStays : WorkloadSettings := { maxScreens := 3, minDwell := 40000, maxDwell := 60000 }

/-- The turns of three users in the first minute of a day. -/
def Turn.midnight : List Turn :=
  turns .midnight (ofSettings "shop" slowStays).session (.ofLength ⟨0⟩ .zero 60000) Intake.three
    ⟨List.replicate 256 0, .ofSeed 0⟩

theorem build_cutsTails_midnight :
    slowStays.check = .ok () ∧ slowStays.maxDwell < 0x10000000000000000 ∧
      (∀ t ∈ Turn.midnight, ∀ call ∈ t.calls, call.InRange (ofSettings "shop" slowStays)) ∧
      Turn.midnight.map (fun t => t.calls.map fun call =>
        ((call.kept (.ofLength ⟨0⟩ .zero 60000)).length,
          (call.tail (.ofLength ⟨0⟩ .zero 60000)).length)) = [[(5, 3)], [(5, 3)], [(5, 3)]] ∧
      ∃ queues tally,
        (build .midnight (ofSettings "shop" slowStays).session (.ofLength ⟨0⟩ .zero 60000)
          Intake.three ⟨List.replicate 256 0, .ofSeed 0⟩).result = .built queues tally ∧
          CutsTails (.ofLength ⟨0⟩ .zero 60000) Turn.midnight queues tally := by
  have hwide : slowStays.maxDwell < 0x10000000000000000 := by decide
  have hrange : ∀ t ∈ Turn.midnight, ∀ call ∈ t.calls,
      call.InRange (ofSettings "shop" slowStays) := by
    intro t ht call hcall
    exact Call.inRange_of_room ((turns_made _ _ _ _ _ t ht).calls call hcall).start (by decide)
  have hnumbers : ∀ t ∈ Turn.midnight, ∀ call ∈ t.calls,
      call.user.sessions + 1 < 0x10000000000000000 := by decide +kernel
  exact ⟨by decide, hwide, hrange, by decide +kernel,
    (build_cutsTails "shop" slowStays hwide hrange).1 hnumbers⟩

end ShopTraffic
