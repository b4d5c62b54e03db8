import Mathlib
import ShopTraffic.Proofs.DigitTexts
import ShopTraffic.Proofs.Residents
import ShopTraffic.Proofs.Truncation

/-!
# Sessions are told apart

Every event of a shopping session tells the user and the session. Users come to their sessions in
any order, each as the session before has left it, and take one number after the other. So no two
sessions tell the same, whoever they are of: texts of different users differ, and so do texts of
different numbers, also of numbers that have more digits than are filled up.

* `Event.sessionKey`, `Shop.Context.Shared.sessionKey` — what an event tells of its session;
  `Shop.Context.sessionKey_inj` — different users or numbers tell different things;
* `Shop.walk_shared`, `Shop.session_shared` — all events of a session tell the same;
* `Booking`, `callsOf` — calls for sessions of a population, one after the other;
* `Numbered`, `callsOf_numbered` — the numbers that users take in the course of the calls;
* `Identified`, `callsOf_identified` — sessions that are told apart; `callsOf_complete` — sessions
  that have room come to their end.
-/

set_option autoImplicit false

namespace ShopTraffic

open Chance Shop

/-! ## What an event tells of its session -/

/-- The user and the session that an event tells. -/
def Event.sessionKey (e : Event) : Option Json × Option Json :=
  (e.attribute? "unique_id", e.attribute? "session_id")

namespace Shop

/-- What the events of session `number` of a user tell. -/
def sessionKey (id : UserId) (number : Nat) : Option Json × Option Json :=
  (some (.str id.hex), some (.str (id.short ++ "-" ++ Text.padded 3 number)))

/-- **Different users or different numbers tell different things.** -/
theorem sessionKey_inj {id id' : UserId} {number number' : Nat} :
    sessionKey id number = sessionKey id' number' ↔ id = id' ∧ number = number' := by
  constructor
  · intro h
    simp only [sessionKey, Prod.mk.injEq, Option.some.injEq, Json.str.injEq] at h
    obtain ⟨hhex, hsession⟩ := h
    obtain rfl := UserId.hex_inj.1 hhex
    exact ⟨rfl, Text.padded_inj.1 (String.append_right_inj _ |>.1 hsession)⟩
  · rintro ⟨rfl, rfl⟩
    rfl

theorem Context.Shared.sessionKey {shop : Shop} {user : User} {number : Nat} {e : Event}
    (h : (shop.context user number).Shared e) : e.sessionKey = Shop.sessionKey user.id number :=
  Prod.ext h.user h.session

/-- All events of a walk tell the same, whatever its stays. -/
theorem walk_shared (shop : Shop) (ctx : Context) (limit : Nat) (page : Page)
    (previous : Option String) (user : User) (source : Source) :
    ∀ e ∈ (shop.walk ctx limit page previous user source).1, ctx.Shared e := by
  induction limit generalizing page previous user source with
  | zero => exact fun e he => absurd he List.not_mem_nil
  | succ limit ih =>
    by_cases hpage : page = .exit
    · rw [walk, if_pos hpage]
      exact fun e he => absurd he List.not_mem_nil
    · rw [walk_succ hpage]
      intro e he
      rcases List.mem_cons.1 he with rfl | he
      · exact ctx.view_shared page previous user.time
      · rcases List.mem_append.1 he with he | he
        · exact ((ctx.action_spec page _ _).2 e he).2
        · exact ih _ _ _ _ e he

/-- A walk takes no session numbers. -/
theorem walk_sessions (shop : Shop) (ctx : Context) (limit : Nat) (page : Page)
    (previous : Option String) (user : User) (source : Source) :
    (shop.walk ctx limit page previous user source).2.1.sessions = user.sessions := by
  induction limit generalizing page previous user source with
  | zero => rfl
  | succ limit ih =>
    by_cases hpage : page = .exit
    · rw [walk, if_pos hpage]
    · rw [walk_succ hpage]
      exact ih _ _ _ _

/-- **A session that comes to its end** takes the next number of its user, and all its events tell
the user and this number. -/
theorem session_shared {shop : Shop} {user : User} {start : Instant} {source : Source}
    (h : (shop.session user start source).stop = none) :
    (shop.session user start source).events ≠ [] ∧
      (∀ e ∈ (shop.session user start source).events,
        (shop.context user (user.sessions + 1)).Shared e) ∧
      (shop.session user start source).user.sessions = user.sessions + 1 := by
  have hnumber : user.sessions + 1 < 0x10000000000000000 := by
    by_contra hnumber
    rw [session_uncounted shop start source hnumber] at h
    cases h
  have hwalk := shop.walk_shared (shop.context user (user.sessions + 1)) shop.maxScreens
    (entryPage (user.sessions + 1)) none
    (({ user with sessions := user.sessions + 1 } : User).moveTo start) source
  have htaken := shop.walk_sessions (shop.context user (user.sessions + 1)) shop.maxScreens
    (entryPage (user.sessions + 1)) none
    (({ user with sessions := user.sessions + 1 } : User).moveTo start) source
  generalize hout : shop.walk _ _ _ _ _ _ = out at hwalk htaken
  obtain ⟨events, ended, s⟩ := out
  rw [session_of_walk hnumber hout] at h ⊢
  have hended : start ≤ ended.time := by
    by_contra hended
    rw [if_neg hended] at h
    cases h
  rw [if_pos hended]
  have hopening := (opening_spec (shop.context user (user.sessions + 1)) start).2
  have hclosing : (shop.context user (user.sessions + 1)).Shared
      ((shop.context user (user.sessions + 1)).closing start ended.time) :=
    ((shop.context user (user.sessions + 1)).event_shared _ _).set _ (by decide)
  refine ⟨List.append_ne_nil_of_right_ne_nil _ (List.cons_ne_nil _ _), ?_, htaken⟩
  simp only [List.mem_append, List.mem_singleton]
  rintro e ((he | he) | rfl)
  · exact (hopening e he).2
  · exact hwalk e he
  · exact hclosing

end Shop

/-! ## Calls in any order -/

/-- A call for a session of the user on a seat. -/
structure Booking where
  shop : Shop
  seat : Nat
  start : Instant
  source : Source

/-- The calls for sessions of a population, one after the other, each for a user as the calls before
have left it. A seat without a user is passed over. -/
def callsOf : List Booking → Population → List Call
  | [], _ => []
  | b :: rest, p =>
    match p.users[b.seat]? with
    | none => callsOf rest p
    | some user =>
      let session := b.shop.session user b.start b.source
      ⟨user, b.start, session⟩ :: callsOf rest (p.put session.user)

theorem callsOf_cons_of_some {b : Booking} {rest : List Booking} {p : Population} {user : User}
    (h : p.users[b.seat]? = some user) : callsOf (b :: rest) p =
      ⟨user, b.start, b.shop.session user b.start b.source⟩ ::
        callsOf rest (p.put (b.shop.session user b.start b.source).user) := by
  rw [callsOf, h]

theorem callsOf_cons_of_none {b : Booking} {rest : List Booking} {p : Population}
    (h : p.users[b.seat]? = none) : callsOf (b :: rest) p = callsOf rest p := by
  rw [callsOf, h]

/-- Every call for a user that there is is made, in order. -/
theorem callsOf_made (bookings : List Booking) (p : Population) :
    (callsOf bookings p).map (fun c => (c.user.seat, c.start)) =
      (bookings.filter (·.seat < p.size)).map fun b => (b.seat, b.start) := by
  induction bookings generalizing p with
  | nil => rfl
  | cons b rest ih =>
    cases huser : p.users[b.seat]? with
    | none =>
      have hseat : ¬ b.seat < p.size := Nat.not_lt.2 (Array.getElem?_eq_none_iff.1 huser)
      rw [callsOf_cons_of_none huser, ih, List.filter_cons_of_neg (by simpa using hseat)]
    | some user =>
      have hseat : b.seat < p.size := (Array.getElem?_eq_some_iff.1 huser).1
      rw [callsOf_cons_of_some huser, List.map_cons, ih, Population.size_put,
        List.filter_cons_of_pos (by simpa using hseat), List.map_cons, Population.seat_eq huser]

/-- What the calls for sessions of a population come to. -/
structure Numbered (p : Population) (calls : List Call) : Prop where
  /-- A call is for a user of the population, and no number is taken back. -/
  known : ∀ c ∈ calls, ∃ u ∈ p.users.toList, u.id = c.user.id ∧ u.sessions ≤ c.user.sessions
  /-- The sessions of a user are counted one after the other. -/
  counted : ∀ u ∈ p.users.toList, ∀ (k : Nat) (c : Call),
    (calls.filter (·.user.id = u.id))[k]? = some c → c.user.sessions = u.sessions + k
  rising : calls.Pairwise fun c d => c.user.id = d.user.id → c.user.sessions < d.user.sessions
  /-- The events of a session tell its user and its number. -/
  told : ∀ c ∈ calls, c.session.events ≠ [] ∧ ∀ e ∈ c.session.events,
    e.sessionKey = sessionKey c.user.id (c.user.sessions + 1) ∧
      e.attribute? "session_number" = some (.nat (c.user.sessions + 1))

namespace Numbered

variable {p : Population} {calls : List Call}

theorem nil (p : Population) : Numbered p [] where
  known := fun _ hc => absurd hc List.not_mem_nil
  counted := fun _ _ _ _ hc => by cases hc
  rising := .nil
  told := fun _ hc => absurd hc List.not_mem_nil

/-- **One call more**, before the others: its user goes into them with the next number. -/
theorem cons {user : User} {start : Instant} {session : Session} (hp : p.Distinct)
    (huser : user ∈ p.users.toList) (hresumes : session.user.Resumes user)
    (hnext : session.user.sessions = user.sessions + 1)
    (htold : session.events ≠ [] ∧ ∀ e ∈ session.events,
      e.sessionKey = sessionKey user.id (user.sessions + 1) ∧
        e.attribute? "session_number" = some (.nat (user.sessions + 1)))
    (hrest : Numbered (p.put session.user) calls) :
    Numbered p (⟨user, start, session⟩ :: calls) := by
  have hid := hresumes.id_eq
  have hmem := fun u : User => Population.mem_put (u := u)
    (Population.place_mem_of_resumes hresumes huser)
  -- A user of the later calls is this one, or one on another seat with another identity.
  have hother : ∀ u ∈ p.users.toList, u.seat ≠ session.user.seat → u.id ≠ user.id := by
    intro u hu hseat heq
    rw [hp.eq_of_id_eq hu huser heq] at hseat
    exact hseat hresumes.seat_eq.symm
  constructor
  case known =>
    refine List.forall_mem_cons.2 ⟨⟨user, huser, rfl, Nat.le_refl _⟩, fun d hd => ?_⟩
    obtain ⟨u, hu, hsame, hle⟩ := hrest.known d hd
    rcases (hmem u).1 hu with rfl | ⟨hu, -⟩
    · exact ⟨user, huser, hid.symm.trans hsame, by omega⟩
    · exact ⟨u, hu, hsame, hle⟩
  case counted =>
    intro u hu k d hd
    by_cases hsame : user.id = u.id
    · obtain rfl := hp.eq_of_id_eq huser hu hsame
      rw [List.filter_cons_of_pos (by simp)] at hd
      cases k with
      | zero =>
        cases hd
        rfl
      | succ k =>
        have hlater := hrest.counted session.user ((hmem _).2 (.inl rfl)) k d
        rw [hid] at hlater
        rw [hlater hd, hnext]
        omega
    · rw [List.filter_cons_of_neg (by simpa using hsame)] at hd
      have hseat : u.seat ≠ session.user.seat := by
        rw [hresumes.seat_eq]
        intro heq
        have hfound := Population.getElem?_seat hu
        rw [heq, Population.getElem?_seat huser] at hfound
        cases hfound
        exact hsame rfl
      exact hrest.counted u ((hmem u).2 (.inr ⟨hu, hseat⟩)) k d hd
  case rising =>
    refine List.pairwise_cons.2 ⟨fun d hd heq => ?_, hrest.rising⟩
    obtain ⟨u, hu, hsame, hle⟩ := hrest.known d hd
    rcases (hmem u).1 hu with rfl | ⟨hu, hseat⟩
    · show user.sessions < d.user.sessions
      omega
    · exact absurd (hsame.trans heq.symm) (hother u hu hseat)
  case told => exact List.forall_mem_cons.2 ⟨htold, hrest.told⟩

end Numbered

/-- The sessions of calls that come to their ends are numbered, in whatever order the users call. -/
theorem callsOf_numbered {bookings : List Booking} {p : Population} (hp : p.Distinct)
    (hcomplete : ∀ c ∈ callsOf bookings p, c.session.stop = none) :
    Numbered p (callsOf bookings p) := by
  induction bookings generalizing p with
  | nil => exact .nil p
  | cons b rest ih =>
    cases huser : p.users[b.seat]? with
    | none =>
      rw [callsOf_cons_of_none huser] at hcomplete ⊢
      exact ih hp hcomplete
    | some user =>
      rw [callsOf_cons_of_some huser] at hcomplete ⊢
      obtain ⟨hfirst, hrest⟩ := List.forall_mem_cons.1 hcomplete
      obtain ⟨hnonempty, hshared, hnext⟩ := session_shared hfirst
      have hresumes := b.shop.session_resumes user b.start b.source
      have hmember := Population.mem_of_getElem? huser
      have hplace := Population.place_mem_of_resumes hresumes hmember
      exact .cons hp hmember hresumes hnext
        ⟨hnonempty, fun e he => ⟨(hshared e he).sessionKey, (hshared e he).number⟩⟩
        (ih (hp.put hplace) hrest)

/-! ## Sessions that are told apart -/

/-- The sessions of some calls are told apart by what their events tell. -/
structure Identified (p : Population) (calls : List Call) : Prop where
  /-- All events of a session tell one user and one session. -/
  one : ∀ c ∈ calls, c.session.events ≠ [] ∧ ∃ session : String, ∀ e ∈ c.session.events,
    e.sessionKey = (some (.str c.user.id.hex), some (.str session))
  /-- No event of another session tells the same. -/
  apart : calls.Pairwise fun c d =>
    ∀ e ∈ c.session.events, ∀ e' ∈ d.session.events, e.sessionKey ≠ e'.sessionKey
  /-- The sessions of a user have the numbers that follow those it had: of a new user, 1, 2, 3. -/
  numbers : ∀ u ∈ p.users.toList, ∀ (k : Nat) (c : Call),
    (calls.filter (·.user.id = u.id))[k]? = some c →
      ∀ e ∈ c.session.events, e.attribute? "session_number" = some (.nat (u.sessions + k + 1))

/-- **Sessions are told apart.** Users with different identities may call for any sessions of any
shops in any order. As long as none of the sessions stops, all events of a session tell its user and
one session, no two sessions tell the same of both, and the sessions of each user are numbered in
the order of the calls. -/
theorem callsOf_identified {p : Population} (hp : p.Distinct) {bookings : List Booking}
    (hcomplete : ∀ c ∈ callsOf bookings p, c.session.stop = none) :
    (callsOf bookings p).map (fun c => (c.user.seat, c.start)) =
        (bookings.filter (·.seat < p.size)).map (fun b => (b.seat, b.start)) ∧
      Identified p (callsOf bookings p) := by
  have hnumbered := callsOf_numbered hp hcomplete
  refine ⟨callsOf_made bookings p, ?_⟩
  constructor
  case one =>
    intro c hc
    obtain ⟨hnonempty, htold⟩ := hnumbered.told c hc
    exact ⟨hnonempty, _, fun e he => (htold e he).1⟩
  case apart =>
    refine hnumbered.rising.imp_of_mem fun {c d} hc hd hrising e he e' he' heq => ?_
    rw [((hnumbered.told c hc).2 e he).1, ((hnumbered.told d hd).2 e' he').1] at heq
    obtain ⟨hid, hnumber⟩ := sessionKey_inj.1 heq
    have hlt := hrising hid
    omega
  case numbers =>
    intro u hu k c hc e he
    have hmem : c ∈ callsOf bookings p := (List.mem_filter.1 (List.mem_of_getElem? hc)).1
    rw [((hnumbered.told c hmem).2 e he).2, hnumbered.counted u hu k c hc]

/-- A session has room: it shows a screen, and the time of its longest stays can be counted. -/
structure Booking.HasRoom (b : Booking) : Prop where
  screens : 0 < b.shop.maxScreens
  stay : b.shop.minDwell ≤ b.shop.maxDwell
  time : b.start.millis + b.shop.maxScreens * b.shop.maxDwell < 0x10000000000000000

/-- Sessions that have room come to their ends, as long as there are numbers for them. -/
theorem callsOf_complete {bookings : List Booking} {p : Population}
    (hroom : ∀ b ∈ bookings, b.HasRoom)
    (hcount : ∀ u ∈ p.users.toList, u.sessions + bookings.length < 0x10000000000000000) :
    ∀ c ∈ callsOf bookings p, c.session.stop = none := by
  induction bookings generalizing p with
  | nil => exact fun c hc => absurd hc List.not_mem_nil
  | cons b rest ih =>
    obtain ⟨hfirst, hrest⟩ := List.forall_mem_cons.1 hroom
    rw [List.length_cons] at hcount
    cases huser : p.users[b.seat]? with
    | none =>
      rw [callsOf_cons_of_none huser]
      exact ih hrest fun u hu => Nat.lt_trans (by omega) (hcount u hu)
    | some user =>
      have hmember := Population.mem_of_getElem? huser
      have hnumber := hcount user hmember
      obtain ⟨_, _, _, hitinerary⟩ := exists_itinerary b.shop user b.start b.source hfirst.screens
        hfirst.stay (by omega) hfirst.time
      have hnext := (session_shared hitinerary.complete).2.2
      have hresumes := b.shop.session_resumes user b.start b.source
      rw [callsOf_cons_of_some huser]
      refine List.forall_mem_cons.2 ⟨hitinerary.complete, ih hrest fun u hu => ?_⟩
      have hplace := Population.place_mem_of_resumes hresumes hmember
      rcases (Population.mem_put hplace).1 hu with rfl | ⟨hu, -⟩
      · omega
      · exact Nat.lt_trans (by omega) (hcount u hu)

/-- Two users who were never in the shop. -/
def Population.guests : Population := .ofUsers [visitor, { visitor with id := .ofNat 2 }]

/-- One of them comes back after the other one has been there. -/
def Booking.inTurns : List Booking :=
  [0, 1, 0].map fun seat => ⟨ofSettings "shop" {}, seat, .zero, .ofSeed 7⟩

theorem callsOf_identified_inTurns :
    Population.guests.Distinct ∧
      (∀ c ∈ callsOf Booking.inTurns .guests, c.session.stop = none) ∧
      (callsOf Booking.inTurns .guests).map (fun c => (c.user.seat, c.start)) =
        [(0, .zero), (1, .zero), (0, .zero)] ∧
      Identified .guests (callsOf Booking.inTurns .guests) := by
  have hdistinct : Population.guests.Distinct := by
    unfold Population.Distinct
    decide
  have hroom : ∀ b ∈ Booking.inTurns, b.HasRoom := by
    intro b hb
    obtain ⟨seat, -, rfl⟩ := List.mem_map.1 hb
    have hstay : (ofSettings "shop" {}).minDwell ≤ (ofSettings "shop" {}).maxDwell := by decide
    have htime : Instant.zero.millis +
        (ofSettings "shop" {}).maxScreens * (ofSettings "shop" {}).maxDwell <
          0x10000000000000000 := by decide
    exact ⟨show 0 < (ofSettings "shop" {}).maxScreens by decide, hstay, htime⟩
  have hcount : ∀ u ∈ Population.guests.users.toList,
      u.sessions + Booking.inTurns.length < 0x10000000000000000 := by decide
  have hcomplete := callsOf_complete hroom hcount
  obtain ⟨hmade, hidentified⟩ := callsOf_identified hdistinct hcomplete
  exact ⟨hdistinct, hcomplete, hmade, hidentified⟩

end ShopTraffic
