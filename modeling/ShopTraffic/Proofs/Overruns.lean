import Mathlib
import ShopTraffic.Proofs.Itineraries

/-!
# Sessions that run past the last instant

The time of a user is counted in 64 bits and starts again at the end of its range, where every other
sum of times stays at the last instant. The settings bound neither the stays nor the screens, so
the stays of a session may take its user there. Then the session goes back in time, or it ends
before it began and crashes.

* `User.advance_agrees_iff` — the time that is returned is the time that is kept exactly where
  nothing leaves the range;
* `countedTimes`, `countedTimes_ordered_iff` — the times of a count that starts again, and when they
  are in order;
* `Strolled`, `walk_strolled` — every walk, whatever its stays; `session_around`,
  `times_of_sound` — the session around it, and its times if it is sound;
* `Sound`, `Reckoned`, `session_reckoned` — every session: its times, whether it crashes, and when
  it is sound; `session_overruns` — checked settings and an ordinary start with which it is not.
-/

set_option autoImplicit false

namespace ShopTraffic

open Chance Shop

/-- The time that is returned is the time that is kept exactly where nothing leaves the range. -/
theorem User.advance_agrees_iff (u : User) {n : Nat} (hn : n < 0x10000000000000000) :
    (u.advance n).1 = (u.advance n).2.time ↔ u.time.millis + n < 0x10000000000000000 := by
  have htime := u.time.millis_lt
  have hreturned : (u.advance n).1.millis = min (u.time.millis + n) 0xFFFFFFFFFFFFFFFF := rfl
  have hkept : (u.advance n).2.time.millis = (u.time.millis + n) % 0x10000000000000000 := rfl
  constructor
  · intro h
    rw [h, hkept] at hreturned
    omega
  · intro h
    refine Instant.ext_millis ?_
    rw [hreturned, hkept]
    omega

namespace Shop

/-! ## A count that starts again -/

/-- The times that a count of 64 bits shows, from `t` on, when it moves on by one stay after the
other. -/
def countedTimes (t : Nat) : List Nat → List Nat
  | [] => [t]
  | stay :: stays => t :: countedTimes ((t + stay) % 0x10000000000000000) stays

theorem countedTimes_eq_cons (t : Nat) (stays : List Nat) :
    ∃ later, countedTimes t stays = t :: later := by
  cases stays with
  | nil => exact ⟨[], rfl⟩
  | cons stay stays => exact ⟨_, rfl⟩

/-- **The times are in order exactly where all stays can be counted.** -/
theorem countedTimes_ordered_iff {t : Nat} {stays : List Nat} (ht : t < 0x10000000000000000)
    (hstays : ∀ stay ∈ stays, stay < 0x10000000000000000) :
    (countedTimes t stays).Pairwise (· ≤ ·) ↔ t + stays.sum < 0x10000000000000000 := by
  induction stays generalizing t with
  | nil => simpa [countedTimes] using ht
  | cons stay stays ih =>
    obtain ⟨hstay, hstays⟩ := List.forall_mem_cons.1 hstays
    have hnext : (t + stay) % 0x10000000000000000 < 0x10000000000000000 :=
      Nat.mod_lt _ (by decide)
    obtain ⟨later, hlater⟩ := countedTimes_eq_cons ((t + stay) % 0x10000000000000000) stays
    rw [countedTimes, List.pairwise_cons, ih hnext hstays, List.sum_cons]
    constructor
    · rintro ⟨hfirst, hsum⟩
      -- The second time is not before the first one, so the count did not start again.
      have hle : t ≤ (t + stay) % 0x10000000000000000 :=
        hfirst _ (hlater ▸ List.mem_cons_self)
      omega
    · intro hsum
      have hsame : (t + stay) % 0x10000000000000000 = t + stay := Nat.mod_eq_of_lt (by omega)
      refine ⟨fun time htime => ?_, by omega⟩
      have hordered := (ih hnext hstays).2 (by omega)
      rw [hlater] at hordered htime
      rcases List.mem_cons.1 htime with rfl | htime
      · omega
      · have := (List.pairwise_cons.1 hordered).1 time htime
        omega

/-! ## Walks -/

/-- The event shows a screen. -/
def isView (e : Event) : Bool := e.type == "_screen_view"

/-- What is done on a page shows no screen. -/
theorem filter_isView_of_deeds {page : Page} {acted : List Event}
    (h : acted.map (·.type) ∈ page.deeds) : acted.filter isView = [] := by
  have hnone : ∀ types ∈ page.deeds, "_screen_view" ∉ types := by
    cases page <;> decide
  refine List.filter_eq_nil_iff.2 fun e he hview => hnone _ h ?_
  exact List.mem_map.2 ⟨e, he, by simpa [isView] using hview⟩

/-- A walk of at most `limit` screens from a page with the stays that it draws, whether they can be
counted or not. -/
structure Strolled (shop : Shop) (limit : Nat) (page : Page) (user : User)
    (out : List Event × User × Source) (stays : List Nat) : Prop where
  drawn : ∀ stay ∈ stays, shop.minDwell ≤ stay ∧ stay ≤ shop.maxDwell
  count : stays.length ≤ limit
  /-- There is a stay unless there is no page to show. -/
  nonempty : 0 < limit → page ≠ .exit → stays ≠ []
  /-- Every screen is shown at a time of the user, and the walk leaves the last one. -/
  times : (out.1.filter isView).map (·.time.millis) ++ [out.2.1.time.millis] =
    countedTimes user.time.millis stays

section Walk

variable {shop : Shop} {ctx : Context} {limit : Nat} {page : Page} {previous : Option String}
  {user : User} {source : Source} {stays : List Nat}

/-- A walk that is over. -/
theorem Strolled.stop (h : limit = 0 ∨ page = .exit) :
    Strolled shop limit page user ([], user, source) [] := by
  constructor
  · simp
  · exact Nat.zero_le _
  · intro hpos hpage
    rcases h with rfl | rfl
    · exact absurd hpos (Nat.lt_irrefl 0)
    · exact absurd rfl hpage
  · rfl

/-- One screen more. -/
theorem Strolled.visit {next : Page} {acted : List Event} {stay : Nat}
    {out : List Event × User × Source}
    (hstay : shop.minDwell ≤ stay ∧ stay ≤ shop.maxDwell) (hdeeds : acted.map (·.type) ∈ page.deeds)
    (hrest : Strolled shop limit next (user.advance stay).2 out stays) :
    Strolled shop (limit + 1) page user
      (ctx.view page previous user.time :: (acted ++ out.1), out.2) (stay :: stays) := by
  constructor
  · exact List.forall_mem_cons.2 ⟨hstay, hrest.drawn⟩
  · exact Nat.succ_le_succ hrest.count
  · exact fun _ _ => List.cons_ne_nil _ _
  · have hview : isView (ctx.view page previous user.time) = true := by simp [isView]
    have hkept : (user.advance stay).2.time.millis =
        (user.time.millis + stay) % 0x10000000000000000 := rfl
    rw [countedTimes, ← hkept, ← hrest.times, List.filter_cons_of_pos hview, List.filter_append,
      filter_isView_of_deeds hdeeds, List.nil_append, List.map_cons, Context.time_view,
      List.cons_append]

/-- **Every walk**, whatever its stays; where they can all be counted it is a row of visits. -/
theorem walk_strolled (shop : Shop) (ctx : Context) (limit : Nat) (page : Page)
    (previous : Option String) (user : User) (source : Source) (hstay : shop.minDwell ≤ shop.maxDwell)
    (hwide : shop.maxDwell < 0x10000000000000000) :
    ∃ stays, Strolled shop limit page user (shop.walk ctx limit page previous user source) stays ∧
      (user.time.millis + stays.sum < 0x10000000000000000 →
        ∃ visits, Walked shop ctx limit page previous user source
          (shop.walk ctx limit page previous user source) visits) := by
  induction limit generalizing page previous user source with
  | zero => exact ⟨[], .stop (.inl rfl), fun _ => ⟨[], .stop (.inl rfl)⟩⟩
  | succ limit ih =>
    by_cases hpage : page = .exit
    · rw [walk, if_pos hpage]
      exact ⟨[], .stop (.inr hpage), fun _ => ⟨[], .stop (.inr hpage)⟩⟩
    · obtain ⟨stay, acted, s, hbounds, hdeeds, hacted, hdrawn, hwalk⟩ := shop.exists_step ctx limit
        previous user source hpage hstay hwide
      obtain ⟨stays, hstrolled, hwalked⟩ := ih (page.next s).1
        (some (page.screen ctx.platform).1) (user.advance stay).2 (page.next s).2
      rw [hwalk]
      refine ⟨stay :: stays, hstrolled.visit hbounds hdeeds, fun hroom => ?_⟩
      rw [List.sum_cons] at hroom
      have hlater : (user.advance stay).2.time.millis = user.time.millis + stay :=
        Nat.mod_eq_of_lt (by omega)
      obtain ⟨visits, hvisits⟩ := hwalked (by omega)
      exact ⟨_, Walked.visit hpage hbounds (by omega) hdeeds
        (fun e he => early_of_offset (hacted e he).2) (fun e he => (hacted e he).1) hdrawn hvisits⟩

end Walk

/-! ## Sessions -/

/-- Nothing of a session goes back in time or crashes. -/
structure Sound (start : Instant) (session : Session) : Prop where
  complete : session.stop = none
  ordered : TimeOrdered session.events
  after : ∀ e ∈ session.events, start ≤ e.time

/-- **How a session reckons with time**, given the stays that it draws. -/
structure Reckoned (shop : Shop) (start : Instant) (session : Session) (stays : List Nat) :
    Prop where
  drawn : ∀ stay ∈ stays, shop.minDwell ≤ stay ∧ stay ≤ shop.maxDwell
  count : 1 ≤ stays.length ∧ stays.length ≤ shop.maxScreens
  /-- The screens are shown at the times of a count that starts again, and the user keeps the last
  one. -/
  times : (session.events.filter isView).map (·.time.millis) ++ [session.user.time.millis] =
    countedTimes start.millis stays
  /-- A session crashes exactly where it would end before it began. -/
  stop : session.stop = if session.user.time < start then some (.crash .subOverflow) else none
  /-- All is well exactly where all stays can be counted. -/
  sound_iff : Sound start session ↔ start.millis + stays.sum < 0x10000000000000000

/-- What opens a session shows no screen. -/
theorem filter_isView_opening (ctx : Context) (start : Instant) :
    (ctx.opening start).filter isView = [] := by
  unfold Context.opening
  split <;> simp [isView]

/-- The first event of an itinerary is at its start. -/
theorem Itinerary.after {shop : Shop} {user : User} {start : Instant} {source : Source}
    {session : Session} {opening : List Event} {visits : List Visit} {closing : Event}
    (h : Itinerary shop user start source session opening visits closing) :
    ∀ e ∈ session.events, start ≤ e.time := by
  have hopened := h.opened
  have hordered := h.ordered
  rw [h.events] at hordered ⊢
  cases opening with
  | nil => cases hopened
  | cons first rest =>
    rw [List.map_cons, List.cons.injEq, Prod.mk.injEq] at hopened
    obtain ⟨⟨-, rfl⟩, -⟩ := hopened
    intro e he
    rw [List.cons_append, List.cons_append] at he hordered
    rcases List.mem_cons.1 he with rfl | he
    · exact Nat.le_refl _
    · exact (List.pairwise_cons.1 hordered).1 e he

section Session

variable {shop : Shop} {user ended : User} {start : Instant} {source s : Source}
  {events : List Event}

/-- What a session takes over from the walk in it, and when it crashes. -/
theorem session_around (hnumber : user.sessions + 1 < 0x10000000000000000)
    (hwalk : shop.walk (shop.context user (user.sessions + 1)) shop.maxScreens
      (entryPage (user.sessions + 1)) none
      (({ user with sessions := user.sessions + 1 } : User).moveTo start) source =
        (events, ended, s)) :
    (shop.session user start source).user = ended ∧
      (shop.session user start source).events.filter isView = events.filter isView ∧
      (shop.session user start source).stop =
        if ended.time < start then some (.crash .subOverflow) else none := by
  have hopening := filter_isView_opening (shop.context user (user.sessions + 1)) start
  have hclosing : isView ((shop.context user (user.sessions + 1)).closing start ended.time) = false :=
    rfl
  rw [session_of_walk hnumber hwalk]
  by_cases hended : start ≤ ended.time
  · have hlate : ¬ ended.time < start := Nat.not_lt.2 hended
    rw [if_pos hended, if_neg hlate]
    simp [List.filter_append, hopening, hclosing]
  · have hlate : ended.time < start := Nat.lt_of_not_le hended
    rw [if_neg hended, if_pos hlate]
    simp [List.filter_append, hopening]

/-- A sound session is closed at the time that its user keeps, so the times of the user are in
order. -/
theorem times_of_sound (hnumber : user.sessions + 1 < 0x10000000000000000)
    (hwalk : shop.walk (shop.context user (user.sessions + 1)) shop.maxScreens
      (entryPage (user.sessions + 1)) none
      (({ user with sessions := user.sessions + 1 } : User).moveTo start) source =
        (events, ended, s))
    (h : Sound start (shop.session user start source)) :
    ((events.filter isView).map (·.time.millis) ++ [ended.time.millis]).Pairwise (· ≤ ·) := by
  obtain ⟨-, -, hstop⟩ := session_around hnumber hwalk
  have hended : start ≤ ended.time := by
    by_contra hearly
    have hlate : ended.time < start := Nat.lt_of_not_le hearly
    have hcomplete := h.complete
    rw [hstop, if_pos hlate] at hcomplete
    cases hcomplete
  have hordered := h.ordered
  rw [session_of_walk hnumber hwalk, if_pos hended] at hordered
  have hsublist : (events.filter isView ++
      [(shop.context user (user.sessions + 1)).closing start ended.time]).Sublist
        ((shop.context user (user.sessions + 1)).opening start ++ events ++
          [(shop.context user (user.sessions + 1)).closing start ended.time]) :=
    (List.filter_sublist.trans (List.sublist_append_right _ _)).append_right _
  have htimes : ((events.filter isView ++
      [(shop.context user (user.sessions + 1)).closing start ended.time]).map
        (·.time.millis)).Pairwise (· ≤ ·) := List.pairwise_map.2 (hordered.sublist hsublist)
  rw [List.map_append] at htimes
  exact htimes

end Session

/-- Every session of a user whose sessions can be counted; where all its stays can be counted it has
an itinerary. -/
theorem exists_reckoned_itinerary (shop : Shop) (user : User) (start : Instant) (source : Source)
    (hscreens : 0 < shop.maxScreens) (hstay : shop.minDwell ≤ shop.maxDwell)
    (hwide : shop.maxDwell < 0x10000000000000000)
    (hnumber : user.sessions + 1 < 0x10000000000000000) :
    ∃ stays, Reckoned shop start (shop.session user start source) stays ∧
      (start.millis + stays.sum < 0x10000000000000000 → ∃ opening visits closing,
        Itinerary shop user start source (shop.session user start source) opening visits closing) := by
  obtain ⟨stays, hstrolled, hwalked⟩ := shop.walk_strolled
    (shop.context user (user.sessions + 1)) shop.maxScreens (entryPage (user.sessions + 1)) none
    (({ user with sessions := user.sessions + 1 } : User).moveTo start) source hstay hwide
  have hitinerary : start.millis + stays.sum < 0x10000000000000000 → ∃ opening visits closing,
      Itinerary shop user start source (shop.session user start source) opening visits closing := by
    intro hroom
    obtain ⟨visits, hvisits⟩ := hwalked hroom
    obtain ⟨opening, closing, hitinerary⟩ := hvisits.itinerary hscreens hnumber
    exact ⟨opening, visits, closing, hitinerary⟩
  generalize hwalk : shop.walk _ _ _ _ _ _ = out at hstrolled
  obtain ⟨events, ended, s⟩ := out
  obtain ⟨huser, hviews, hstop⟩ := session_around hnumber hwalk
  have hentry : entryPage (user.sessions + 1) ≠ .exit := by
    unfold entryPage
    split <;> simp
  have htimes : (events.filter isView).map (·.time.millis) ++ [ended.time.millis] =
      countedTimes start.millis stays := hstrolled.times
  refine ⟨stays, ?_, hitinerary⟩
  constructor
  case drawn => exact hstrolled.drawn
  case count => exact ⟨List.length_pos_iff.2 (hstrolled.nonempty hscreens hentry), hstrolled.count⟩
  case times => rw [hviews, huser, htimes]
  case stop => rw [hstop, huser]
  case sound_iff =>
    constructor
    · intro h
      have hcounted := times_of_sound hnumber hwalk h
      rw [htimes] at hcounted
      refine (countedTimes_ordered_iff start.millis_lt fun stay hmem => ?_).1 hcounted
      exact Nat.lt_of_le_of_lt (hstrolled.drawn stay hmem).2 hwide
    · intro hroom
      obtain ⟨_, _, _, hitinerary⟩ := hitinerary hroom
      exact ⟨hitinerary.complete, hitinerary.ordered, hitinerary.after⟩

theorem exists_reckoned (shop : Shop) (user : User) (start : Instant) (source : Source)
    (hscreens : 0 < shop.maxScreens) (hstay : shop.minDwell ≤ shop.maxDwell)
    (hwide : shop.maxDwell < 0x10000000000000000)
    (hnumber : user.sessions + 1 < 0x10000000000000000) :
    ∃ stays, Reckoned shop start (shop.session user start source) stays := by
  obtain ⟨stays, hreckoned, -⟩ :=
    shop.exists_reckoned_itinerary user start source hscreens hstay hwide hnumber
  exact ⟨stays, hreckoned⟩

/-- **Every session reckons with time as its user does.** The time that a user is told is the time
that is kept exactly where it can be counted. With settings that pass their check, a session draws
its stays, shows its screens at the times of a count that starts again, and is sound exactly where
all stays can be counted. Only where the number of the session cannot be counted is there none. -/
theorem session_reckoned (appId : String) (c : WorkloadSettings) (user : User) (start : Instant)
    (source : Source) (hcheck : c.check = .ok ()) (hwide : c.maxDwell < 0x10000000000000000) :
    (∀ (u : User) (n : Nat), n < 0x10000000000000000 →
        ((u.advance n).1 = (u.advance n).2.time ↔ u.time.millis + n < 0x10000000000000000)) ∧
      if user.sessions + 1 < 0x10000000000000000 then
        ∃ stays, Reckoned ⟨appId, c.maxScreens, c.minDwell, c.maxDwell⟩ start
          ((ofSettings appId c).session user start source) stays
      else
        ((ofSettings appId c).session user start source).events = [] ∧
          ((ofSettings appId c).session user start source).stop = some (.crash .addOverflow) := by
  have husable := WorkloadSettings.usable_of_check hcheck
  refine ⟨fun u n hn => u.advance_agrees_iff hn, ?_⟩
  rw [ofSettings_of_check appId hcheck]
  split
  · rename_i hnumber
    exact exists_reckoned _ user start source husable.screens husable.stay hwide hnumber
  · rename_i hnumber
    rw [session_uncounted _ start source hnumber]
    exact ⟨rfl, rfl⟩

theorem session_reckoned_visitor :
    ({} : WorkloadSettings).check = .ok () ∧
      ({} : WorkloadSettings).maxDwell < 0x10000000000000000 ∧
      ∃ stays, Reckoned ⟨"shop", 50, 1000, 30000⟩ .zero
        ((ofSettings "shop" {}).session visitor .zero (.ofSeed 7)) stays := by
  have hcheck : ({} : WorkloadSettings).check = .ok () := by decide
  have hwide : ({} : WorkloadSettings).maxDwell < 0x10000000000000000 := by decide
  have hreckoned := (session_reckoned "shop" {} visitor .zero (.ofSeed 7) hcheck hwide).2
  rw [if_pos (by decide)] at hreckoned
  exact ⟨hcheck, hwide, hreckoned⟩

/-- Two screens with the longest stays that there are. -/
def longestStays : WorkloadSettings :=
  { maxScreens := 2, minDwell := 0xFFFFFFFFFFFFFFFF, maxDwell := 0xFFFFFFFFFFFFFFFF }

/-- The first session of a visitor in 2023 with such stays. -/
def overrun : Session :=
  (ofSettings "shop" longestStays).session visitor { millis := 1700000000000 }
    ⟨List.replicate 8 0, .ofSeed 0⟩

/-- The settings pass their check, and yet the user is told another time than is kept, the second
screen is shown before the first one and before the start, and the session crashes. -/
theorem session_overruns :
    longestStays.check = .ok () ∧
      ((visitor.moveTo { millis := 1700000000000 }).advance longestStays.minDwell).1 = .last ∧
      ((visitor.moveTo { millis := 1700000000000 }).advance longestStays.minDwell).2.time.millis =
        1699999999999 ∧
      (overrun.events.filter isView).map (·.time.millis) = [1700000000000, 1699999999999] ∧
      overrun.stop = some (.crash .subOverflow) := by
  refine ⟨by decide, by decide, by decide, ?_⟩
  decide +kernel

end Shop

end ShopTraffic
