import Mathlib
import ShopTraffic.Proofs.Acceptance
import ShopTraffic.Shop.Session
import ShopTraffic.Stream.Build

/-!
# The shape of a shopping session

A session opens, shows one screen after the other and closes. Each screen is a visit: the view of a
page, the action on it if there is one, and the stay. A page is visited only from a page that links
to it, when the stay there is over, and names the screen it was reached from. All draws of a session
are made one after the other, and each visit keeps the source of chance that it begins with and the
one it leaves. The visits end at the largest number of screens or when the draw after the last one is
the exit.

* `Visit` — one screen; `Visit.Shown`, `Visit.Drawn`, `Visit.LeadsTo` — what a visit is like, how it
  is drawn and what follows it;
* `Event.Shared` — what all events of a session tell;
* `exists_step` — what one step of a walk does, whatever is drawn;
* `Walked` — the visits of a walk; `Walked.stop`, `Walked.visit`, `walk_walked` — the walk that is
  over, one visit more, and every walk;
* `session_of_walk`, `session_uncounted` — a session around its walk, and the one that has none;
* `Itinerary`, `Walked.itinerary`, `session_itinerary` — a whole session.
-/

set_option autoImplicit false

namespace ShopTraffic

open Chance Shop

@[simp] theorem Event.type_set (e : Event) (key : String) (value : Json) :
    (e.set key value).type = e.type := rfl

namespace Shop

/-! ## Visits -/

/-- A screen that is shown to a user. -/
structure Visit where
  page : Page
  view : Event
  actions : List Event
  /-- How long the user stays, in milliseconds. -/
  stay : Nat
  /-- The source of chance as the page is shown. -/
  arrival : Source
  /-- The source from which the next page is drawn. -/
  departure : Source

/-- What a visit adds to a session. -/
def Visit.events (v : Visit) : List Event := v.view :: v.actions

/-- What can be done on a page: the types of the actions of one visit. -/
def Page.deeds : Page → List (List String)
  | .login => [["login"]]
  | .search => [["search"]]
  | .detail => [[], ["add_to_cart"]]
  | .result => [["purchase"]]
  | _ => [[]]

/-- A visit shows a page of the app and lasts as long as the settings say; its action, if there is
one, is one of the page and happens in the first half of the stay. -/
structure Visit.Shown (shop : Shop) (platform : Platform) (v : Visit) : Prop where
  inside : v.page ≠ .exit
  type : v.view.type = "_screen_view"
  page : v.view.attribute? "page" = some (.str v.page.name)
  screen : v.view.attribute? "screen_name" = some (.str (v.page.screen platform).1)
  stay : shop.minDwell ≤ v.stay ∧ v.stay ≤ shop.maxDwell
  actions : v.actions.map (·.type) ∈ v.page.deeds
  early : ∀ e ∈ v.actions, v.view.time ≤ e.time ∧ e.time.millis ≤ v.view.time.millis + v.stay / 2

/-- A visit draws its stay, then the moment of an action in the first half of it, then the action. -/
def Visit.Drawn (shop : Shop) (ctx : Context) (v : Visit) : Prop :=
  let stay := v.arrival.between .wide shop.minDwell shop.maxDwell
  let offset := stay.2.between .wide 0 (stay.1 / 2)
  v.stay = stay.1 ∧
    ctx.action v.page (v.view.time.plus offset.1) offset.2 = (v.actions, v.departure)

/-- A visit follows another one on a link, by a draw when the stay is over, and names the screen
before it. -/
structure Visit.LeadsTo (v w : Visit) : Prop where
  link : ∃ weight, 0 < weight ∧ (w.page, weight) ∈ v.page.links
  turn : v.page.next v.departure = (w.page, w.arrival)
  time : w.view.time.millis = v.view.time.millis + v.stay
  previous : w.view.attribute? "previous_screen_name" = v.view.attribute? "screen_name"

/-- On every page at most one thing is done. -/
theorem Page.length_le_one_of_mem_deeds {page : Page} {types : List String}
    (h : types ∈ page.deeds) : types.length ≤ 1 := by
  cases page <;> simp only [Page.deeds, List.mem_cons, List.not_mem_nil, or_false] at h
  case detail => rcases h with rfl | rfl <;> simp
  all_goals simp [h]

/-- What is done on one page is in order of time. -/
theorem timeOrdered_of_deeds {page : Page} {acted : List Event}
    (h : acted.map (·.type) ∈ page.deeds) : TimeOrdered acted := by
  have hlength := Page.length_le_one_of_mem_deeds h
  match acted, hlength with
  | [], _ => exact .nil
  | [_], _ => exact List.pairwise_singleton _ _

namespace Visit.Shown

variable {shop : Shop} {platform : Platform} {v : Visit}

/-- All of a visit happens during the stay. -/
theorem within (h : v.Shown shop platform) :
    ∀ e ∈ v.events, v.view.time ≤ e.time ∧ e.time.millis ≤ v.view.time.millis + v.stay := by
  intro e he
  rcases List.mem_cons.1 he with rfl | he
  · exact ⟨Nat.le_refl _, Nat.le_add_right _ _⟩
  · obtain ⟨hfrom, hto⟩ := h.early e he
    refine ⟨hfrom, Nat.le_trans hto ?_⟩
    exact Nat.add_le_add_left (Nat.div_le_self _ _) _

theorem ordered (h : v.Shown shop platform) : TimeOrdered v.events :=
  List.pairwise_cons.2 ⟨fun e he => (h.early e he).1, timeOrdered_of_deeds h.actions⟩

end Visit.Shown

/-! ## What events tell -/

/-- The attributes that all events of a session have. -/
def sharedKeys : List String :=
  ["app_id", "unique_id", "platform", "device", "session_id", "session_number"]

/-- An event tells the app, the user with platform and device, and the session. -/
structure Context.Shared (ctx : Context) (e : Event) : Prop where
  app : e.attribute? "app_id" = some (.str ctx.appId)
  user : e.attribute? "unique_id" = some (.str ctx.user.hex)
  platform : e.attribute? "platform" = some (.str ctx.platform.name)
  device : e.attribute? "device" = some ctx.device
  session : e.attribute? "session_id" = some (.str ctx.sessionId)
  number : e.attribute? "session_number" = some (.nat ctx.number)

namespace Context

variable (ctx : Context)

theorem event_shared (type : String) (time : Instant) : ctx.Shared (ctx.event type time) := by
  constructor <;> simp [event, Event.attribute?_set_of_ne]

variable {ctx}

/-- An attribute of another name leaves the shared ones alone. -/
theorem Shared.set {e : Event} {key : String} (h : ctx.Shared e) (value : Json)
    (hkey : key ∉ sharedKeys) : ctx.Shared (e.set key value) := by
  have hne : ∀ other ∈ sharedKeys, other ≠ key := fun other hother heq => hkey (heq ▸ hother)
  constructor
  · exact (e.attribute?_set_of_ne value (hne _ (by simp [sharedKeys]))).trans h.app
  · exact (e.attribute?_set_of_ne value (hne _ (by simp [sharedKeys]))).trans h.user
  · exact (e.attribute?_set_of_ne value (hne _ (by simp [sharedKeys]))).trans h.platform
  · exact (e.attribute?_set_of_ne value (hne _ (by simp [sharedKeys]))).trans h.device
  · exact (e.attribute?_set_of_ne value (hne _ (by simp [sharedKeys]))).trans h.session
  · exact (e.attribute?_set_of_ne value (hne _ (by simp [sharedKeys]))).trans h.number

variable (ctx)

@[simp] theorem type_event (type : String) (time : Instant) : (ctx.event type time).type = type := rfl

@[simp] theorem time_event (type : String) (time : Instant) : (ctx.event type time).time = time := rfl

theorem view_shared (page : Page) (previous : Option String) (time : Instant) :
    ctx.Shared (ctx.view page previous time) := by
  have hview := (((ctx.event_shared "_screen_view" time).set (.str page.name)
    (show "page" ∉ sharedKeys by decide)).set (.str (page.screen ctx.platform).1)
    (show "screen_name" ∉ sharedKeys by decide)).set (.str (page.screen ctx.platform).2)
    (show "screen_id" ∉ sharedKeys by decide)
  cases previous with
  | none => exact hview
  | some before => exact hview.set (.str before) (show "previous_screen_name" ∉ sharedKeys by decide)

@[simp] theorem type_view (page : Page) (previous : Option String) (time : Instant) :
    (ctx.view page previous time).type = "_screen_view" := by
  cases previous <;> rfl

@[simp] theorem time_view (page : Page) (previous : Option String) (time : Instant) :
    (ctx.view page previous time).time = time := by
  cases previous <;> rfl

theorem view_page (page : Page) (previous : Option String) (time : Instant) :
    (ctx.view page previous time).attribute? "page" = some (.str page.name) := by
  cases previous <;> simp [view, Event.attribute?_set_of_ne]

theorem view_screen (page : Page) (previous : Option String) (time : Instant) :
    (ctx.view page previous time).attribute? "screen_name" =
      some (.str (page.screen ctx.platform).1) := by
  cases previous <;> simp [view, Event.attribute?_set_of_ne]

theorem view_previous (page : Page) (previous : Option String) (time : Instant) :
    (ctx.view page previous time).attribute? "previous_screen_name" = previous.map .str := by
  cases previous with
  | none =>
    simp only [view, event]
    simp [Event.attribute?_set_of_ne]
    rfl
  | some before => simp [view]

/-- The action on a page is one of those that can be done there, at the given time. -/
theorem action_spec (page : Page) (time : Instant) (s : Source) :
    (ctx.action page time s).1.map (·.type) ∈ page.deeds ∧
      ∀ e ∈ (ctx.action page time s).1, e.time = time ∧ ctx.Shared e := by
  have hshared := ctx.event_shared
  cases page
  case login => simp [action, Page.deeds, hshared]
  case search =>
    have hsearch := fun term => (hshared "search" time).set (.str term)
      (show "search_term" ∉ sharedKeys by decide)
    simp [action, Page.deeds, hsearch]
  case detail =>
    have hadd := fun item => (hshared "add_to_cart" time).set (.str item)
      (show "item_id" ∉ sharedKeys by decide)
    unfold action
    simp only
    split <;> simp [Page.deeds, hadd]
  case result =>
    have hbuy := fun value => ((hshared "purchase" time).set (.str "USD")
      (show "currency" ∉ sharedKeys by decide)).set (.real value)
      (show "value" ∉ sharedKeys by decide)
    simp [action, Page.deeds, hbuy]
  all_goals simp [action, Page.deeds]

end Context

/-! ## The walk -/

/-- A walk of at most `limit` screens from a page, as visits. -/
structure Walked (shop : Shop) (ctx : Context) (limit : Nat) (page : Page)
    (previous : Option String) (user : User) (source : Source)
    (out : List Event × User × Source) (visits : List Visit) : Prop where
  events : out.1 = visits.flatMap Visit.events
  shown : ∀ v ∈ visits, v.Shown shop ctx.platform
  drawn : ∀ v ∈ visits, v.Drawn shop ctx
  /-- The first visit is the one that was to come. -/
  entry : ∀ v ∈ visits.head?, v.page = page ∧ v.view.time = user.time ∧
    v.view.attribute? "previous_screen_name" = previous.map .str ∧ v.arrival = source
  linked : visits.IsChain Visit.LeadsTo
  count : visits.length ≤ limit
  /-- Nothing is visited only at the exit or where no screen is left. -/
  empty : visits = [] → out.2.1.time = user.time ∧ out.2.2 = source ∧ (0 < limit → page = .exit)
  /-- The walk ends with the last stay and one draw more, the exit if the walk could have gone on. -/
  last : ∀ v ∈ visits.getLast?, out.2.1.time.millis = v.view.time.millis + v.stay ∧
    (v.page.next v.departure).2 = out.2.2 ∧
      (visits.length < limit → (v.page.next v.departure).1 = .exit)
  same : out.2.1 = { user with time := out.2.1.time }
  shared : ∀ e ∈ out.1, ctx.Shared e
  ordered : TimeOrdered out.1
  within : user.time ≤ out.2.1.time ∧ ∀ e ∈ out.1, user.time ≤ e.time ∧ e.time ≤ out.2.1.time

section Walk

variable {shop : Shop} {ctx : Context} {limit : Nat} {page : Page} {previous : Option String}
  {user : User} {source : Source} {visits : List Visit}

/-- A walk that is over. -/
theorem Walked.stop (h : limit = 0 ∨ page = .exit) :
    Walked shop ctx limit page previous user source ([], user, source) [] where
  events := rfl
  shown := by simp
  drawn := by simp
  entry := by simp
  linked := .nil
  count := Nat.zero_le _
  empty := by
    rintro -
    exact ⟨rfl, rfl, fun hpos => h.resolve_left (Nat.ne_of_gt hpos)⟩
  last := by simp
  same := rfl
  shared := by simp
  ordered := .nil
  within := ⟨Nat.le_refl _, by simp⟩

/-- The last visit of a walk that goes on after one visit, or that visit. -/
theorem Walked.last_cons {v : Visit} {out : List Event × User × Source}
    (hrest : Walked shop ctx limit (v.page.next v.departure).1 previous user
      (v.page.next v.departure).2 out visits)
    (htime : user.time.millis = v.view.time.millis + v.stay) :
    ∀ w ∈ (v :: visits).getLast?,
      out.2.1.time.millis = w.view.time.millis + w.stay ∧
        (w.page.next w.departure).2 = out.2.2 ∧
          (visits.length + 1 < limit + 1 → (w.page.next w.departure).1 = .exit) := by
  intro w hv
  rw [List.getLast?_cons] at hv
  cases hlast : visits.getLast? with
  | some w =>
    rw [hlast] at hv
    cases hv
    obtain ⟨hthen, hdrawn, hexit⟩ := hrest.last w hlast
    exact ⟨hthen, hdrawn, fun hlt => hexit (Nat.lt_of_succ_lt_succ hlt)⟩
  | none =>
    rw [hlast] at hv
    cases hv
    have hnone : visits = [] := List.getLast?_eq_none_iff.1 hlast
    obtain ⟨hstill, hsource, hexit⟩ := hrest.empty hnone
    refine ⟨(congrArg Instant.millis hstill).trans htime, hsource.symm, fun hlt => ?_⟩
    rw [hnone] at hlt
    exact hexit (Nat.lt_of_succ_lt_succ hlt)

/-- **One visit more.** Where there is room for the stay, the walk goes on from the next page when it
is over. -/
theorem Walked.visit {acted : List Event} {stay : Nat} {s : Source}
    {out : List Event × User × Source} (hpage : page ≠ .exit)
    (hstay : shop.minDwell ≤ stay ∧ stay ≤ shop.maxDwell)
    (hroom : user.time.millis + stay < 0x10000000000000000)
    (hdeeds : acted.map (·.type) ∈ page.deeds)
    (hearly : ∀ e ∈ acted, user.time ≤ e.time ∧ e.time.millis ≤ user.time.millis + stay / 2)
    (hshared : ∀ e ∈ acted, ctx.Shared e)
    (hdrawn : Visit.Drawn shop ctx
      ⟨page, ctx.view page previous user.time, acted, stay, source, s⟩)
    (hrest : Walked shop ctx limit (page.next s).1 (some (page.screen ctx.platform).1)
      (user.advance stay).2 (page.next s).2 out visits) :
    Walked shop ctx (limit + 1) page previous user source
      (ctx.view page previous user.time :: (acted ++ out.1), out.2)
      (⟨page, ctx.view page previous user.time, acted, stay, source, s⟩ :: visits) := by
  have hlater : (user.advance stay).2.time.millis = user.time.millis + stay :=
    Nat.mod_eq_of_lt hroom
  have htime := ctx.time_view page previous user.time
  let v : Visit := ⟨page, ctx.view page previous user.time, acted, stay, source, s⟩
  have hshown : v.Shown shop ctx.platform := by
    constructor
    · exact hpage
    · exact ctx.type_view page previous user.time
    · exact ctx.view_page page previous user.time
    · exact ctx.view_screen page previous user.time
    · exact hstay
    · exact hdeeds
    · rwa [htime]
  -- the visit happens before the end of its stay, and the rest of the walk after it
  have hvisit : ∀ e ∈ v.events,
      user.time ≤ e.time ∧ e.time.millis ≤ user.time.millis + stay := htime ▸ hshown.within
  have hend : user.time.millis + stay ≤ out.2.1.time.millis := hlater ▸ hrest.within.1
  have hafter : ∀ e ∈ out.1,
      user.time.millis + stay ≤ e.time.millis ∧ e.time ≤ out.2.1.time := by
    intro e he
    rw [← hlater]
    exact hrest.within.2 e he
  constructor
  case events =>
    rw [List.flatMap_cons, ← hrest.events]
    rfl
  case shown => exact List.forall_mem_cons.2 ⟨hshown, hrest.shown⟩
  case drawn => exact List.forall_mem_cons.2 ⟨hdrawn, hrest.drawn⟩
  case entry =>
    rintro w hw
    cases hw
    exact ⟨rfl, htime, ctx.view_previous page previous user.time, rfl⟩
  case linked =>
    rw [List.isChain_cons]
    refine ⟨fun w hw => ?_, hrest.linked⟩
    obtain ⟨hnext, hthen, hprevious, hsource⟩ := hrest.entry w hw
    have hinside : w.page ≠ .exit := (hrest.shown w (List.mem_of_mem_head? hw)).inside
    constructor
    · rw [hnext] at hinside ⊢
      exact (page.next_mem s).resolve_left hinside
    · exact Prod.ext hnext.symm hsource.symm
    · rw [hthen, hlater]
      simp only [Context.time_view]
    · rw [hprevious]
      exact (ctx.view_screen page previous user.time).symm
  case count => exact Nat.succ_le_succ hrest.count
  case empty => exact fun h => absurd h (List.cons_ne_nil _ _)
  case last =>
    have htimes : (user.advance stay).2.time.millis = v.view.time.millis + v.stay :=
      hlater.trans (congrArg (·.millis + stay) htime.symm)
    have hlast := Walked.last_cons (v := v) hrest htimes
    exact hlast
  case same => exact hrest.same
  case shared =>
    intro e he
    rcases List.mem_cons.1 he with rfl | he
    · exact ctx.view_shared page previous user.time
    · rcases List.mem_append.1 he with he | he
      · exact hshared e he
      · exact hrest.shared e he
  case ordered =>
    refine List.pairwise_append.2 ⟨hshown.ordered, hrest.ordered, fun e he e' he' => ?_⟩
    exact Nat.le_trans (hvisit e he).2 (hafter e' he').1
  case within =>
    refine ⟨Nat.le_trans (Nat.le_add_right _ _) hend, fun e (he : e ∈ v.events ++ out.1) => ?_⟩
    rcases List.mem_append.1 he with he | he
    · exact ⟨(hvisit e he).1, Nat.le_trans (hvisit e he).2 hend⟩
    · exact ⟨Nat.le_trans (Nat.le_add_right _ _) (hafter e he).1, (hafter e he).2⟩

/-- One step of a walk, its draws one after the other. -/
theorem walk_succ (h : page ≠ .exit) :
    shop.walk ctx (limit + 1) page previous user source =
      let stay := source.between .wide shop.minDwell shop.maxDwell
      let offset := stay.2.between .wide 0 (stay.1 / 2)
      let acted := ctx.action page (user.time.plus offset.1) offset.2
      let following := page.next acted.2
      let rest := shop.walk ctx limit following.1 (some (page.screen ctx.platform).1)
        (user.advance stay.1).2 following.2
      (ctx.view page previous user.time :: (acted.1 ++ rest.1), rest.2) := by
  rw [walk, if_neg h]

/-- **One step of a walk** draws a stay that the settings allow, does what can be done on the page in
the first half of it, and goes on with the next page when it is over. -/
theorem exists_step (shop : Shop) (ctx : Context) (limit : Nat) (previous : Option String)
    (user : User) (source : Source) (h : page ≠ .exit) (hstay : shop.minDwell ≤ shop.maxDwell)
    (hwide : shop.maxDwell < 0x10000000000000000) :
    ∃ stay acted s, (shop.minDwell ≤ stay ∧ stay ≤ shop.maxDwell) ∧
      acted.map (·.type) ∈ page.deeds ∧
      (∀ e ∈ acted, ctx.Shared e ∧ ∃ offset ≤ stay / 2, e.time = user.time.plus offset) ∧
      Visit.Drawn shop ctx ⟨page, ctx.view page previous user.time, acted, stay, source, s⟩ ∧
      shop.walk ctx (limit + 1) page previous user source =
        let rest := shop.walk ctx limit (page.next s).1 (some (page.screen ctx.platform).1)
          (user.advance stay).2 (page.next s).2
        (ctx.view page previous user.time :: (acted ++ rest.1), rest.2) := by
  have hdrawn := source.between_mem (w := .wide) hstay hwide
  rw [walk_succ h]
  generalize hfirst : source.between .wide shop.minDwell shop.maxDwell = drawn at hdrawn ⊢
  obtain ⟨stay, s⟩ := drawn
  have hoffset := s.between_mem (w := .wide) (Nat.zero_le (stay / 2))
    (Nat.lt_of_le_of_lt (Nat.le_trans (Nat.div_le_self _ _) hdrawn.2) hwide)
  simp only at hoffset ⊢
  generalize hsecond : s.between .wide 0 (stay / 2) = drawn' at hoffset ⊢
  obtain ⟨offset, s'⟩ := drawn'
  obtain ⟨hdeeds, hacted⟩ := ctx.action_spec page (user.time.plus offset) s'
  simp only at hoffset ⊢
  generalize hthird : ctx.action page (user.time.plus offset) s' = acted at hdeeds hacted ⊢
  obtain ⟨acted, s''⟩ := acted
  refine ⟨stay, acted, s'', hdrawn, hdeeds, fun e he => ?_, ?_, rfl⟩
  · obtain ⟨htime, hshared⟩ := hacted e he
    exact ⟨hshared, offset, hoffset.2, htime⟩
  · unfold Visit.Drawn
    simp only [hfirst, hsecond, hthird, Context.time_view, and_self]

/-- What happens in the first half of a stay happens no later, since times only saturate. -/
theorem early_of_offset {stay : Nat} {e : Event}
    (h : ∃ offset ≤ stay / 2, e.time = user.time.plus offset) :
    user.time ≤ e.time ∧ e.time.millis ≤ user.time.millis + stay / 2 := by
  obtain ⟨offset, hoffset, htime⟩ := h
  rw [htime]
  refine ⟨Instant.le_plus user.time offset, ?_⟩
  rw [Instant.millis_plus]
  omega

/-- **Every walk is a row of visits**, where the time of its longest stays can be counted. -/
theorem walk_walked (shop : Shop) (ctx : Context) (limit : Nat) (page : Page)
    (previous : Option String) (user : User) (source : Source) (hstay : shop.minDwell ≤ shop.maxDwell)
    (hroom : user.time.millis + limit * shop.maxDwell < 0x10000000000000000) :
    ∃ visits, Walked shop ctx limit page previous user source
      (shop.walk ctx limit page previous user source) visits := by
  induction limit generalizing page previous user source with
  | zero => exact ⟨[], .stop (.inl rfl)⟩
  | succ limit ih =>
    by_cases hpage : page = .exit
    · refine ⟨[], ?_⟩
      rw [walk, if_pos hpage]
      exact .stop (.inr hpage)
    · rw [Nat.succ_mul] at hroom
      obtain ⟨stay, acted, s, hbounds, hdeeds, hacted, hdrawn, hwalk⟩ := shop.exists_step ctx limit
        previous user source hpage hstay (by omega)
      have hlater : (user.advance stay).2.time.millis = user.time.millis + stay :=
        Nat.mod_eq_of_lt (by omega)
      obtain ⟨visits, hvisits⟩ := ih (page.next s).1 (some (page.screen ctx.platform).1)
        (user.advance stay).2 (page.next s).2 (by omega)
      rw [hwalk]
      exact ⟨_, Walked.visit hpage hbounds (by omega) hdeeds
        (fun e he => early_of_offset (hacted e he).2) (fun e he => (hacted e he).1) hdrawn hvisits⟩

end Walk

/-! ## Sessions -/

/-- **The shape of a session.** It opens with `_session_start` and, on the first session of the user,
`_app_start`; then visits follow each other from the entry page on, each drawn from the source that
the one before leaves, until there are as many as there may be or the exit is drawn; and it closes
with `_app_end` when the last stay is over. -/
structure Itinerary (shop : Shop) (user : User) (start : Instant) (source : Source)
    (session : Session) (opening : List Event) (visits : List Visit) (closing : Event) : Prop where
  complete : session.stop = none
  events : session.events = opening ++ visits.flatMap Visit.events ++ [closing]
  opened : opening.map (fun e => (e.type, e.time)) =
    ("_session_start", start) :: if user.sessions = 0 then [("_app_start", start)] else []
  count : 1 ≤ visits.length ∧ visits.length ≤ shop.maxScreens
  entry : ∀ v ∈ visits.head?, v.page = (if user.sessions = 0 then .login else .main) ∧
    v.view.time = start ∧ v.view.attribute? "previous_screen_name" = none ∧ v.arrival = source
  shown : ∀ v ∈ visits, v.Shown shop user.platform
  drawn : ∀ v ∈ visits, v.Drawn shop (shop.context user (user.sessions + 1))
  linked : visits.IsChain Visit.LeadsTo
  /-- The draw after the last visit is the last one, and it is the exit if there could be a visit
  more. -/
  exit : ∀ v ∈ visits.getLast?, (v.page.next v.departure).2 = session.source ∧
    (visits.length < shop.maxScreens → (v.page.next v.departure).1 = .exit)
  closed : closing.type = "_app_end" ∧
    (∀ v ∈ visits.getLast?, closing.time.millis = v.view.time.millis + v.stay) ∧
    closing.attribute? "engagement_time_msec" = some (.nat (closing.time.millis - start.millis))
  ordered : TimeOrdered session.events
  shared : ∀ e ∈ session.events, (shop.context user (user.sessions + 1)).Shared e
  left : session.user = { user with time := closing.time, sessions := user.sessions + 1 }

theorem opening_spec (ctx : Context) (start : Instant) :
    (ctx.opening start).map (fun e => (e.type, e.time)) =
        ("_session_start", start) :: (if ctx.number = 1 then [("_app_start", start)] else []) ∧
      ∀ e ∈ ctx.opening start, e.time = start ∧ ctx.Shared e := by
  unfold Context.opening
  have hshared := ctx.event_shared
  split <;> simp [hshared]

/-- The event that closes a session when its last stay is over. -/
def Context.closing (ctx : Context) (start finish : Instant) : Event :=
  (ctx.event "_app_end" finish).set "engagement_time_msec" (.nat (finish.millis - start.millis))

/-- **A session around the walk in it.** It is closed unless the walk ends before it began. -/
theorem session_of_walk {shop : Shop} {user : User} {start : Instant} {source s : Source}
    {events : List Event} {ended : User} (hnumber : user.sessions + 1 < 0x10000000000000000)
    (hwalk : shop.walk (shop.context user (user.sessions + 1)) shop.maxScreens
      (entryPage (user.sessions + 1)) none
      (({ user with sessions := user.sessions + 1 } : User).moveTo start) source =
        (events, ended, s)) :
    shop.session user start source =
      if start ≤ ended.time then
        { events := (shop.context user (user.sessions + 1)).opening start ++ events ++
            [(shop.context user (user.sessions + 1)).closing start ended.time]
          user := ended, source := s }
      else
        { events := (shop.context user (user.sessions + 1)).opening start ++ events
          user := ended, source := s, stop := some (.crash .subOverflow) } := by
  have hnext : user.nextSession =
      .ok (user.sessions + 1, { user with sessions := user.sessions + 1 }) := by
    unfold User.nextSession checkedAdd
    rw [if_pos hnumber]
    rfl
  have hcontext : shop.context { user with sessions := user.sessions + 1 } (user.sessions + 1) =
    shop.context user (user.sessions + 1) := rfl
  have hspent : checkedSub ended.time.millis start.millis =
      if start ≤ ended.time then .ok (ended.time.millis - start.millis) else .error .subOverflow := rfl
  unfold session
  rw [hnext]
  simp only [hcontext, hwalk, hspent]
  by_cases hended : start ≤ ended.time
  · rw [if_pos hended, if_pos hended]
    rfl
  · rw [if_neg hended, if_neg hended]

/-- A session whose number cannot be counted crashes before anything is done. -/
theorem session_uncounted (shop : Shop) {user : User} (start : Instant) (source : Source)
    (hnumber : ¬ user.sessions + 1 < 0x10000000000000000) :
    shop.session user start source =
      { events := [], user, source, stop := some (.crash .addOverflow) } := by
  have hnext : user.nextSession = .error .addOverflow := by
    unfold User.nextSession checkedAdd
    rw [if_neg hnumber]
    rfl
  unfold session
  rw [hnext]

/-- **A session around a row of visits has an itinerary.** -/
theorem Walked.itinerary {shop : Shop} {user : User} {start : Instant} {source : Source}
    {visits : List Visit} (hscreens : 0 < shop.maxScreens)
    (hnumber : user.sessions + 1 < 0x10000000000000000)
    (hvisits : Walked shop (shop.context user (user.sessions + 1)) shop.maxScreens
      (entryPage (user.sessions + 1)) none
      (({ user with sessions := user.sessions + 1 } : User).moveTo start) source
      (shop.walk (shop.context user (user.sessions + 1)) shop.maxScreens
        (entryPage (user.sessions + 1)) none
        (({ user with sessions := user.sessions + 1 } : User).moveTo start) source) visits) :
    ∃ opening closing,
      Itinerary shop user start source (shop.session user start source) opening visits closing := by
  generalize hwalk : shop.walk _ _ _ _ _ _ = out at hvisits
  obtain ⟨events, ended, s⟩ := out
  obtain ⟨hfrom, hwithin⟩ := hvisits.within
  have hended : start ≤ ended.time := hfrom
  rw [session_of_walk hnumber hwalk, if_pos hended]
  have hplatform : (shop.context user (user.sessions + 1)).platform = user.platform := rfl
  have hcount : (shop.context user (user.sessions + 1)).number = user.sessions + 1 := rfl
  generalize hctx : shop.context user (user.sessions + 1) = ctx at hvisits hplatform hcount ⊢
  refine ⟨ctx.opening start, ctx.closing start ended.time, ?_⟩
  obtain ⟨hopened, hopening⟩ := opening_spec ctx start
  have hclosing : ctx.Shared (ctx.closing start ended.time) :=
    (ctx.event_shared _ _).set _ (by decide)
  have hfirst : entryPage (user.sessions + 1) = if user.sessions = 0 then .login else .main := by
    simp [entryPage]
  have hnonempty : visits ≠ [] := by
    intro hnone
    have hexit := (hvisits.empty hnone).2.2 hscreens
    rw [hfirst] at hexit
    split at hexit <;> cases hexit
  constructor
  case complete => rfl
  case events => rw [← hvisits.events]
  case opened => simpa [hcount] using hopened
  case count => exact ⟨List.length_pos_iff.2 hnonempty, hvisits.count⟩
  case entry =>
    intro v hv
    obtain ⟨hpage, htime, hprevious, hsource⟩ := hvisits.entry v hv
    exact ⟨hpage.trans hfirst, htime, hprevious, hsource⟩
  case shown => exact hplatform ▸ hvisits.shown
  case drawn => exact hctx ▸ hvisits.drawn
  case linked => exact hvisits.linked
  case exit => exact fun v hv => (hvisits.last v hv).2
  case closed =>
    refine ⟨rfl, fun v hv => (hvisits.last v hv).1, ?_⟩
    simp [Context.closing]
  case ordered =>
    simp only [TimeOrdered, List.pairwise_append, List.mem_append]
    refine ⟨⟨?_, hvisits.ordered, fun e he e' he' => ?_⟩, List.pairwise_singleton _ _, ?_⟩
    · refine List.pairwise_of_forall_mem_list fun e he e' he' => ?_
      rw [(hopening e he).1, (hopening e' he').1]
      exact Nat.le_refl _
    · rw [(hopening e he).1]
      exact (hwithin e' he').1
    · rintro e (he | he) e' he'
      · rw [(hopening e he).1, List.mem_singleton.1 he']
        exact hfrom
      · rw [List.mem_singleton.1 he']
        exact (hwithin e he).2
  case shared =>
    rw [hctx]
    simp only [List.mem_append, List.mem_singleton]
    rintro e ((he | he) | rfl)
    · exact (hopening e he).2
    · exact hvisits.shared e he
    · exact hclosing
  case left => exact hvisits.same

/-- A session has an itinerary where its number and the time of its longest stays can be counted. -/
theorem exists_itinerary (shop : Shop) (user : User) (start : Instant) (source : Source)
    (hscreens : 0 < shop.maxScreens) (hstay : shop.minDwell ≤ shop.maxDwell)
    (hnumber : user.sessions + 1 < 0x10000000000000000)
    (hroom : start.millis + shop.maxScreens * shop.maxDwell < 0x10000000000000000) :
    ∃ opening visits closing,
      Itinerary shop user start source (shop.session user start source) opening visits closing := by
  obtain ⟨visits, hvisits⟩ := shop.walk_walked (shop.context user (user.sessions + 1))
    shop.maxScreens (entryPage (user.sessions + 1)) none
    (({ user with sessions := user.sessions + 1 } : User).moveTo start) source hstay hroom
  obtain ⟨opening, closing, hitinerary⟩ := hvisits.itinerary hscreens hnumber
  exact ⟨opening, visits, closing, hitinerary⟩

/-- Settings that pass their check are taken as they are. -/
theorem ofSettings_of_check (appId : String) {c : WorkloadSettings} (h : c.check = .ok ()) :
    ofSettings appId c = ⟨appId, c.maxScreens, c.minDwell, c.maxDwell⟩ := by
  have husable := WorkloadSettings.usable_of_check h
  have hscreens : max c.maxScreens 1 = c.maxScreens := Nat.max_eq_left husable.screens
  have hstay : min c.minDwell c.maxDwell = c.minDwell := Nat.min_eq_left husable.stay
  rw [ofSettings, hscreens, hstay]

/-- **Every session has an itinerary.** With settings that pass their check, and a start that leaves
time for as many screens as there may be and the longest stay on each, the session of any user
follows the pages of the shop, whatever is drawn. Only where the number of the session cannot be
counted is there none, and then nothing is added. A session that comes after others leaves their
events as they are and adds its own behind them. -/
theorem session_itinerary (appId : String) (c : WorkloadSettings) (user : User) (start : Instant)
    (source : Source) (hcheck : c.check = .ok ())
    (hroom : start.millis + c.maxScreens * c.maxDwell < 0x10000000000000000) :
    (if user.sessions + 1 < 0x10000000000000000 then
      ∃ opening visits closing,
        Itinerary ⟨appId, c.maxScreens, c.minDwell, c.maxDwell⟩ user start source
          ((ofSettings appId c).session user start source) opening visits closing
    else
      (ofSettings appId c).session user start source =
        { events := [], user, source, stop := some (.crash .addOverflow) }) ∧
      ∀ (earlier : List Instant) (u : User) (s : Source),
        let before := runSessions (ofSettings appId c).session earlier u s
        before.stop = none →
          (runSessions (ofSettings appId c).session (earlier ++ [start]) u s).events =
            before.events ++
              ((ofSettings appId c).session (before.user.moveTo start) start before.source).events := by
  have husable := WorkloadSettings.usable_of_check hcheck
  refine ⟨?_, fun earlier u s hbefore => ?_⟩
  · rw [ofSettings_of_check appId hcheck]
    split
    · rename_i hnumber
      exact exists_itinerary _ user start source husable.screens husable.stay hnumber hroom
    · rename_i hnumber
      exact session_uncounted _ start source hnumber
  · rw [runSessions_concat _ earlier start u s hbefore]
    rfl

/-- A user who was never in the shop. -/
def visitor : User :=
  { id := .ofNat 1, platform := .web
    device := ⟨"Mozilla", "Firefox", "121.0", 1536, 864, "en_US", "1.1.1.1"⟩ }

theorem session_itinerary_visitor :
    ({} : WorkloadSettings).check = .ok () ∧
      Instant.zero.millis + ({} : WorkloadSettings).maxScreens * ({} : WorkloadSettings).maxDwell <
        0x10000000000000000 ∧
      ∃ opening visits closing, Itinerary ⟨"shop", 50, 1000, 30000⟩ visitor .zero (.ofSeed 7)
        ((ofSettings "shop" {}).session visitor .zero (.ofSeed 7)) opening visits closing := by
  have hcheck : ({} : WorkloadSettings).check = .ok () := by decide
  have hroom : Instant.zero.millis +
      ({} : WorkloadSettings).maxScreens * ({} : WorkloadSettings).maxDwell <
        0x10000000000000000 := by decide
  have hitinerary := (session_itinerary "shop" {} visitor .zero (.ofSeed 7) hcheck hroom).1
  rw [if_pos (by decide)] at hitinerary
  exact ⟨hcheck, hroom, hitinerary⟩

end Shop

end ShopTraffic
