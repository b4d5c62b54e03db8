import ShopTraffic.Chance.Table
import ShopTraffic.Generator
import ShopTraffic.Shop.Page
import ShopTraffic.Workload.Settings

/-!
# Shopping sessions

A session walks from page to page. It opens with `_session_start`, on the user's first session
followed by `_app_start`; each page shows a `_screen_view`, may add an action in the first half of
the stay, and is left for the next page after the stay; `_app_end` closes the session with the time
spent.

* `Shop` — the settings of the sessions of one app;
* `Shop.walk` — the views and actions of the pages that are left;
* `Shop.session` — a whole session.
-/

namespace ShopTraffic

open Chance Shop

/-- What the sessions of an app are made from. -/
structure Shop where
  appId : String
  /-- The most screens of one session. -/
  maxScreens : Nat
  /-- The shortest and the longest stay on a screen, in milliseconds. -/
  minDwell : Nat
  maxDwell : Nat
  deriving DecidableEq, Repr

namespace Shop

/-- The sessions of workload settings: one screen at least, and no least stay above the longest. -/
def ofSettings (appId : String) (c : WorkloadSettings) : Shop :=
  { appId, maxScreens := max c.maxScreens 1, minDwell := min c.minDwell c.maxDwell,
    maxDwell := c.maxDwell }

/-- What users search for. -/
def searchTerms : Choice String :=
  ⟨["sneakers", "headphones", "coffee", "backpack", "lamp", "jacket", "phone case", "watch"],
    by decide⟩

/-- Three tenths of all 64-bit words. -/
def addToCartThreshold : Nat := 5534023222112865280

/-- What all events of one session share. -/
structure Context where
  appId : String
  user : UserId
  platform : Platform
  device : Json
  sessionId : String
  number : Nat

/-- The shared part of session `number` of a user. -/
def context (shop : Shop) (user : User) (number : Nat) : Context :=
  { appId := shop.appId, user := user.id, platform := user.platform
    device := user.device.attribute
    sessionId := user.id.short ++ "-" ++ Text.padded 3 number, number }

/-- An event of the session. -/
def Context.event (ctx : Context) (type : String) (time : Instant) : Event :=
  ((((((⟨type, time, []⟩ : Event).set "app_id" (.str ctx.appId)).set
    "unique_id" (.str ctx.user.hex)).set
    "platform" (.str ctx.platform.name)).set
    "device" ctx.device).set
    "session_id" (.str ctx.sessionId)).set
    "session_number" (.nat ctx.number)

/-- The view of a page, naming the screen seen before it. -/
def Context.view (ctx : Context) (page : Page) (previous : Option String) (time : Instant) : Event :=
  let (name, id) := page.screen ctx.platform
  let view := (((ctx.event "_screen_view" time).set "page" (.str page.name)).set
    "screen_name" (.str name)).set "screen_id" (.str id)
  match previous with
  | some before => view.set "previous_screen_name" (.str before)
  | none => view

/-- The action on a page, if there is one. -/
def Context.action (ctx : Context) (page : Page) (time : Instant) (s : Source) :
    List Event × Source :=
  match page with
  | .login => ([ctx.event "login" time], s)
  | .search =>
    let (term, s) := searchTerms.draw s
    ([(ctx.event "search" time).set "search_term" (.str term)], s)
  | .detail =>
    let (adds, s) := s.chance addToCartThreshold
    if adds then
      let (item, s) := s.between .narrow 1 500
      ([(ctx.event "add_to_cart" time).set "item_id" (.str ("item_" ++ Text.padded 3 item))], s)
    else ([], s)
  | .result =>
    let (cents, s) := s.between .wide 500 50000
    ([((ctx.event "purchase" time).set "currency" (.str "USD")).set
      "value" (.real (Float.ofNat cents / 100))], s)
  | _ => ([], s)

/-- The pages that are left of a walk: the events they add, the user when the walk ends, and the
source. -/
def walk (shop : Shop) (ctx : Context) :
    (screens : Nat) → Page → (previous : Option String) → User → Source → List Event × User × Source
  | 0, _, _, user, s => ([], user, s)
  | screens + 1, page, previous, user, s =>
    if page = .exit then ([], user, s)
    else
      let now := user.time
      let (dwell, s) := s.between .wide shop.minDwell shop.maxDwell
      let (offset, s) := s.between .wide 0 (dwell / 2)
      let (actions, s) := ctx.action page (now.plus offset) s
      let (_, user) := user.advance dwell
      let (following, s) := page.next s
      let (events, user, s) :=
        walk shop ctx screens following (some (page.screen ctx.platform).1) user s
      (ctx.view page previous now :: (actions ++ events), user, s)

/-- The page a session opens on: the login on the first session, the main page on later ones. -/
def entryPage (number : Nat) : Page := if number = 1 then .login else .main

/-- The events that open a session. -/
def Context.opening (ctx : Context) (start : Instant) : List Event :=
  ctx.event "_session_start" start ::
    if ctx.number = 1 then [ctx.event "_app_start" start] else []

/-- Produces one session of a user. -/
def session (shop : Shop) : Generator := fun user start source =>
  match user.nextSession with
  | .error crash => { events := [], user, source, stop := some (.crash crash) }
  | .ok (number, user) =>
    let ctx := shop.context user number
    let (events, user, source) :=
      shop.walk ctx shop.maxScreens (entryPage number) none (user.moveTo start) source
    let events := ctx.opening start ++ events
    match checkedSub user.time.millis start.millis with
    | .error crash => { events, user, source, stop := some (.crash crash) }
    | .ok spent =>
      let closing := (ctx.event "_app_end" user.time).set "engagement_time_msec" (.nat spent)
      { events := events ++ [closing], user, source }

end Shop

end ShopTraffic
