import ShopTraffic.Crash
import ShopTraffic.Settings.Basic
import ShopTraffic.Toml.Reader

/-!
# Settings from a file

A file gives the settings in TOML, lengths of time as whole numbers of the unit that a name says.
What is missing keeps its default and unknown names are passed over. A group of settings may also be
given as an array of its members in their order.

* `Members` — access to the members of a group, by name or by place;
* `Settings.ofToml`, `Settings.load` — the settings that a text and a file give.
-/

namespace ShopTraffic

open Toml

/-- The members of a group, found by their place or their name. -/
abbrev Members := Nat → String → Option Value

/-- The members of a value that can stand for a group. A date has none of them. -/
def Members.ofValue? : Value → Option Members
  | .table entries => some fun _ name => entries.lookup name
  | .array items => some fun place _ => items[place]?
  | .datetime _ => some fun _ _ => none
  | _ => none

/-- A whole number below `2^bits`. -/
def Toml.Value.nat? (bits : Nat) : Value → Option Nat
  | .integer n => if 0 ≤ n ∧ n < Nat.pow 2 bits then some n.toNat else none
  | _ => none

def Toml.Value.nats? (bits : Nat) : Value → Option (List Nat)
  | .array items => items.mapM (nat? bits)
  | _ => none

def Toml.Value.bool? : Value → Option Bool
  | .boolean b => some b
  | _ => none

def Toml.Value.text? : Value → Option String
  | .string s => some s
  | _ => none

/-- The member of a place and name, or its default where it is missing. -/
def Members.get? {α : Type} (m : Members) (place : Nat) (name : String) (read? : Value → Option α)
    (default : α) : Option α :=
  match m place name with
  | none => some default
  | some v => read? v

/-- The workload settings of a group. -/
def WorkloadSettings.ofMembers? (m : Members) : Option WorkloadSettings := do
  let d : WorkloadSettings := {}
  return {
    initialUsers := ← m.get? 0 "initial_users" (Value.nat? 64) d.initialUsers
    newUsersPerDay := ← m.get? 1 "new_users_per_day" (Value.nat? 64) d.newUsersPerDay
    activeChoices := ← m.get? 2 "dau_choices" (Value.nats? 64) d.activeChoices
    sessionCountChoices :=
      ← m.get? 3 "session_count_choices" (Value.nats? 32) d.sessionCountChoices
    hourWeights := ← m.get? 4 "visit_hour_weights" (Value.nats? 32) d.hourWeights
    minuteChoices := ← m.get? 5 "visit_minute_choices" (Value.nats? 32) d.minuteChoices
    maxScreens := ← m.get? 6 "max_screens_per_session" (Value.nat? 64) d.maxScreens
    minDwell := ← m.get? 7 "min_dwell_ms" (Value.nat? 64) d.minDwell
    maxDwell := ← m.get? 8 "max_dwell_ms" (Value.nat? 64) d.maxDwell }

/-- The backfill settings of a group. -/
def BackfillSettings.ofMembers? (m : Members) : Option BackfillSettings := do
  let d : BackfillSettings := {}
  return {
    days := ← m.get? 0 "days" (Value.nat? 64) d.days
    eventsPerRequest := ← m.get? 1 "events_per_request" (Value.nat? 64) d.eventsPerRequest
    maxRequests := ← m.get? 2 "max_batch_requests" (Value.nat? 64) d.maxRequests
    allUsers := ← m.get? 3 "all_users" (Value.nat? 64) d.allUsers }

/-- The members of a file, before units are applied. -/
structure SettingsFile where
  windowMinutes : Nat
  /-- All settings but the length of a window. -/
  rest : Settings
  deriving DecidableEq, Repr

/-- The members of a file's entries. -/
def SettingsFile.ofMembers? (m : Members) : Option SettingsFile := do
  let d : Settings := {}
  let appId ← m.get? 0 "app_id" Value.text? d.appId
  let endpoint ← m.get? 1 "endpoint" Value.text? d.endpoint
  let windowMinutes ← m.get? 2 "window_minutes" (Value.nat? 64) (d.window.wholeSeconds / 60)
  let grace ← m.get? 3 "flush_grace_secs" (Value.nat? 64) d.grace.wholeSeconds
  let poll ← m.get? 4 "poll_interval_secs" (Value.nat? 64) d.poll.wholeSeconds
  let shards ← m.get? 5 "shards" (Value.nat? 64) d.shards
  let seed ← m.get? 6 "seed" (fun v => (v.nat? 64).map some) d.seed
  let gzip ← m.get? 7 "gzip" Value.bool? d.gzip
  let progressEvery ← m.get? 8 "progress_every" (Value.nat? 64) d.progressEvery
  let workload ← m.get? 9 "workload"
    (fun v => Members.ofValue? v >>= WorkloadSettings.ofMembers?) d.workload
  let backfill ← m.get? 10 "backfill"
    (fun v => Members.ofValue? v >>= BackfillSettings.ofMembers?) d.backfill
  return {
    windowMinutes
    rest :=
      { grace := .ofSeconds grace, poll := .ofSeconds poll, shards, appId, endpoint, seed, gzip,
        progressEvery, workload, backfill } }

/-- The settings of a file. A window whose seconds leave 64 bits is a crash. -/
def SettingsFile.settings (f : SettingsFile) : Except Crash Settings := do
  let seconds ← checkedMul f.windowMinutes 60
  return { f.rest with window := .ofSeconds seconds }

/-- The settings that a text in TOML gives. -/
def Settings.ofToml (text : String) : Outcome SettingsError Settings :=
  match Toml.read? text with
  | none => .error (.error .malformed)
  | some entries =>
    match SettingsFile.ofMembers? fun _ name => entries.lookup name with
    | none => .error (.error .malformed)
    | some file => file.settings.mapError .crash

/-- What reading a file gives. -/
abbrev Files := String → Except FileProblem String

/-- The settings that a file gives. -/
def Settings.load (files : Files) (path : String) : Outcome SettingsError Settings :=
  match files path with
  | .error cause => .error (.error (.unreadable path cause))
  | .ok text => Settings.ofToml text

end ShopTraffic
