/-!
# Workload settings

How many users there are, how often they come, at which hours and minutes, and how long they stay.
A list of choices is a uniform distribution over its positions, so a value that is repeated is drawn
more often.

* `WorkloadSettings` — the settings with their defaults;
* `WorkloadSettings.check` — the first reason to refuse them;
* `WorkloadError` — the reasons, with their texts.
-/

namespace ShopTraffic

/-- Relative frequency of session starts by hour of the day: quiet nights, a morning bump, a plateau
at noon and a peak at eight in the evening. -/
def defaultHourWeights : List Nat :=
  [3, 2, 1, 1, 1, 2, 4, 7, 9, 8, 7, 8, 10, 9, 7, 7, 8, 10, 12, 14, 15, 13, 9, 5]

/-- Settings of the population and its sessions. -/
structure WorkloadSettings where
  /-- Users at the start. -/
  initialUsers : Nat := 1000
  /-- Users gained on each new day. -/
  newUsersPerDay : Nat := 25
  /-- How many users are active on a day. -/
  activeChoices : List Nat := [180, 200, 220, 250, 280]
  /-- How many sessions an active user has on a day. -/
  sessionCountChoices : List Nat := [1, 1, 1, 2, 2, 3, 4]
  /-- Weights of the hours a session starts in. -/
  hourWeights : List Nat := defaultHourWeights
  /-- Minutes of the hour a session starts in. -/
  minuteChoices : List Nat := List.range 60
  /-- The most screens of one session. -/
  maxScreens : Nat := 50
  /-- The shortest stay on a screen, in milliseconds. -/
  minDwell : Nat := 1000
  /-- The longest stay on a screen, in milliseconds. -/
  maxDwell : Nat := 30000
  deriving DecidableEq, Repr

/-- Why workload settings are refused. -/
inductive WorkloadError where
  /-- A distribution, by its name, without choices. -/
  | noChoices (distribution : String)
  /-- A number of hour weights other than twenty-four. -/
  | hourCount (count : Nat)
  | noHour
  | minuteOutOfRange (minute : Nat)
  | noScreens
  | dwellOrder (min max : Nat)
  deriving DecidableEq, Repr

namespace WorkloadError

/-- What is wrong, where a text says more than the kind of error. -/
def detail : WorkloadError → String
  | .noChoices distribution => distribution
  | .hourCount count => s!"expected 24 weights, got {count}"
  | .noHour => "all weights are zero"
  | .minuteOutOfRange minute => toString minute
  | .noScreens => "max_screens_per_session must be at least 1"
  | .dwellOrder min max => s!"min_dwell_ms ({min}) exceeds max_dwell_ms ({max})"

/-- The text that reports the error. -/
def message (e : WorkloadError) : String :=
  match e with
  | .noChoices distribution => s!"Distribution `{distribution}` has no choices"
  | .hourCount _ | .noHour => s!"Invalid visit hour weights: {e.detail}"
  | .minuteOutOfRange minute => s!"Visit minute {minute} is out of range 0..60"
  | .noScreens | .dwellOrder _ _ => s!"Invalid workload configuration: {e.detail}"

end WorkloadError

namespace WorkloadSettings

/-- Weights that leave one hour only; none where there is no such hour. -/
def onlyHourWeights (hour : Nat) : List Nat :=
  (List.range 24).map fun h => if h = hour then 1 else 0

/-- The first reason to refuse the settings. -/
def problem? (c : WorkloadSettings) : Option WorkloadError :=
  if c.activeChoices.isEmpty then some (.noChoices "dau_choices")
  else if c.sessionCountChoices.isEmpty then some (.noChoices "session_count_choices")
  else if c.minuteChoices.isEmpty then some (.noChoices "visit_minute_choices")
  else if c.hourWeights.length ≠ 24 then some (.hourCount c.hourWeights.length)
  else if c.hourWeights.all (· == 0) then some .noHour
  else
    match c.minuteChoices.find? (60 ≤ ·) with
    | some minute => some (.minuteOutOfRange minute)
    | none =>
      if c.maxScreens = 0 then some .noScreens
      else if c.maxDwell < c.minDwell then some (.dwellOrder c.minDwell c.maxDwell)
      else none

/-- Accepts the settings or gives the first reason to refuse them. -/
def check (c : WorkloadSettings) : Except WorkloadError Unit :=
  match c.problem? with
  | some e => .error e
  | none => .ok ()

end WorkloadSettings

end ShopTraffic
