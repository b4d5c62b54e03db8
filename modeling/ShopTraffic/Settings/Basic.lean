import ShopTraffic.Time.Span
import ShopTraffic.Workload.Settings

/-!
# Settings of a run

* `Settings` — the window, its pacing, the sink and the workload, with defaults;
* `Settings.check` — the first reason to refuse them;
* `SettingsError` — the reasons, also those met on reading a file, with their texts.
-/

namespace ShopTraffic

/-- Settings of bulk generation. -/
structure BackfillSettings where
  /-- Days to generate, the last one yesterday. -/
  days : Nat := 30
  eventsPerRequest : Nat := 10000
  /-- Deliveries that may be on their way at once. -/
  maxRequests : Nat := 20
  /-- The population that is grown towards. -/
  allUsers : Nat := 100000
  deriving DecidableEq, Repr

/-- More buffered events than this are delivered before the day is complete. -/
def BackfillSettings.flushThreshold (b : BackfillSettings) : Nat :=
  min (b.eventsPerRequest * (b.maxRequests - 1)) 0xFFFFFFFFFFFFFFFF

/-- Settings of a run. -/
structure Settings where
  /-- The length of a window. -/
  window : Span := .ofSeconds 600
  /-- How long a shard goes on after its window ends. -/
  grace : Span := .ofSeconds 10
  /-- The interval of pacing ticks. -/
  poll : Span := .ofSeconds 10
  shards : Nat := 10
  appId : String := ""
  endpoint : String := "http://localhost:8080/collect"
  /-- The seed of all draws; without one they differ from run to run. -/
  seed : Option Nat := none
  /-- Whether requests are compressed. -/
  gzip : Bool := false
  /-- Deliveries between two notices of progress. -/
  progressEvery : Nat := 100
  workload : WorkloadSettings := {}
  backfill : BackfillSettings := {}
  deriving DecidableEq, Repr

/-- Why a file cannot be read. -/
inductive FileProblem where
  | missing
  | directory
  /-- The path leads on from a file. -/
  | notDirectory
  | denied
  /-- The path or a name in it is longer than the system takes. -/
  | longName
  /-- The path holds a zero character, which ends paths. -/
  | zeroChar
  | notText
  deriving DecidableEq, Repr

/-- A file problem as it is reported: the number that the system gives it, if it does, its kind and
its text. -/
structure FileCause where
  code : Option Nat
  kind : String
  text : String
  deriving DecidableEq, Repr

namespace FileProblem

def cause : FileProblem → FileCause
  | .missing => ⟨some 2, "NotFound", "No such file or directory"⟩
  | .directory => ⟨some 21, "IsADirectory", "Is a directory"⟩
  | .notDirectory => ⟨some 20, "NotADirectory", "Not a directory"⟩
  | .denied => ⟨some 13, "PermissionDenied", "Permission denied"⟩
  | .longName => ⟨some 36, "InvalidFilename", "File name too long"⟩
  | .zeroChar => ⟨none, "InvalidInput", "file name contained an unexpected NUL byte"⟩
  | .notText => ⟨none, "InvalidData", "stream did not contain valid UTF-8"⟩

/-- The text that reports a file problem. -/
def message (p : FileProblem) : String :=
  match p.cause.code with
  | some code => s!"{p.cause.text} (os error {code})"
  | none => p.cause.text

end FileProblem

/-- Why settings are refused or cannot be read. -/
inductive SettingsError where
  | noWindow
  | noPoll
  | noShards
  | noBatch
  | workload (cause : WorkloadError)
  | unreadable (path : String) (cause : FileProblem)
  | malformed
  deriving DecidableEq, Repr

namespace SettingsError

/-- What is wrong, for an error in the settings themselves. -/
def detail : SettingsError → String
  | .noWindow => "window_length must be positive"
  | .noPoll => "poll_interval must be positive"
  | .noShards => "shards must be at least 1"
  | .noBatch => "backfill batch sizes must be at least 1"
  | .workload cause => cause.message
  | .unreadable _ cause => cause.message
  | .malformed => "malformed file"

/-- The text that reports the error. -/
def message (e : SettingsError) : String :=
  match e with
  | .workload cause => s!"Workload configuration: {cause.message}"
  | .unreadable path cause => s!"Failed to read {path}: {cause.message}"
  | .malformed => s!"Failed to parse configuration: {e.detail}"
  | _ => s!"Invalid configuration: {e.detail}"

end SettingsError

namespace Settings

/-- The first reason to refuse the settings. -/
def problem? (c : Settings) : Option SettingsError :=
  if c.window.nanos = 0 then some .noWindow
  else if c.poll.nanos = 0 then some .noPoll
  else if c.shards = 0 then some .noShards
  else if c.backfill.eventsPerRequest = 0 ∨ c.backfill.maxRequests = 0 then some .noBatch
  else c.workload.problem?.map .workload

/-- Accepts the settings or gives the first reason to refuse them. -/
def check (c : Settings) : Except SettingsError Unit :=
  match c.problem? with
  | some e => .error e
  | none => .ok ()

/-- The text that reports settings refused when a run is set up. -/
def refusalMessage (e : SettingsError) : String := s!"Configuration error: {e.message}"

theorem poll_pos_of_check {c : Settings} (h : c.check = .ok ()) : 0 < c.poll.startedMillis := by
  apply Span.startedMillis_pos
  intro h0
  unfold check problem? at h
  by_cases hw : c.window.nanos = 0 <;> simp [hw, h0] at h

theorem batch_pos_of_check {c : Settings} (h : c.check = .ok ()) :
    0 < c.backfill.eventsPerRequest := by
  apply Nat.pos_of_ne_zero
  intro h0
  unfold check problem? at h
  by_cases hw : c.window.nanos = 0 <;> by_cases hp : c.poll.nanos = 0 <;>
    by_cases hs : c.shards = 0 <;> simp [hw, hp, hs, h0] at h

end Settings

end ShopTraffic
