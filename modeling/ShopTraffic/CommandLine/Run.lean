import ShopTraffic.Backfill
import ShopTraffic.CommandLine.Help
import ShopTraffic.Ingest.Client
import ShopTraffic.Settings.File
import ShopTraffic.Settings.Inspect
import ShopTraffic.Shop.Session
import ShopTraffic.Stream.Streamer

/-!
# Runs of the command line

A run is a function of its words, the files it may read, the time at its start, a number that stands
in for a seed, and the answers of the far end. Options win over the settings file.

* `Given.settings` — the settings that options ask for;
* `StartError` — why a run cannot begin;
* `stream`, `backfill`, `run` — what the commands do; `Ending` — how a run ends.
-/

namespace ShopTraffic.CommandLine

/-- What a run may learn from outside. -/
structure World where
  files : Files
  /-- The time at the start. -/
  now : Instant
  /-- A number that stands in for a seed where none is given. -/
  entropy : Nat
  /-- The status a request is answered with, if it is answered. -/
  exchange : Ingest.Request → Option Nat

/-- Why a run cannot begin. -/
inductive StartError where
  /-- The settings file cannot be read. -/
  | file (cause : SettingsError)
  /-- The settings are refused. -/
  | settings (cause : SettingsError)
  | noApp
  | endpoint (cause : Ingest.EndpointError)
  deriving DecidableEq, Repr

/-- The error as a value. -/
def StartError.inspect : StartError → String
  | .file cause => cause.inspect
  | .settings cause => s!"Config({cause.inspect})"
  | .noApp =>
    Text.quoted "an app id is required (--app-id or `app_id` in the config file)"
  | .endpoint cause => s!"InvalidEndpoint({Text.quoted cause.endpoint})"

/-- How a run ends. -/
structure Ending where
  /-- The status handed to the shell. -/
  code : Nat := 0
  output : List String := []
  /-- The line that says why a run failed. -/
  error : String := ""
  notices : List Notice := []
  deriving Repr

namespace Ending

/-- The end of a run whose command line cannot be read. -/
def refused : Ending := { code := 2, error := "error: invalid command line" }

/-- The end of a run that stopped after some output. -/
def stopped (output : List String) (notices : List Notice) : Stop StartError → Ending
  | .error cause => { code := 1, output, error := "Error: " ++ cause.inspect, notices }
  | .crash crash => { code := 101, output, error := crash.message, notices }

end Ending

namespace Given

def has (g : Given) (name : String) : Bool := (g.lookup name).isSome

/-- The text that an option was given. -/
def text? (g : Given) (name : String) : Option String :=
  match g.lookup name with
  | some (.text s) => some s
  | _ => none

/-- The number that an option was given. -/
def number? (g : Given) (name : String) : Option Nat :=
  match g.lookup name with
  | some (.number n) => some n
  | _ => none

/-- The span that an option was given. -/
def span? (g : Given) (name : String) : Option Span :=
  match g.lookup name with
  | some (.span s) => some s
  | _ => none

/-- The settings file, or the defaults where none is named. -/
def base (g : Given) (files : Files) : Outcome StartError Settings :=
  match g.text? "config" with
  | some path => (Settings.load files path).mapError (Stop.map .file)
  | none => .ok {}

/-- The settings that both commands share. An app must be named. -/
def settings (g : Given) (files : Files) : Outcome StartError Settings := do
  let c ← g.base files
  let c : Settings :=
    { c with
      endpoint := (g.text? "endpoint").getD c.endpoint
      appId := (g.text? "app-id").getD c.appId
      seed := (g.number? "seed").or c.seed
      gzip := c.gzip || g.has "gzip" }
  if c.appId.isEmpty then throw (.error .noApp) else return c

/-- The far end of deliveries, with the notice that nothing is sent. -/
def sink (g : Given) (world : World) (c : Settings) : Outcome StartError (Sink × List Notice) :=
  if g.has "dry-run" then .ok (.logging, [.onlyLogging])
  else
    match Ingest.Client.ofEndpoint c.endpoint c.appId with
    | .ok client => .ok ({ client with gzip := c.gzip }.sink world.exchange, [])
    | .error cause => .error (.error (.endpoint cause))

end Given

/-- The end of a run that may stop before it has begun. -/
def ending (start : Outcome StartError Ending) : Ending :=
  match start with
  | .ok e => e
  | .error stop => .stopped [] [] stop

/-- How many windows are run when none are counted. -/
def unlimited : Nat := 0xFFFFFFFFFFFFFFFF

/-- Streams windows and reports. -/
def stream (world : World) (g : Given) : Ending :=
  ending do
    let c ← g.settings world.files
    let c : Settings :=
      { c with
        window := (g.span? "window").getD c.window
        grace := (g.span? "grace").getD c.grace
        poll := (g.span? "poll").getD c.poll
        shards := (g.number? "shards").getD c.shards }
    let (sink, notices) ← g.sink world c
    let generator := (Shop.ofSettings c.appId c.workload).session
    let (population, _) ← (Population.generate .default c.workload.initialUsers
      (.ofSeed (c.seed.getD world.entropy))).mapError .crash
    let s ← (Streamer.ofSettings c).mapError (Stop.map .settings)
    let around : Surroundings := { generator, sink, clock := .startingAt world.now }
    let notices := notices ++ [.poolGenerated population.size]
    match s.runWindows around ((g.number? "windows").getD unlimited)
        (s.start population world.entropy) with
    | .error broken =>
      return .stopped [] (notices ++ broken.state.books.notices.toList) (.crash broken.crash)
    | .ok st =>
      return {
        output := (Streamer.report st (.ofMillis st.elapsed)).lines
        notices := notices ++ st.books.notices.toList }

/-- Generates the days before today and reports. -/
def backfill (world : World) (g : Given) : Ending :=
  ending do
    let c ← g.settings world.files
    let c : Settings := { c with backfill := { c.backfill with days := (g.number? "days").getD c.backfill.days } }
    let (sink, notices) ← g.sink world c
    let generator := (Shop.ofSettings c.appId c.workload).session
    let (made, start) := Backfill.ofSettings c world.entropy
    let (b, st) ← start.mapError (Stop.map .settings)
    let today := world.now.day
    let opening := s!"Backfilling {c.backfill.days} days before {today.text}..."
    let st := b.run generator sink (.startingAt world.now) today st
    let notices := notices ++ made ++ st.notices.toList
    match st.crash with
    | some crash => return .stopped [opening] notices (.crash crash)
    | none =>
      let report := { st.report with duration := .ofMillis st.elapsed }
      return { output := opening :: report.lines, notices }

/-- Runs a command line. -/
def run (world : World) (words : List String) : Ending :=
  match Invocation.read words with
  | .refused => .refused
  | .version => { output := [versionLine] }
  | .crashed crash => .stopped [] [] (.crash crash)
  | .help topic => { output := topic.text }
  | .run .stream given => stream world given
  | .run .backfill given => backfill world given

end ShopTraffic.CommandLine
