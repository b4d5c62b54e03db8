import ShopTraffic.Chance.Source
import ShopTraffic.Event
import ShopTraffic.User

/-!
# Session generators

A generator is handed a user, the start of a session and a source of chance. It gives the events it
adds, the user and the source as it leaves them, and the reason if it stopped early; events added
before it stopped are part of the result.

* `Generator`, `Session` — the shape of every generator;
* `Generator.run` — one call, which leaves all of a user but its time and its sessions alone;
* `GenerationError` — what a generator can report;
* `Generator.scripted` — a generator of events at fixed times.
-/

namespace ShopTraffic

/-- What a generator reports when it cannot produce a session. -/
inductive GenerationError where
  | invalidUser (user : UserId) (reason : String)
  | misconfigured (text : String)
  deriving DecidableEq, Repr

def GenerationError.message : GenerationError → String
  | .invalidUser user reason => s!"Invalid state for user {user.hex}: {reason}"
  | .misconfigured text => s!"Generator misconfigured: {text}"

/-- What one call of a generator leaves behind. -/
structure Session where
  /-- Events added, in the order they were emitted. -/
  events : List Event
  user : User
  source : Chance.Source
  /-- Why the session ended early. -/
  stop : Option (Stop GenerationError) := none
  deriving Repr

/-- Produces the session of a user that starts at an instant. -/
abbrev Generator := User → Instant → Chance.Source → Session

/-- Runs a generator for a user. A session moves the user's time and takes session numbers; nothing
else of a user is a generator's to change. -/
def Generator.run (generator : Generator) (user : User) (start : Instant) (source : Chance.Source) :
    Session :=
  let session := generator user start source
  { session with
    user := { user with time := session.user.time, sessions := session.user.sessions } }

/-- Emits one event at each of the given times, whatever the start of the session. Sessions of the
users in `failing` are refused. -/
def Generator.scripted (times : List Instant) (failing : List UserId) : Generator :=
  fun user _ source =>
    if user.id ∈ failing then
      { events := [], user, source, stop := some (.error (.invalidUser user.id "scripted failure")) }
    else
      match user.nextSession with
      | .error crash => { events := [], user, source, stop := some (.crash crash) }
      | .ok (number, user) =>
        let event t : Event :=
          (({ type := "scripted", time := t } : Event).set "unique_id" (.str user.id.hex)).set
            "session_number" (.nat number)
        { events := times.map event, user := times.foldl User.moveTo user, source }

end ShopTraffic
