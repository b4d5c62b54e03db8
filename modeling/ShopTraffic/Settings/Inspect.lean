import ShopTraffic.Settings.Basic
import ShopTraffic.Text.Quoted

/-!
# Errors as values

The form in which the command line shows an error it ends with: the kind of the error with what it
holds.
-/

namespace ShopTraffic

/-- A workload error as a value. -/
def WorkloadError.inspect (e : WorkloadError) : String :=
  match e with
  | .noChoices name => s!"EmptyChoices({Text.quoted name})"
  | .hourCount _ | .noHour => s!"HourWeights({Text.quoted e.detail})"
  | .minuteOutOfRange minute => s!"InvalidMinute({minute})"
  | .noScreens | .dwellOrder _ _ => s!"Invalid({Text.quoted e.detail})"

/-- A file problem as a value. -/
def FileProblem.inspect (p : FileProblem) : String :=
  let told := s!"kind: {p.cause.kind}, message: {Text.quoted p.cause.text} \x7d"
  match p.cause.code with
  | some code => s!"Os \x7b code: {code}, " ++ told
  | none => "Error \x7b " ++ told

/-- A settings error as a value. -/
def SettingsError.inspect (e : SettingsError) : String :=
  match e with
  | .workload cause => s!"Workload({cause.inspect})"
  | .unreadable path cause => s!"Io \x7b path: {Text.quoted path}, source: {cause.inspect} \x7d"
  | .malformed => s!"Parse({Text.quoted e.detail})"
  | _ => s!"Invalid({Text.quoted e.detail})"

end ShopTraffic
