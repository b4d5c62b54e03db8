import ShopTraffic.CommandLine.Options

/-!
# Help

Each entry of a list stands behind its name, and all entries of a list begin in one column.

* `overview` — the commands; `Command.usage` — the options of one command;
* `helpUsage` — the command that shows help; `Topic.text` — what is shown about a topic;
* `versionLine` — name and version of the program.
-/

namespace ShopTraffic.CommandLine

def programName : String := "clickstream-streamer"

def versionLine : String := programName ++ " 0.1.0"

/-- Named entries, indented, with their texts in one column. -/
def columns (entries : List (String × String)) : List String :=
  let width := (entries.map (·.1.length)).foldl max 0
  entries.map fun (name, text) =>
    "  " ++ name ++ String.ofList (List.replicate (width - name.length + 2) ' ') ++ text

/-- How an option is written: its letter, its name and a place for its value. -/
def Flag.synopsis (f : Flag) : String :=
  let letter := match f.letter with
    | some c => String.ofList ['-', c, ',', ' ']
    | none => "    "
  let place := String.ofList (f.name.toUpper.toList.map fun c => if c = '-' then '_' else c)
  letter ++ "--" ++ f.name ++ if f.taken = .nothing then "" else " <" ++ place ++ ">"

/-- What the command that shows help does. -/
def helpSummary : String := "Print this message or the help of the given subcommand(s)"

def helpEntry (synopsis : String) : String × String := (synopsis, "Print help")

/-- The options of a command. -/
def Command.usage (command : Command) : List String :=
  [command.help, "", s!"Usage: {programName} {command.name} [OPTIONS]", "", "Options:"] ++
    columns (command.flags.map (fun f => (f.synopsis, f.help)) ++ [helpEntry "-h, --help"])

/-- The commands. -/
def overview : List String :=
  ["Real-time synthetic clickstream generator", "", s!"Usage: {programName} <COMMAND>", "",
    "Commands:"] ++
    columns (Command.all.map (fun c => (c.name, c.help)) ++
      [("help", helpSummary)]) ++
    ["", "Options:"] ++ columns [helpEntry "-h, --help", ("-V, --version", "Print version")]

/-- The command that shows help. -/
def helpUsage : List String :=
  [helpSummary, "", s!"Usage: {programName} help [COMMAND]...", "", "Arguments:"] ++
    columns [("[COMMAND]...", "Print help for the subcommand(s)")]

/-- What is shown about a topic. -/
def Topic.text : Topic → List String
  | .program => overview
  | .command c => c.usage
  | .help => helpUsage

end ShopTraffic.CommandLine
