import ShopTraffic.Time.SpanReader

/-!
# Options

A command is a name followed by options. An option has a long name, some also a letter; a value
follows behind an equals sign, as the next word, or, for a letter, at once. No option is given twice.

* `Flag`, `Command.flags` — the options of the two commands;
* `Argument`, `Taken.read` — the values of options;
* `Invocation`, `Invocation.read` — what a command line asks for.
-/

namespace ShopTraffic.CommandLine

/-- What an option takes. -/
inductive Taken where
  | nothing
  | text
  /-- The name of a file, which is not empty. -/
  | path
  | number
  | span
  deriving DecidableEq, Repr

/-- An option of a command. -/
structure Flag where
  name : String
  letter : Option Char
  taken : Taken
  help : String
  deriving DecidableEq, Repr

inductive Command where
  | stream
  | backfill
  deriving DecidableEq, Repr

/-- Options of both commands. -/
def commonFlags : List Flag :=
  [⟨"config", some 'c', .path, "TOML configuration file"⟩,
    ⟨"endpoint", some 'e', .text, "Ingestion endpoint URL"⟩,
    ⟨"app-id", none, .text, "Application id sent with every request"⟩,
    ⟨"seed", none, .number, "RNG seed for reproducible runs"⟩,
    ⟨"gzip", none, .nothing, "Gzip request bodies"⟩,
    ⟨"dry-run", none, .nothing, "Log batches instead of sending them"⟩]

namespace Command

def all : List Command := [.stream, .backfill]

def name : Command → String
  | .stream => "stream"
  | .backfill => "backfill"

def help : Command → String
  | .stream => "Stream events in real time until interrupted"
  | .backfill => "Generate and deliver past days in bulk"

/-- The options of a command in order. -/
def flags : Command → List Flag
  | .stream => commonFlags ++
    [⟨"window", some 'w', .span, "Window length (e.g., \"10m\", \"30s\")"⟩,
      ⟨"grace", none, .span, "How long shards keep flushing after their window ends"⟩,
      ⟨"poll", none, .span, "Interval between pacing ticks"⟩,
      ⟨"shards", none, .number, "Number of shards per window"⟩,
      ⟨"windows", none, .number, "Stop after this many windows"⟩]
  | .backfill => commonFlags ++
    [⟨"days", none, .number, "Number of days before today to generate"⟩]

end Command

/-- A decimal number of 64 bits, with a plus sign or without. -/
def number? (s : String) : Option Nat :=
  let digits := match s.toList with
    | '+' :: rest => rest
    | cs => cs
  (Text.decimal? digits).filter (· < 0x10000000000000000)

/-- The value of an option. -/
inductive Argument where
  /-- The option stands alone. -/
  | nothing
  | text (s : String)
  | number (n : Nat)
  | span (s : Span)
  deriving DecidableEq, Repr

/-- The value that an option takes from a text; an error where it takes none. -/
def Taken.read (t : Taken) (text : String) : Outcome Unit Argument :=
  match t with
  | .nothing => .error (.error ())
  | .text => .ok (.text text)
  | .path => if text.isEmpty then .error (.error ()) else .ok (.text text)
  | .number =>
    match number? text with
    | some n => .ok (.number n)
    | none => .error (.error ())
  | .span => Argument.span <$> Span.read text

/-- The names of the options that are given, with their values. -/
abbrev Given := List (String × Argument)

/-- What a help text is about. -/
inductive Topic where
  | program
  | command (command : Command)
  /-- The command that shows help. -/
  | help
  deriving DecidableEq, Repr

/-- What a command line asks for. -/
inductive Invocation where
  | run (command : Command) (given : Given)
  | help (topic : Topic)
  | version
  | refused
  /-- A value cannot even be read. -/
  | crashed (crash : Crash)
  deriving DecidableEq, Repr

/-- The invocation of a command line that stopped making sense. -/
def Invocation.ofStop : Stop Unit → Invocation
  | .error () => .refused
  | .crash crash => .crashed crash

/-- What one word of options stands for. -/
inductive Word where
  /-- An option with the value in the same word, if there is one. -/
  | option (flag : Flag) (value : Option String)
  | help
  | unknown
  deriving DecidableEq, Repr

/-- Splits a text at its first equals sign. -/
def splitEquals (cs : List Char) : List Char × Option (List Char) :=
  match cs.dropWhile (· ≠ '=') with
  | [] => (cs, none)
  | _ :: value => (cs.takeWhile (· ≠ '='), some value)

/-- The option that a word names. A letter takes the rest of its word as a value. -/
def Word.read (flags : List Flag) (word : String) : Word :=
  match word.toList with
  | '-' :: '-' :: rest =>
    let (name, value) := splitEquals rest
    if name = "help".toList then if value.isNone then .help else .unknown
    else (flags.find? (·.name.toList = name)).elim .unknown (.option · (value.map String.ofList))
  | '-' :: 'h' :: _ => .help
  | '-' :: letter :: rest =>
    let value := match rest with
      | [] => none
      | '=' :: value => some value
      | value => some value
    (flags.find? (·.letter = some letter)).elim .unknown (.option · (value.map String.ofList))
  | _ => .unknown

/-- Whether a word can be a value of its own: it does not look like an option. -/
def isValueWord (word : String) : Bool :=
  match word.toList with
  | ['-'] => true
  | '-' :: _ => false
  | _ => true

/-- Adds an option that is new, with the value that it takes from a text, if there is one. -/
def Given.take (given : Given) (flag : Flag) (text : Option String) : Outcome Unit Given := do
  if (given.lookup flag.name).isSome then .error (.error ())
  else
    let argument ←
      match flag.taken, text with
      | .nothing, none => .ok .nothing
      | _, none => .error (.error ())
      | taken, some text => taken.read text
    return given ++ [(flag.name, argument)]

/-- Reads the options of a command. -/
def readFlags (command : Command) : Given → List String → Invocation
  | given, [] => .run command given
  | given, word :: rest =>
    if word = "--" then if rest.isEmpty then .run command given else .refused
    else
      match Word.read command.flags word with
      | .help => .help (.command command)
      | .unknown => .refused
      | .option flag text =>
        if text.isSome || flag.taken = .nothing then
          match given.take flag text with
          | .ok given => readFlags command given rest
          | .error stop => .ofStop stop
        else
          match rest with
          | [] => .refused
          | text :: rest =>
            if isValueWord text then
              match given.take flag (some text) with
              | .ok given => readFlags command given rest
              | .error stop => .ofStop stop
            else .refused

/-- What the words behind `help` ask for. -/
def readHelp : List String → Invocation
  | [] => .help .program
  | ["help"] => .help .help
  | [name] =>
    match Command.all.find? (·.name = name) with
    | some command => .help (.command command)
    | none => .refused
  | _ => .refused

/-- Reads a command line. -/
def Invocation.read (words : List String) : Invocation :=
  match words with
  | [] => .refused
  | word :: rest =>
    if word = "--help" || word.startsWith "-h" then .help .program
    else if word = "--version" || word.startsWith "-V" then .version
    else if word = "help" then readHelp rest
    else
      match Command.all.find? (·.name = word) with
      | some command => readFlags command [] rest
      | none => .refused

end ShopTraffic.CommandLine
