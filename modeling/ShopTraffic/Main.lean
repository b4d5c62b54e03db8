import ShopTraffic.CommandLine.Run
import Std.Time.DateTime.Timestamp

/-!
# The program

Gathers what a run may learn from outside, runs it and prints its ending. The run keeps its own
time, which begins at the present. Its requests go nowhere and are answered by nobody.
-/

namespace ShopTraffic.CommandLine

/-- What is wrong with a file that could not be read. -/
def problemOf : IO.Error → FileProblem
  | .noFileOrDirectory .. | .noSuchThing .. => .missing
  | .permissionDenied .. => .denied
  | .inappropriateType _ 20 _ => .notDirectory
  | .inappropriateType .. => .directory
  | .invalidArgument _ 36 _ | .resourceExhausted _ 36 _ => .longName
  | _ => .notText

/-- Reads the settings file that a command line names. -/
def gatherFiles (words : List String) : IO Files := do
  let .run _ given := Invocation.read words | return fun _ => .error .missing
  let some path := Given.text? given "config" | return fun _ => .error .missing
  let found ← (IO.FS.readFile path).toBaseIO
  return fun asked =>
    if asked = path then found.mapError problemOf else .error .missing

/-- The present and a number that nobody can foresee. -/
def gatherWorld (words : List String) : IO World := do
  let files ← gatherFiles words
  let present ← Std.Time.Timestamp.now
  let bytes ← IO.getRandomBytes 8
  return {
    files
    now := .cap present.toMillisecondsSinceUnixEpoch.val.toNat
    entropy := bytes.toList.foldl (fun n byte => n * 256 + byte.toNat) 0
    exchange := fun _ => none }

end ShopTraffic.CommandLine

open ShopTraffic.CommandLine in
/-- Runs the program and hands its status to the shell. -/
def main (words : List String) : IO UInt32 := do
  let ending := run (← gatherWorld words) words
  for line in ending.output do
    IO.println line
  unless ending.error.isEmpty do
    IO.eprintln ending.error
  for notice in ending.notices do
    IO.eprintln notice.line
  return ending.code.toUInt32
