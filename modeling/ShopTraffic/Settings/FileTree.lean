import ShopTraffic.Settings.File

/-!
# Trees of files

Files held in memory, found by their paths as a system finds them: name by name from the root or from
the place where the program runs, where an empty name and a dot stay and two dots go back.

* `FileTree` — files and directories; `FileTree.walk` — where names lead;
* `FileTree.files` — the files of a tree by their paths.
-/

namespace ShopTraffic

inductive FileTree where
  | file (text : String)
  | directory (entries : List (String × FileTree))
  deriving Repr

namespace FileTree

/-- Where names lead from a place, given with the places above it. A name has at most 255 bytes. -/
def walk (here : FileTree) (above : List FileTree) : List String → Except FileProblem FileTree
  | [] => .ok here
  | name :: rest =>
    match here with
    | .file _ => .error .notDirectory
    | .directory entries =>
      if name = "" ∨ name = "." then walk here above rest
      else if name = ".." then
        match above with
        | [] => walk here [] rest
        | place :: above => walk place above rest
      else if 255 < name.utf8ByteSize then .error .longName
      else
        match entries.lookup name with
        | some place => walk place (here :: above) rest
        | none => .error .missing

/-- The names of a path: what stands between its slashes. -/
def namesOf (path : String) : List String := path.splitOn "/"

/-- The files of a tree by their paths, seen from a place that lies `depth` directories below the
root, all of them empty. A path has less than 4096 bytes. -/
def files (root : FileTree) (depth : Nat) : Files := fun path =>
  if path.toList.contains '\x00' then .error .zeroChar
  else if 4096 ≤ path.utf8ByteSize then .error .longName
  else if path.isEmpty then .error .missing
  else
    let places := List.replicate depth (directory []) ++ [root]
    let found :=
      if path.startsWith "/" then walk root [] (namesOf path)
      else walk (places.headD root) places.tail (namesOf path)
    match found with
    | .ok (.file text) => .ok text
    | .ok (.directory _) => .error .directory
    | .error problem => .error problem

end FileTree

end ShopTraffic
