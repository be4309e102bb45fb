/-
# File trees

A tree of directories and files.  A path is walked one component at a time from
the root or from the current directory; every component but the last has to lead
to a directory that exists.
-/

import Runbook.Dict
import Runbook.Path

namespace Runbook

/-- What stands at a place of a tree. -/
inductive FileNode where
  | directory
  | file (bytes : ByteArray)

/-- The places of a tree, each under the names on the way to it, with slashes
between them, and the place of the current directory.  The root is always there. -/
structure FileTree where
  nodes : Dict FileNode := .empty
  here : List String := []
deriving Inhabited

/-- What a directory tells of one of its places. -/
structure FileEntry where
  name : String
  isFile : Bool
  size : Nat

/-- Why something cannot be done in a tree. -/
inductive FileFault where
  | notFound
  | notADirectory
  | isADirectory
  | alreadyThere
  | badName
deriving DecidableEq

/-- The wording of a fault. -/
def FileFault.message : FileFault → String
  | .notFound => "no such file or directory"
  | .notADirectory => "not a directory"
  | .isADirectory => "is a directory"
  | .alreadyThere => "is already there"
  | .badName => "not a file name"

namespace FileTree

/-- The key of a place, given the names on the way to it. -/
def key (names : List String) : String := "/".intercalate names

/-- The names on the way to the place of a key. -/
def namesOf (key : String) : List String := (Text.splitAll '/' key.toList).map String.ofList

/-- What stands at a place. -/
def node? (t : FileTree) (place : List String) : Option FileNode :=
  if place.isEmpty then some .directory else t.nodes.get? (key place)

/-- The tree with something at a place. -/
def put (t : FileTree) (place : List String) (node : FileNode) : FileTree :=
  { t with nodes := t.nodes.insert (key place) node }

/-- The tree that holds nothing but a current directory. -/
def startingAt (here : List String) : FileTree :=
  (List.range here.length).foldl (fun t n => t.put (here.take (n + 1)) .directory) { here }

/-- Whether a component can be the name of a file: it has at most 255 octets. -/
def isName (name : String) : Bool := name.utf8ByteSize ≤ 255

/-- Takes one component further from a place, which has to be a directory. -/
def enter (t : FileTree) (place : List String) (component : String) :
    Except FileFault (List String) :=
  match t.node? place with
  | none => .error .notFound
  | some (.file _) => .error .notADirectory
  | some .directory =>
    if component = "" ∨ component = "." then .ok place
    else if component = ".." then .ok place.dropLast
    else if isName component then .ok (place ++ [component])
    else .error .badName

/-- Whether a text can be a path: it has at most 4095 octets, none of them zero. -/
def isPath (path : String) : Bool := path.utf8ByteSize ≤ 4095 && !path.toList.contains '\x00'

/-- The place where a path starts. -/
def start (t : FileTree) (path : String) : List String :=
  if Path.isAbsolute path then [] else t.here

/-- The place that a path leads to; there need not be anything. -/
def locate (t : FileTree) (path : String) : Except FileFault (List String) :=
  if path.isEmpty then .error .notFound
  else if isPath path then (namesOf path).foldlM t.enter (t.start path)
  else .error .badName

/-- The octets of a file. -/
def load (t : FileTree) (path : String) : Except FileFault ByteArray := do
  match t.node? (← t.locate path) with
  | some (.file bytes) => return bytes
  | some .directory => throw .isADirectory
  | none => throw .notFound

/-- The tree with a file of the given octets, in the place of an older one. -/
def store (t : FileTree) (path : String) (bytes : ByteArray) : Except FileFault FileTree := do
  let place ← t.locate path
  match t.node? place with
  | some .directory => throw .isADirectory
  | _ => return t.put place (.file bytes)

/-- Whether a path leads to a directory. -/
def isDirectory (t : FileTree) (path : String) : Bool :=
  match (t.locate path).map t.node? with
  | .ok (some .directory) => true
  | _ => false

/-- The tree with one more directory, at the end of a path; what is in front of
the last name has to be there.  Dots are no name of something new. -/
def makeDirectory (t : FileTree) (path : String) : Except FileFault FileTree := do
  let names := ((namesOf path).reverse.dropWhile (·.isEmpty)).reverse
  if path.isEmpty then throw .notFound
  if !isPath path then throw .badName
  match names.getLast? with
  | none => throw .alreadyThere
  | some last =>
    let place ← t.enter (← names.dropLast.foldlM t.enter (t.start path)) last
    if last = "." ∨ last = ".." then throw .alreadyThere
    match t.node? place with
    | some _ => throw .alreadyThere
    | none => return t.put place .directory

/-- The tree with a directory at the end of a path, which may be there already. -/
def ensureDirectory (t : FileTree) (path : String) : Except FileFault FileTree :=
  match t.makeDirectory path with
  | .ok t => .ok t
  | .error e => if t.isDirectory path then .ok t else .error e

/-- The tree with the first of some directories, each of which lies in the next.
The next ones are made only if the first cannot do without them. -/
def ensureDirectories (t : FileTree) : List String → Except FileFault FileTree
  | [] => .ok t
  | path :: above =>
    match t.makeDirectory path with
    | .error .notFound => do (← t.ensureDirectories above).ensureDirectory path
    | _ => t.ensureDirectory path

/-- The tree with a directory at the end of a path, and all directories on the
way to it.  A path that ends in dots can only lead to a directory on its way. -/
def makeDirectories (t : FileTree) (path : String) : Except FileFault FileTree :=
  if path.isEmpty then .ok t else t.ensureDirectories (path :: Path.ancestors path)

/-- The paths of all files in and below the place that a path leads to. -/
def filesBelow (t : FileTree) (path : String) : List String :=
  match t.locate path with
  | .error _ => []
  | .ok place =>
    t.nodes.entries.filterMap fun (k, node) =>
      let names := namesOf k
      match node with
      | .directory => none
      | .file _ =>
        if names.take place.length = place then
          some (Path.join path (key (names.drop place.length)))
        else none

/-- What stands in a directory, in the order of the names. -/
def entries (t : FileTree) (path : String) : Except FileFault (List FileEntry) := do
  let place ← t.locate path
  match t.node? place with
  | none => throw .notFound
  | some (.file _) => throw .notADirectory
  | some .directory =>
    return t.nodes.entries.filterMap fun (k, node) =>
      let names := namesOf k
      if names.dropLast ≠ place then none
      else
        names.getLast?.map fun name =>
          match node with
          | .directory => ⟨name, false, 0⟩
          | .file bytes => ⟨name, true, bytes.size⟩

end FileTree
end Runbook
