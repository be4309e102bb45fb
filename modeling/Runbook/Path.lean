/-
# Paths of files

A path is a text whose components stand between slashes.  Empty components and
single dots say nothing and are passed over; two dots name no file.
-/

import Runbook.Text.Split

namespace Runbook
namespace Path

/-- The components of a path that say something. -/
def components (path : String) : List (List Char) :=
  (Text.splitAll '/' path.toList).filter fun c => !c.isEmpty && c ≠ ['.']

/-- The steps that a path takes: to the root, which has the empty text, or to the
current directory, if it names one of them in front, and then by its components.
Paths with the same steps are the same. -/
def steps (path : String) : List (List Char) :=
  match Text.splitAll '/' path.toList with
  | [] :: _ :: _ => [] :: components path
  | ['.'] :: _ => ['.'] :: components path
  | _ => components path

/-- The name of the file at the end of a path. -/
def fileName? (path : String) : Option (List Char) :=
  (components path).getLast?.filter fun c => c ≠ ['.', '.']

/-- The parts of a name before and after its last dot.  A dot in front of the
name does not count. -/
def splitExtension (name : List Char) : List Char × Option (List Char) :=
  match Text.splitFirst '.' name.reverse with
  | none => (name, none)
  | some (_, []) => (name, none)
  | some (after, before) => (before.reverse, some after.reverse)

/-- The name of the file without its extension. -/
def stem? (path : String) : Option String :=
  (fileName? path).map fun n => String.ofList (splitExtension n).1

/-- The extension of the file's name. -/
def extension? (path : String) : Option String :=
  (fileName? path).bind fun n => (splitExtension n).2.map String.ofList

/-- Whether a path starts at the root. -/
def isAbsolute (path : String) : Bool := path.toList.head? = some '/'

/-- The directory that a file is in, the current one if the path names none. -/
def parent (path : String) : String :=
  let names := (components path).dropLast.map String.ofList
  if isAbsolute path then "/" ++ "/".intercalate names
  else if names.isEmpty then "."
  else "/".intercalate names

/-- The directories that a path goes through, the nearest to its end first. -/
def ancestors (path : String) : List String :=
  let names := (components path).map String.ofList
  let start := if isAbsolute path then "/" else ""
  ((List.range names.length).reverse.map fun n => start ++ "/".intercalate (names.take n)).filter
    fun dir => !dir.isEmpty

/-- A path inside a directory; an absolute path stands for itself. -/
def join (dir path : String) : String :=
  if isAbsolute path || dir.isEmpty then path
  else if dir.toList.getLast? = some '/' then dir ++ path
  else dir ++ "/" ++ path

/-- The path of the file at the end of a path, with nothing behind its name. -/
def file (path : String) : String :=
  join (parent path) (String.ofList ((fileName? path).getD []))

end Path
end Runbook
