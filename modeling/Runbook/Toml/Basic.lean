/-
# Configuration documents: values and tables

A document is a tree of tables.  It is given as statements, each of which names
a table by a header or sets a key of the table named last.  A name can be given
once: a header may name a table that only headers below it have brought about,
and dotted keys may add to a table that only dotted keys have brought about.
-/

import Runbook.Dict

namespace Runbook

/-- A value of a document.  `other` is one of a kind that nothing is made of, by
its text: a floating-point number, a date, a time, or digits that are no number. -/
inductive Toml where
  | string (s : String)
  | integer (n : Int)
  | boolean (b : Bool)
  | other (text : String)
  | array (items : List Toml)
  | table (entries : List (String × Toml))

instance : Inhabited Toml := ⟨.table []⟩

namespace Toml

/-- What brought a table about: a header with its name, only headers of tables
in it, or dotted keys. -/
inductive Origin where
  | header
  | below
  | dotted
deriving DecidableEq

/-- A table that can still grow, or a finished value. -/
inductive Tree where
  | leaf (v : Toml)
  | node (origin : Origin) (children : List (String × Tree))

/-- The tree of a key among the children of a node. -/
def child? (key : String) (children : List (String × Tree)) : Option Tree :=
  lookupEntry key children

/-- The children with the tree of one key set. -/
def setChild (key : String) (t : Tree) : List (String × Tree) → List (String × Tree)
  | [] => [(key, t)]
  | e :: es => if e.1 = key then (key, t) :: es else e :: setChild key t es

/-- Names a table by a header. -/
def openTable : (path : List String) → List (String × Tree) → Option (List (String × Tree))
  | [], _ => none
  | [key], children =>
    match child? key children with
    | none => some (setChild key (.node .header []) children)
    | some (.node .below cs) => some (setChild key (.node .header cs) children)
    | some _ => none
  | key :: path, children =>
    match child? key children with
    | none => (openTable path []).map fun cs => setChild key (.node .below cs) children
    | some (.node o cs) =>
      (openTable path cs).map fun cs => setChild key (.node o cs) children
    | some (.leaf _) => none

/-- Sets a key, which may be dotted, of the table with these children. -/
def assign (v : Toml) : (path : List String) → List (String × Tree) → Option (List (String × Tree))
  | [], _ => none
  | [key], children =>
    match child? key children with
    | none => some (setChild key (.leaf v) children)
    | some _ => none
  | key :: path, children =>
    match child? key children with
    | none => (assign v path []).map fun cs => setChild key (.node .dotted cs) children
    | some (.node .dotted cs) =>
      (assign v path cs).map fun cs => setChild key (.node .dotted cs) children
    | some _ => none

/-- Sets a key of the table that a header has named. -/
def assignIn (v : Toml) (path : List String) :
    (header : List String) → List (String × Tree) → Option (List (String × Tree))
  | [], children => assign v path children
  | key :: header, children =>
    match child? key children with
    | some (.node o cs) =>
      (assignIn v path header cs).map fun cs => setChild key (.node o cs) children
    | _ => none

mutual

/-- The value of a tree. -/
def Tree.value : Tree → Toml
  | .leaf v => v
  | .node _ children => .table (entriesOf children)

/-- The entries of a table with these children. -/
def entriesOf : List (String × Tree) → List (String × Toml)
  | [] => []
  | (key, t) :: es => (key, t.value) :: entriesOf es

end

/-- One statement of a document. -/
inductive Statement where
  | header (path : List String)
  | assign (path : List String) (v : Toml)

/-- The entries of a document; `header` names the table of the next keys. -/
def build (header : List String) (children : List (String × Tree)) :
    List Statement → Option (List (String × Toml))
  | [] => some (entriesOf children)
  | .header path :: rest => (openTable path children).bind fun cs => build path cs rest
  | .assign path v :: rest => (assignIn v path header children).bind fun cs => build header cs rest

/-- The entries of an inline table. -/
def inlineEntries (children : List (String × Tree)) :
    List (List String × Toml) → Option (List (String × Toml))
  | [] => some (entriesOf children)
  | (path, v) :: rest => (assign v path children).bind fun cs => inlineEntries cs rest

end Toml
end Runbook
