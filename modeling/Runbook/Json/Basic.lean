/-
# JSON values

Numbers are whole numbers of the 64-bit range, kept exactly, or doubles.  The
fields of an object stand in the order in which they are written; the reader
gives them in ascending order of their names, each name once.
-/

import Runbook.Dict
import Runbook.Double.Basic

namespace Runbook

/-- A JSON number: whole numbers of the 64-bit range are exact, all others are
doubles. -/
inductive Json.Number where
  | whole (n : Int)
  | double (x : Double)
deriving DecidableEq

/-- A JSON value. -/
inductive Json where
  | null
  | bool (b : Bool)
  | number (n : Json.Number)
  | string (s : String)
  | array (items : List Json)
  | object (fields : List (String × Json))

namespace Json

instance : Inhabited Json := ⟨.null⟩

/-- A whole number. -/
def ofNat (n : Nat) : Json := .number (.whole n)

/-- The strings of a list. -/
def ofStrings (ss : List String) : Json := .array (ss.map .string)

/-- The value, or null. -/
def ofOption (f : α → Json) : Option α → Json
  | none => .null
  | some a => f a

/-- The entries of a dictionary, in its order. -/
def ofDict (f : α → Json) (d : Dict α) : Json := .object (d.entries.map fun e => (e.1, f e.2))

/-- The entries of a dictionary of values. -/
def ofValues (d : Dict Json) : Json := .object d.entries

/-- An object with its fields in ascending order of their names. -/
def ofFields (fields : List (String × Json)) : Json := .object (Dict.ofList fields).entries

/-- Whether the value is null. -/
def isNull : Json → Bool
  | .null => true
  | _ => false

/-- The field of an object. -/
def field? (k : String) : Json → Option Json
  | .object fields => lookupEntry k fields
  | _ => none

/-- The fields of an object. -/
def fields? : Json → Option (Dict Json)
  | .object fields => some (.ofList fields)
  | _ => none

/-- The text of a string. -/
def string? : Json → Option String
  | .string s => some s
  | _ => none

end Json
end Runbook
