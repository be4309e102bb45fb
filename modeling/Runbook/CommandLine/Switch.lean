/-
# Switches

The arguments of a command are switches and operands.  A switch is written with
its long name after two hyphens, or with its letter after one; letters may stand
together.  The value of a switch stands in the same argument, perhaps after an
equals sign, or in the next one, where it may not look like a switch.  After `--`
all arguments are operands.
-/

import Runbook.Text.Split

namespace Runbook

/-- A switch of a command.  One that takes a value says which ones it accepts. -/
structure Switch where
  name : String
  letter : Option Char := none
  accepts : Option (String → Bool) := none
  repeatable : Bool := false

/-- What is read off arguments.  A fault ends what can be said of them. -/
inductive Token where
  | switch (s : Switch) (value : String)
  | operand (text : String)
  | fault

namespace Switch

/-- Whether a text looks like a switch. -/
def isDashed (text : String) : Bool := text.toList.head? = some '-' && text ≠ "-"

/-- Reads letters of switches.  The answer is what was read, and the switch whose
value is still to come. -/
def readLetters (switches : List Switch) : List Char → List Token × Option Switch
  | [] => ([], none)
  | c :: cs =>
    match switches.find? fun s => s.letter == some c with
    | none => ([.fault], none)
    | some s =>
      if s.accepts.isNone then
        let (tokens, pending) := readLetters switches cs
        (.switch s "" :: tokens, pending)
      else if cs.isEmpty then ([], some s)
      else ([.switch s (String.ofList ((Text.dropStart? ['='] cs).getD cs))], none)

/-- Reads the long name of a switch, perhaps with a value. -/
def readName (switches : List Switch) (cs : List Char) : List Token × Option Switch :=
  let (name, value) :=
    match Text.splitFirst '=' cs with
    | none => (cs, none)
    | some (name, value) => (name, some value)
  match switches.find? fun s => s.name.toList == name with
  | none => ([.fault], none)
  | some s =>
    match s.accepts.isSome, value with
    | true, some value => ([.switch s (String.ofList value)], none)
    | true, none => ([], some s)
    | false, none => ([.switch s ""], none)
    | false, some _ => ([.fault], none)

/-- Reads arguments; `pending` is the switch whose value comes next.  With
`stopping` the first operand, and what follows it, is left. -/
def scan (switches : List Switch) (stopping : Bool) :
    (pending : Option Switch) → List String → List Token × List String
  | none, [] => ([], [])
  | some _, [] => ([.fault], [])
  | some s, arg :: args =>
    if isDashed arg then ([.fault], [])
    else
      let (tokens, rest) := scan switches stopping none args
      (.switch s arg :: tokens, rest)
  | none, arg :: args =>
    if arg = "--" then (args.map .operand, [])
    else
      match arg.toList with
      | '-' :: '-' :: cs =>
        let (read, pending) := readName switches cs
        let (tokens, rest) := scan switches stopping pending args
        (read ++ tokens, rest)
      | '-' :: c :: cs =>
        let (read, pending) := readLetters switches (c :: cs)
        let (tokens, rest) := scan switches stopping pending args
        (read ++ tokens, rest)
      | _ =>
        if stopping then ([], arg :: args)
        else
          let (tokens, rest) := scan switches stopping none args
          (.operand arg :: tokens, rest)

end Switch
end Runbook
