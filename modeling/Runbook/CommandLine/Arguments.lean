/-
# Arguments

The arguments of the program name a command, after switches that all commands
share and before its own switches and operands.  What is asked for may also be
help or the version; anything else is misuse, and the first thing that decides
does so.
-/

import Runbook.CommandLine.Switch
import Runbook.Dict
import Runbook.Text.Blank

namespace Runbook

/-- What the program is asked to do. -/
inductive Command where
  | ask (prompt : String) (schema : Option String) (internet json : Bool)
  | list (dir : Option String)
  | validate (file : String)
  | run (file : String) (parameters : List (String × String)) (noReport : Bool)
      (dump : Option String)
deriving DecidableEq

/-- A command with what all commands share. -/
structure Invocation where
  command : Command
  config : Option String
  verbose : Bool
deriving DecidableEq

/-- Arguments that invoke no command.  Help is asked for on a command or on all. -/
inductive NoInvocation where
  | help (command : Option String)
  | version
  | misuse
deriving DecidableEq

/-- The same behind the name of a command. -/
def NoInvocation.within (command : String) : NoInvocation → NoInvocation
  | .help _ => .help (some command)
  | .version => .version
  | .misuse => .misuse

namespace Arguments

/-- Whether a text can be a path. -/
def isPath (s : String) : Bool := !s.isEmpty

/-- A key and its value, of the form `KEY=VALUE`.  The key counts without the
blanks around it. -/
def parameter? (s : String) : Option (String × String) :=
  match Text.splitFirst '=' s.toList with
  | none => none
  | some (key, value) =>
    if key.all Text.isBlank then none
    else some (String.ofList (Text.trim key), String.ofList value)

/-- The switches that every command has. -/
def sharedSwitches : List Switch :=
  [{ name := "config", accepts := isPath }, { name := "verbose", letter := 'v' },
   { name := "help", letter := 'h' }]

/-- The switches in front of the command. -/
def leadingSwitches : List Switch := { name := "version", letter := 'V' } :: sharedSwitches

/-- A command's own switches, and the operands it requires, each as a test of
what can stand there. -/
def signature? : (command : String) → Option (List Switch × List (String → Bool))
  | "ask" =>
    some
      ([{ name := "schema", letter := 's', accepts := isPath },
        { name := "context", letter := 'c' }, { name := "json", letter := 'j' }],
       [fun _ => true])
  | "list" => some ([{ name := "dir", letter := 'd', accepts := isPath }], [])
  | "validate" => some ([], [isPath])
  | "run" =>
    some
      ([{ name := "param", letter := 'p', accepts := some fun s => (parameter? s).isSome,
          repeatable := true },
        { name := "no-report" }, { name := "dump", accepts := isPath }],
       [isPath])
  | _ => none

/-- What has been given: the values of switches and the operands, in order. -/
structure Given where
  values : List (String × String) := []
  operands : List String := []

namespace Given

/-- Whether a switch has been given. -/
def has (g : Given) (name : String) : Bool := g.values.any fun v => v.1 == name

/-- The values of a switch. -/
def all (g : Given) (name : String) : List String :=
  (g.values.filter fun v => v.1 == name).map (·.2)

/-- The value of a switch. -/
def value? (g : Given) (name : String) : Option String := (g.all name).head?

end Given

/-- Takes in what was read; `operands` are the tests of those still to come. -/
def take (operands : List (String → Bool)) : Given → List Token → Except NoInvocation Given
  | g, [] => if operands.isEmpty then .ok g else .error .misuse
  | _, .fault :: _ => .error .misuse
  | g, .operand text :: tokens =>
    match operands with
    | [] => .error .misuse
    | test :: operands =>
      if test text then take operands { g with operands := g.operands ++ [text] } tokens
      else .error .misuse
  | g, .switch s value :: tokens =>
    if s.name = "help" then .error (.help none)
    else if s.name = "version" then .error .version
    else if g.has s.name && !s.repeatable then .error .misuse
    else if s.accepts.all fun test => test value then
      take operands { g with values := g.values ++ [(s.name, value)] } tokens
    else .error .misuse

/-- The command of a name with what was given for it. -/
def command? (name : String) (g : Given) : Option Command :=
  match name, g.operands with
  | "ask", [prompt] => some (.ask prompt (g.value? "schema") (g.has "context") (g.has "json"))
  | "list", [] => some (.list (g.value? "dir"))
  | "validate", [file] => some (.validate file)
  | "run", [file] =>
    some (.run file ((g.all "param").filterMap parameter?) (g.has "no-report") (g.value? "dump"))
  | _, _ => none

/-- What becomes of a request for help on commands. -/
def help (commands : List String) : NoInvocation :=
  match commands with
  | [] => .help none
  | [name] => if name = "help" || (signature? name).isSome then .help (some name) else .misuse
  | _ => .misuse

/-- Reads the arguments.  Where a shared switch is given in front of the command
and after it, what comes after counts. -/
def parse (args : List String) : Except NoInvocation Invocation := do
  let (tokens, rest) := Switch.scan leadingSwitches true none args
  let leading ← take [] {} tokens
  let name :: rest := rest | throw .misuse
  if name = "help" then throw (help rest)
  let some (switches, operands) := signature? name | throw .misuse
  let (tokens, _) := Switch.scan (switches ++ sharedSwitches) false none rest
  let given ← (take operands {} tokens).mapError (NoInvocation.within name)
  let some command := command? name given | throw .misuse
  return {
    command
    config := (given.value? "config").or (leading.value? "config")
    verbose := given.has "verbose" || leading.has "verbose" }

end Arguments
end Runbook
