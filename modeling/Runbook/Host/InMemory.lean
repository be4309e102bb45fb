/-
# A host in memory

A host that touches nothing outside: files are in a file tree, the inference
service has its replies in store, each look at the clock takes a millisecond, and
what is begun ends before anything else happens.
-/

import Runbook.Host
import Runbook.Web.Wire

namespace Runbook

/-- The state of a host in memory. -/
structure InMemory where
  files : FileTree := {}
  clock : Nat := 1700000000000
  freshId : String := "0"
  environment : Dict String := .empty
  service : String × Nat := ("127.0.0.1", 9)
  replies : List WebReply := []
  sent : List WebRequest := []
  outcomes : List Outcome := []
  printed : List String := []
  errors : List String := []
  log : List String := []
  wording : FileFault → String := FileFault.message
deriving Inhabited

namespace InMemory

/-- The present instant. -/
def now : StateM InMemory Instant := do
  let s ← get
  set { s with clock := s.clock + 1 }
  return ⟨s.clock⟩

/-- Looks at the files. -/
def look (f : FileTree → Except FileFault α) : StateM InMemory (Except String α) := do
  let s ← get
  return (f s.files).mapError s.wording

/-- Changes the files, if the change can be made. -/
def change (f : FileTree → Except FileFault FileTree) : StateM InMemory (Except String Unit) := do
  let s ← get
  match f s.files with
  | .error e => return .error (s.wording e)
  | .ok files =>
    set { s with files }
    return .ok ()

/-- A file with octets added at its end. -/
def appended (path : String) (bytes : ByteArray) (t : FileTree) : Except FileFault FileTree :=
  match t.load path with
  | .ok old => t.store path (old ++ bytes)
  | .error .notFound => t.store path bytes
  | .error e => .error e

/-- Sends a message.  Only the inference service answers, without a secured
connection, and with null when its replies are used up. -/
def send (r : WebRequest) : StateM InMemory (Except String WebReply) := do
  let s ← get
  if r.address.secure || (r.address.host, r.address.port) ≠ s.service then
    return .error "no connection"
  else
    let s : InMemory := { s with sent := s.sent ++ [r] }
    match s.replies with
    | [] =>
      set s
      return .ok { status := 200, body := "null".toUTF8 }
    | reply :: replies =>
      set { s with replies }
      match reply.arriving? with
      | some reply => return .ok reply
      | none => return .error "not a web reply"

/-- Gives up what takes longer than a limit.  What was given up has been done all
the same, but the clock stands at the limit. -/
def within (ms : Nat) (x : StateM InMemory AttemptEnd) :
    StateM InMemory (Option AttemptEnd) := do
  let start := (← get).clock
  let e ← x
  let s ← get
  if s.clock ≤ start + ms then return some e
  else
    set { s with clock := start + ms }
    return none

/-- Takes the first outcome. -/
def await : StateM InMemory (Option Outcome) := do
  let s ← get
  match s.outcomes with
  | [] => return none
  | outcome :: outcomes =>
    set { s with outcomes }
    return some outcome

/-- The host. -/
def host : Host (StateM InMemory) :=
  { now
    newId := return (← get).freshId
    environment := fun name => return (← get).environment.get? name
    load := fun path => look fun t => t.load path
    store := fun path bytes => change fun t => t.store path bytes
    append := fun path bytes => change (appended path bytes)
    makeDirectories := fun path => change fun t => t.makeDirectories path
    isDirectory := fun path => return (← get).files.isDirectory path
    entries := fun path => look fun t => t.entries path
    send := fun _ r => send r
    sleep := fun ms => modify fun s => { s with clock := s.clock + ms }
    within
    spawn := fun x => do
      let outcome ← x
      modify fun s => { s with outcomes := s.outcomes ++ [outcome] }
    await
    print := fun line => modify fun s => { s with printed := s.printed ++ [line] }
    printError := fun line => modify fun s => { s with errors := s.errors ++ [line] }
    printLog := fun line => modify fun s => { s with log := s.log ++ [line] } }

end InMemory
end Runbook
