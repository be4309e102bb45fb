/-
# Hosts

A host does for a program what it cannot do by itself: files, clock, network,
output, and tasks that run beside each other.  A program is written for any host
(`m` is the monad of its actions), so it can be run on a real one and reasoned
about on one in memory.
-/

import Runbook.Engine.Attempt
import Runbook.FileTree
import Runbook.Text.Utf8
import Runbook.Web.Client

namespace Runbook

/-- What a host can do.  A failure comes with the system's own text. -/
structure Host (m : Type → Type) where
  now : m Instant
  newId : m String
  environment : (name : String) → m (Option String)
  load : (path : String) → m (Except String ByteArray)
  store : (path : String) → (bytes : ByteArray) → m (Except String Unit)
  append : (path : String) → (bytes : ByteArray) → m (Except String Unit)
  makeDirectories : (path : String) → m (Except String Unit)
  isDirectory : (path : String) → m Bool
  entries : (path : String) → m (Except String (List FileEntry))
  send : (timeoutSecs : Nat) → WebRequest → m (Except String WebReply)
  sleep : (ms : Nat) → m Unit
  /-- Gives up what takes longer than the limit. -/
  within : (ms : Nat) → m AttemptEnd → m (Option AttemptEnd)
  /-- Begins something beside what is going on. -/
  spawn : m Outcome → m Unit
  /-- Waits for the next thing that was begun to end; none if nothing is left. -/
  await : m (Option Outcome)
  print : (line : String) → m Unit
  printError : (line : String) → m Unit
  printLog : (line : String) → m Unit

namespace Host

variable {m : Type → Type} [Monad m]

/-- The text of a failure to read octets as characters. -/
def notText : String := "not a UTF-8 text"

/-- The web library that sends its messages on the host. -/
def web (h : Host m) : WebLibrary m := .sending h.send

/-- The characters of a file. -/
def loadText (h : Host m) (path : String) : m (Except String (List Char)) := do
  match ← h.load path with
  | .error detail => return .error detail
  | .ok bytes =>
    match Text.decode? bytes with
    | none => return .error notText
    | some cs => return .ok cs

end Host
end Runbook
