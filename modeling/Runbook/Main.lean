/-
# The program on this machine

The host that a real machine is, and the program's entry.  Tasks that run beside
each other are threads.
-/

import Runbook.CommandLine.Program
import Runbook.Web.Wire
import Std.Async.DNS
import Std.Async.TCP
import Std.Time

namespace Runbook
namespace Machine

/-- The result of an action, or the system's text if it fails. -/
def attempt (x : IO α) : IO (Except String α) := do
  try return .ok (← x) catch e => return .error (toString e)

/-- The present instant. -/
def now : IO Instant := do
  let t ← Std.Time.Timestamp.now
  return ⟨t.toMillisecondsSinceUnixEpoch.val.toNat⟩

/-- Two digits of base sixteen for an octet. -/
def hexOctet (b : UInt8) : List Char :=
  [Nat.digitChar (b.toNat / 16), Nat.digitChar (b.toNat % 16)]

/-- A random identifier of version four. -/
def newId : IO String := do
  let bytes := (← IO.getRandomBytes 16).toList
  let bytes := bytes.mapIdx fun i b =>
    if i = 6 then b % 16 + 64 else if i = 8 then b % 64 + 128 else b
  let digits := bytes.flatMap hexOctet
  let part (start size : Nat) : String := String.ofList ((digits.drop start).take size)
  return "-".intercalate [part 0 8, part 8 4, part 12 4, part 16 4, part 20 12]

/-- Looks every few milliseconds whether a task has ended. -/
def watch (t : Std.Async.AsyncTask α) : (looks : Nat) → IO Bool
  | 0 => IO.hasFinished t
  | looks + 1 => do
    if ← IO.hasFinished t then return true
    IO.sleep 5
    watch t looks

/-- Gives up an action that takes longer than a limit. -/
def within (ms : Nat) (x : IO α) : IO (Option α) := do
  let t ← IO.asTask x .dedicated
  if ← watch t ((ms + 4) / 5) then return some (← IO.ofExcept t.get)
  IO.cancel t
  return none

/-- The tasks that have been begun and not been waited for. -/
structure Crew where
  begun : Nat := 0
  running : List (Nat × Std.Async.AsyncTask Outcome) := []

/-- Begins something beside what is going on. -/
def spawn (crew : IO.Ref Crew) (x : IO Outcome) : IO Unit := do
  let t : Std.Async.AsyncTask Outcome ← IO.asTask x .dedicated
  crew.modify fun c => ⟨c.begun + 1, c.running ++ [(c.begun, t)]⟩

/-- Waits for the first of the tasks to end. -/
def await (crew : IO.Ref Crew) : IO (Option Outcome) := do
  match (← crew.get).running with
  | [] => return none
  | first :: rest =>
    let tagged (e : Nat × Std.Async.AsyncTask Outcome) :=
      Task.map (fun outcome => (e.1, outcome)) e.2
    let (number, outcome) ← IO.waitAny (tagged first :: rest.map tagged) (Nat.zero_lt_succ _)
    crew.modify fun c => { c with running := c.running.filter fun e => e.1 != number }
    return some (← IO.ofExcept outcome)

/-- All that the other side of a connection says. -/
def receive (c : Std.Async.TCP.Socket.Client) : (fuel : Nat) → ByteArray →
    Std.Async.Async ByteArray
  | 0, said => return said
  | fuel + 1, said => do
    match ← c.recv? 65536 with
    | none => return said
    | some bytes => receive c fuel (said ++ bytes)

/-- An address to connect to. -/
def socketAddress (address : Std.Net.IPAddr) (port : UInt16) : Std.Net.SocketAddress :=
  match address with
  | .v4 addr => .v4 ⟨addr, port⟩
  | .v6 addr => .v6 ⟨addr, port⟩

/-- Sends a request over a connection of its own, and reads what comes back. -/
def exchange (r : WebRequest) : IO ByteArray := Std.Async.Async.block do
  let host := String.ofList (r.address.host.toList.filter fun c => c != '[' && c != ']')
  let addresses ← Std.Async.DNS.getAddrInfo host ""
  match addresses[0]? with
  | none => throw (.userError "no such host")
  | some address =>
    let c ← Std.Async.TCP.Socket.Client.mk
    c.connect (socketAddress address r.address.port.toUInt16)
    c.send r.octets
    receive c 0x10000000000 .empty

/-- Sends a request. -/
def send (timeoutSecs : Nat) (r : WebRequest) : IO (Except String WebReply) := do
  if r.address.secure then return .error "secured connections are not available"
  match ← attempt (within (1000 * timeoutSecs) (exchange r)) with
  | .error detail => return .error detail
  | .ok none => return .error "operation timed out"
  | .ok (some bytes) =>
    match WebReply.read? bytes with
    | none => return .error "not a web reply"
    | some reply => return .ok reply

/-- Adds octets at the end of a file. -/
def append (path : String) (bytes : ByteArray) : IO Unit :=
  IO.FS.withFile path .append fun file => file.write bytes

/-- What stands in a directory. -/
def entries (path : String) : IO (List FileEntry) := do
  let found ← (← IO.FS.realPath path).readDir
  found.toList.mapM fun e => do
    let data ← e.path.symlinkMetadata
    return ⟨e.fileName, data.type == .file, data.byteSize.toNat⟩

/-- This machine as a host. -/
def host (crew : IO.Ref Crew) : Host IO :=
  { now
    newId
    environment := fun name => IO.getEnv name
    load := fun path => attempt (IO.FS.readBinFile path)
    store := fun path bytes => attempt (IO.FS.writeBinFile path bytes)
    append := fun path bytes => attempt (append path bytes)
    makeDirectories := fun path => attempt (IO.FS.createDirAll path)
    isDirectory := fun path => do
      match ← attempt (IO.FS.realPath path) with
      | .error _ => return false
      | .ok real => real.isDir
    entries := fun path => attempt (entries path)
    send
    sleep := fun ms => IO.sleep ms.toUInt32
    within := fun ms x => within ms x
    spawn := spawn crew
    await := await crew
    print := fun line => IO.println line
    printError := fun line => IO.eprintln line
    printLog := fun line => IO.eprintln line }

end Machine
end Runbook

/-- Runs the program. -/
def main (args : List String) : IO UInt32 := do
  let crew ← IO.mkRef {}
  (Runbook.Machine.host crew).program args
