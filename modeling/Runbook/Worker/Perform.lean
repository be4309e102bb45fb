/-
# Carrying out plans

A plan says what an attempt does; a performer says how each of those things is
done, in a monad of its own.
-/

import Runbook.Worker.Basic

namespace Runbook

/-- How an attempt ends by itself. -/
inductive AttemptEnd where
  | value (v : Json)
  | error (cause : WorkerError)
  | panic (message : String)

/-- How the things in a plan are done. -/
structure Performer (m : Type → Type) where
  hang : m AttemptEnd
  wait : Nat → m Unit
  stop : String → m Unit
  ask : InferenceRequest → m (Except InferenceError Json)
  load : String → m (Option ByteArray)
  now : m Instant

/-- Carries out a plan. -/
def Plan.perform {m : Type → Type} [Monad m] (p : Performer m) : Plan → m AttemptEnd
  | .answer (.ok v) => pure (.value v)
  | .answer (.error e) => pure (.error e)
  | .panic message => pure (.panic message)
  | .hang => p.hang
  | .wait ms next => do
    p.wait ms
    next.perform p
  | .stop jobId next => do
    p.stop jobId
    next.perform p
  | .ask request next => do
    let reply ← p.ask request
    (next reply).perform p
  | .load path next => do
    let bytes ← p.load path
    (next bytes).perform p
  | .now next => do
    let t ← p.now
    (next t).perform p

end Runbook
