/-
# Loading settings
-/

import Runbook.Host
import Runbook.Settings.Reader

namespace Runbook
namespace Host

variable {m : Type → Type} [Monad m]

/-- The settings of a document, or the defaults, with the token of the
environment in the place of their own. -/
def loadSettings (h : Host m) (path : Option String) : m (Except SettingsError Settings) := do
  let settings ←
    match path with
    | none => pure (.ok {})
    | some path =>
      match ← h.loadText path with
      | .error detail => pure (.error (.unreadable detail))
      | .ok text => pure (Settings.parse text)
  let token ← h.environment tokenVariable
  return settings.map fun s => s.withToken token

end Host
end Runbook
