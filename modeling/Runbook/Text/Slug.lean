/-
# Slugs

The slug of a text is made of its alphanumeric characters in lower case; every
run of other characters between them becomes one `-`.
-/

import Runbook.Text.Alphanumeric
import Runbook.Text.Lower
import Runbook.Text.Split

namespace Runbook
namespace Text

/-- Adds one character to the slug so far, which is held last character first. -/
def slugStep (slug : List Char) (c : Char) : List Char :=
  if isAlphanumeric c then (lowerChar c).reverse ++ slug
  else if slug.head? = some '-' then slug
  else '-' :: slug

/-- The slug of a text. -/
def slug (cs : List Char) : List Char := stripChar '-' (cs.foldl slugStep []).reverse

end Text
end Runbook
