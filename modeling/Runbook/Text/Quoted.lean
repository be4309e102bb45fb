/-
# Quoted texts

A text between double quotes in which quotes, backslashes and characters that
cannot be seen are escaped, so that it stays on one line.
-/

import Runbook.Text.Unseen

namespace Runbook
namespace Text

/-- A character as it stands in a quoted text. -/
def quoteChar (c : Char) : List Char :=
  match c with
  | '\x00' => "\\0".toList
  | '\t' => "\\t".toList
  | '\n' => "\\n".toList
  | '\r' => "\\r".toList
  | '"' => "\\\"".toList
  | '\\' => "\\\\".toList
  | c =>
    if isUnseen c then
      "\\u\x7b".toList ++ Nat.toDigits 16 c.toNat ++ "\x7d".toList
    else [c]

/-- A text between double quotes. -/
def quoted (cs : List Char) : List Char := ['"'] ++ cs.flatMap quoteChar ++ ['"']

end Text
end Runbook
