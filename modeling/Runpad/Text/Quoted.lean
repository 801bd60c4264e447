/-
  A text in double quotes, for messages: what cannot be seen, or would be read
  as part of the quoting, is written as an escape.

  * `quote` is the quoted text; the backslash and the double quote get a
    backslash, five controls have an escape of their own, and a character that
    extends its neighbour or has no printed form is written by its code.
-/
import Runpad.Text.Property.Extending
import Runpad.Text.Property.Unprintable

namespace Runpad.Text

/-- A code in hexadecimal digits, small letters and no leading zero. -/
def hexadecimal (code : Nat) : Text :=
  Nat.toDigits 16 code

/-- How a character stands between double quotes. -/
def quoteChar (c : Char) : Text :=
  if c = '\x00' then "\\0".toList
  else if c = '\t' then "\\t".toList
  else if c = '\n' then "\\n".toList
  else if c = '\r' then "\\r".toList
  else if c = '"' || c = '\\' then ['\\', c]
  else if Property.isExtending c || !Property.isPrintable c then
    "\\u\x7b".toList ++ hexadecimal c.toNat ++ "\x7d".toList
  else [c]

/-- A text in double quotes. -/
def quote (t : Text) : Text :=
  '"' :: t.flatMap quoteChar ++ ['"']

end Runpad.Text
