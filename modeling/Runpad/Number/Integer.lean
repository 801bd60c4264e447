/-
  Whole numbers in decimal digits.

  * `digits` writes a number, `ofDigits?` reads one or more digits;
  * `ofSigned?` reads digits with one optional sign, `Int64`-sized by `long?`
    and 16-bit sized by `word?`;
  * `render` writes a signed number.
-/
import Runpad.Text.Ranges

namespace Runpad.Number

/-- Whether a character is a decimal digit. -/
def isDigit (c : Char) : Bool :=
  '0' ≤ c && c ≤ '9'

/-- The value of a decimal digit. -/
def digitValue (c : Char) : Nat :=
  c.toNat - '0'.toNat

/-- The decimal digit of a value below ten. -/
def digitChar (d : Nat) : Char :=
  Char.ofNat ('0'.toNat + d)

/-- The decimal digits of a number, without leading zeros. -/
def digits (n : Nat) : Text :=
  if n < 10 then [digitChar n] else digits (n / 10) ++ [digitChar (n % 10)]

/-- The value of digits, the first one the highest. -/
def valueOf (t : Text) : Nat :=
  t.foldl (fun n c => 10 * n + digitValue c) 0

/-- The value of one or more digits. -/
def ofDigits? (t : Text) : Option Nat :=
  if t ≠ [] ∧ t.all isDigit then some (valueOf t) else none

/-- The value of digits after at most one sign. -/
def ofSigned? : Text → Option Int
  | '-' :: rest => (ofDigits? rest).map fun n => -(n : Int)
  | '+' :: rest => (ofDigits? rest).map fun n => (n : Int)
  | t => (ofDigits? t).map fun n => (n : Int)

/-- The least number of 64 bits. -/
def least : Int := -0x8000000000000000

/-- The greatest number of 64 bits. -/
def greatest : Int := 0x7FFFFFFFFFFFFFFF

/-- A signed number of 64 bits. -/
def long? (t : Text) : Option Int :=
  (ofSigned? t).filter fun n => least ≤ n && n ≤ greatest

/-- A number of 16 bits, with an optional plus sign. -/
def word? (t : Text) : Option Nat :=
  (ofDigits? (match t with | '+' :: rest => rest | _ => t)).filter (· < 65536)

/-- A signed number in decimal digits. -/
def render : Int → Text
  | .ofNat n => digits n
  | .negSucc n => '-' :: digits (n + 1)

end Runpad.Number
