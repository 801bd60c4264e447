/-
  Properties of characters given by ranges of code points.

  * `Ranges` is a list of closed ranges in increasing order, `holds` asks
    whether a character lies in one of them; it stops at the first range that
    starts above the character.
-/
namespace Runpad

/-- A text: its characters in order. -/
abbrev Text := List Char

namespace Text

/-- Closed ranges of code points, in increasing order. -/
abbrev Ranges := List (Nat × Nat)

/-- Whether the code point lies in one of the ranges. -/
def Ranges.covers (code : Nat) : Ranges → Bool
  | [] => false
  | (lo, hi) :: rest => if code < lo then false else code ≤ hi || Ranges.covers code rest

/-- Whether the character lies in one of the ranges. -/
def Ranges.holds (ranges : Ranges) (c : Char) : Bool :=
  ranges.covers c.toNat

/-- Whether the code of a character lies between two others, ends included. -/
def inside (lo hi : Nat) (c : Char) : Bool :=
  lo ≤ c.toNat && c.toNat ≤ hi

end Text

end Runpad
