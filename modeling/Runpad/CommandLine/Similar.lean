/-
  Words that look alike, for suggestions.

  * `Likeness` is a fraction between nothing and one: how many letters two words
    share at about the same place and in the same order;
  * `similar` picks the words above seven tenths, the best one last.
-/
import Runpad.Text.Ranges

namespace Runpad.CommandLine

/-- The letters of `b`, each with a mark if it is taken, after the letter `c` of
    place `i` took a partner there: the first equal and free one at most `reach`
    places away, if there is one. -/
def findPartner (reach i : Nat) (c : Char) (b : List (Char × Bool)) : Option (List (Char × Bool)) :=
  let free j := match b[j]? with
    | some (d, taken) => c = d && !taken && i ≤ j + reach && j ≤ i + reach
    | none => false
  ((List.range b.length).find? free).map fun j => b.set j (c, true)

/-- The letters of `a` that find a partner in `b`, with the letters of `b`
    marked that became one. -/
def partners (reach : Nat) : Nat → Text → List (Char × Bool) → Text × List (Char × Bool)
  | _, [], b => ([], b)
  | i, c :: a, b =>
    match findPartner reach i c b with
    | some b =>
      let (found, b) := partners reach (i + 1) a b
      (c :: found, b)
    | none => partners reach (i + 1) a b

/-- A fraction. -/
structure Likeness where
  num : Nat
  den : Nat
  deriving DecidableEq, Repr

/-- Whether a fraction is greater than another one. -/
def Likeness.exceeds (p q : Likeness) : Bool :=
  q.num * p.den < p.num * q.den

/-- How alike two words are: the mean of the share of letters with a partner in
    each word and the share of partners in the same order. -/
def likeness (a b : Text) : Likeness :=
  if a = [] ∧ b = [] then ⟨1, 1⟩
  else
    let reach := max a.length b.length / 2 - 1
    let (left, marked) := partners reach 0 a (b.map (·, false))
    let right := (marked.filter (·.2)).map (·.1)
    let m := left.length
    let swapped := ((left.zip right).filter fun (c, d) => c ≠ d).length / 2
    if m = 0 then ⟨0, 1⟩
    else
      ⟨m * b.length * m + m * a.length * m + (m - swapped) * a.length * b.length,
        3 * a.length * b.length * m⟩

/-- What words must exceed to be suggested. -/
def threshold : Likeness := ⟨7, 10⟩

/-- Puts a word behind all that are no better. -/
def rank (word : Text) (p : Likeness) : List (Text × Likeness) → List (Text × Likeness)
  | [] => [(word, p)]
  | (other, q) :: rest =>
    if q.exceeds p then (word, p) :: (other, q) :: rest else (other, q) :: rank word p rest

/-- The words like the given one, the best last. -/
def similar (word : Text) (words : List Text) : List Text :=
  let ranked := words.foldl (fun ranked w =>
    let p := likeness word w
    if p.exceeds threshold then rank w p ranked else ranked) []
  ranked.map (·.1)

end Runpad.CommandLine
