/-
  Binary floating-point numbers of 64 bits, as exact values.

  * `Double` is not-a-number, an infinity, or a significand `m < 2^53` times a
    power of two;
  * `nearest` rounds a quotient of numbers to the closest double, of two equally
    close ones to the even significand;
  * `Double.read?` reads decimal text, `Double.render` writes the fewest digits
    that read back, in positional notation.
-/
import Runpad.Number.Integer

namespace Runpad.Number

/-- A floating-point number: a finite one is `m · 2^q`, negated or not. -/
inductive Double where
  | nan
  | infinite (negative : Bool)
  | finite (negative : Bool) (m : Nat) (q : Int)
  deriving DecidableEq, Repr

/-! ## Rounding -/

/-- The exponent of the smallest numbers. -/
def Double.minExponent : Int := -1074

/-- The exponent of the largest numbers. -/
def Double.maxExponent : Int := 971

/-- The number of significands. -/
def Double.significands : Nat := Nat.pow 2 53

/-- The quotient `num / den`, divided by `2^q`, as a quotient of numbers. -/
def scaled (num den : Nat) (q : Int) : Nat × Nat :=
  if 0 ≤ q then (num, den * Nat.pow 2 q.toNat) else (num * Nat.pow 2 (-q).toNat, den)

/-- A quotient rounded to the nearest number; a half goes to the even one. -/
def roundQuotient (num den : Nat) : Nat :=
  let low := num / den
  let twice := 2 * (num % den)
  if twice < den then low else if den < twice then low + 1 else low + low % 2

/-- The least exponent, from the candidate `q` on, at which the quotient is
    below `2^53`; the candidate is at most two below it. -/
def settle (num den : Nat) (q : Int) : Int :=
  let fits q := let (a, b) := scaled num den q; a < Double.significands * b
  if fits q then q else if fits (q + 1) then q + 1 else q + 2

/-- The double closest to `num / den`. -/
def nearest (negative : Bool) (num den : Nat) : Double :=
  if num = 0 then .finite negative 0 Double.minExponent
  else
    let guess : Int := (Nat.log2 num : Int) - (Nat.log2 den : Int) - 53
    let q := settle num den (max guess Double.minExponent)
    let (a, b) := scaled num den q
    let m := roundQuotient a b
    let (m, q) := if m = Double.significands then (m / 2, q + 1) else (m, q)
    if Double.maxExponent < q then .infinite negative else .finite negative m q

/-! ## Reading -/

/-- Exponents beyond this one leave no number but zero and infinity. -/
def exponentLimit : Int := 400

/-- The double closest to `value · 10^exponent`. -/
def ofDecimal (negative : Bool) (value : Nat) (exponent : Int) : Double :=
  let size : Int := (digits value).length + exponent
  if value = 0 || size < -exponentLimit then .finite negative 0 Double.minExponent
  else if exponentLimit < size then .infinite negative
  else if 0 ≤ exponent then nearest negative (value * Nat.pow 10 exponent.toNat) 1
  else nearest negative value (Nat.pow 10 (-exponent).toNat)

/-- The decimal exponent after the digits: nothing, or an `e` and a number. -/
def readExponent? : Text → Option Int
  | [] => some 0
  | c :: rest => if c = 'e' || c = 'E' then ofSigned? rest else none

/-- The double of digits with an optional point and an optional exponent. -/
def readDecimal? (negative : Bool) (t : Text) : Option Double :=
  let whole := t.takeWhile isDigit
  let afterWhole := t.dropWhile isDigit
  let (places, afterPlaces) :=
    match afterWhole with
    | '.' :: rest => (rest.takeWhile isDigit, rest.dropWhile isDigit)
    | _ => ([], afterWhole)
  if whole = [] ∧ places = [] then none
  else (readExponent? afterPlaces).map fun e =>
    ofDecimal negative (valueOf (whole ++ places)) (e - places.length)

/-- The double of a text without its sign: decimal digits, or one of the names
    of the numbers that are not finite, in letters of either size. -/
def readUnsigned? (negative : Bool) (t : Text) : Option Double :=
  let name := t.map Char.toLower
  if name = "inf".toList || name = "infinity".toList then some (.infinite negative)
  else if name = "nan".toList then some .nan
  else readDecimal? negative t

/-- The double that a text denotes. -/
def Double.read? : Text → Option Double
  | '-' :: rest => readUnsigned? true rest
  | '+' :: rest => readUnsigned? false rest
  | t => readUnsigned? false t

/-! ## Writing -/

/-- Whether `value · 10^exponent` lies between the quotients `low / den` and
    `high / den`, ends included if `closed`. -/
def between (low high den : Nat) (closed : Bool) (value : Nat) (exponent : Int) : Bool :=
  let (a, b) :=
    if 0 ≤ exponent then (value * Nat.pow 10 exponent.toNat, 1)
    else (value, Nat.pow 10 (-exponent).toNat)
  if closed then low * b ≤ a * den && a * den ≤ high * b
  else low * b < a * den && a * den < high * b

/-- The decimal exponent of the first digit of `num / den`. -/
def leadingPlace (num den : Nat) : Int :=
  if den ≤ num then (digits (num / den)).length - 1
  else -(digits ((den + num - 1) / num - 1)).length

/-- The grid of numbers with `n` digits: its neighbour of `num / den` from below
    and whether the next one is at least as close. -/
def gridBelow (num den : Nat) (step : Int) : Nat × Bool :=
  let (a, b) :=
    if 0 ≤ step then (num, den * Nat.pow 10 step.toNat)
    else (num * Nat.pow 10 (-step).toNat, den)
  (a / b, b ≤ 2 * (a % b))

/-- The fewest digits between `low / den` and `high / den`, and of these the
    closest to `num / den`, searched from `n` digits on for `fuel` counts of
    digits; the result is a value and its decimal exponent. -/
def fewestDigits (low num high den : Nat) (closed : Bool) : Nat → Nat → Nat × Int
  | 0, n => ((gridBelow num den (leadingPlace num den - n + 1)).1, leadingPlace num den - n + 1)
  | fuel + 1, n =>
    let step := leadingPlace num den - n + 1
    let (below, upper) := gridBelow num den step
    let inBelow := between low high den closed below step
    let inAbove := between low high den closed (below + 1) step
    if inBelow && (!inAbove || !upper) then (below, step)
    else if inAbove then
      if below + 1 = 10 then (1, step + 1) else (below + 1, step)
    else fewestDigits low num high den closed fuel (n + 1)

/-- The number of digits that always suffices. -/
def Double.maxDigits : Nat := 17

/-- The shortest decimal that reads back as `m · 2^q`: a value and its decimal
    exponent. Below a power of two the next double is half as far away. -/
def shortest (m : Nat) (q : Int) : Nat × Int :=
  let unit := Nat.pow 2 q.toNat
  let den := 4 * Nat.pow 2 (-q).toNat
  let gap := if m = Double.significands / 2 ∧ Double.minExponent < q then 1 else 2
  fewestDigits ((4 * m - gap) * unit) (4 * m * unit) ((4 * m + 2) * unit) den (m % 2 = 0)
    Double.maxDigits 1

/-- `value · 10^exponent` in positional notation. -/
def positional (value : Nat) (exponent : Int) : Text :=
  if 0 ≤ exponent then digits value ++ List.replicate exponent.toNat '0'
  else
    let places := (-exponent).toNat
    let all := digits value
    let padded := List.replicate (places + 1 - all.length) '0' ++ all
    padded.take (padded.length - places) ++ '.' :: padded.drop (padded.length - places)

/-- The text of a double. -/
def Double.render : Double → Text
  | .nan => "NaN".toList
  | .infinite negative => (if negative then "-inf" else "inf").toList
  | .finite negative m q =>
    let size :=
      if m = 0 then ['0']
      else
        let (value, exponent) := shortest m q
        positional value exponent
    if negative then '-' :: size else size

end Runpad.Number
