/-
  Grapheme clusters: the characters that a reader takes as one (Unicode 16,
  extended clusters).

  * `Class` sorts the characters, `Tail` is what has to be known of a cluster to
    decide whether the next character belongs to it (`Tail.extendsTo`);
  * `clusters` cuts a text into its clusters;
  * `flatten_clusters`: nothing is lost; `clusters_ascii`: printable ASCII
    characters are clusters of their own.
-/
import Runpad.Text.Property.Cluster
import Runpad.Text.Property.Extending

namespace Runpad.Text

open Property

/-- What a character is to the clusters around it. -/
inductive Class where
  | carriageReturn
  | lineFeed
  | control
  | extending
  | joiner
  | flagHalf
  | prepended
  | spacingMark
  | leadingJamo
  | vowelJamo
  | trailingJamo
  | openSyllable
  | closedSyllable
  | pictograph
  | consonant
  | other
  deriving DecidableEq, Repr

/-- The class of a character. -/
def classOf (c : Char) : Class :=
  let code := c.toNat
  if inside 0x20 0x7E c then .other
  else if code = 0x0D then .carriageReturn
  else if code = 0x0A then .lineFeed
  else if code = 0x200D then .joiner
  else if control.holds c then .control
  else if isExtending c || inside 0x1F3FB 0x1F3FF c then .extending
  else if inside 0x1F1E6 0x1F1FF c then .flagHalf
  else if prepend.holds c then .prepended
  else if spacingMark.holds c then .spacingMark
  else if leadingJamo.holds c then .leadingJamo
  else if vowelJamo.holds c then .vowelJamo
  else if trailingJamo.holds c then .trailingJamo
  else if inside 0xAC00 0xD7A3 c then
    if (code - 0xAC00) % 28 = 0 then .openSyllable else .closedSyllable
  else if pictographic.holds c then .pictograph
  else if conjunctConsonant.holds c then .consonant
  else .other

/-- How far a pair of tied consonants has come. -/
inductive Conjunct where
  | none
  | consonant
  | linked
  deriving DecidableEq, Repr

/-- The end of a cluster. -/
structure Tail where
  /-- The class of the last character. -/
  last : Class
  /-- Whether a half of a flag waits for the other one. -/
  halfFlag : Bool
  /-- Whether the cluster ends in a pictograph with its extensions. -/
  pictured : Bool
  /-- Whether it ends in a pictograph with a joiner after it. -/
  tied : Bool
  conjunct : Conjunct
  deriving DecidableEq, Repr

/-- The end of a cluster of one character. -/
def Tail.start (cls : Class) : Tail :=
  ⟨cls, cls = .flagHalf, cls = .pictograph, false,
    if cls = .consonant then .consonant else .none⟩

/-- The end of a cluster with another character added. -/
def Tail.add (tail : Tail) (cls : Class) (c : Char) : Tail where
  last := cls
  halfFlag := cls = .flagHalf && !tail.halfFlag
  pictured := cls = .pictograph || cls = .extending && tail.pictured
  tied := cls = .joiner && tail.pictured
  conjunct :=
    if cls = .consonant then .consonant
    else if tail.conjunct ≠ .none && conjunctLinker.holds c then .linked
    else if (cls = .extending || cls = .joiner) && c.toNat ≠ 0x200C then tail.conjunct
    else .none

/-- Whether a character of the given class belongs to the cluster before it. -/
def Tail.extendsTo (tail : Tail) (cls : Class) : Bool :=
  match tail.last, cls with
  | .carriageReturn, .lineFeed => true
  | .carriageReturn, _ | .lineFeed, _ | .control, _ => false
  | _, .carriageReturn | _, .lineFeed | _, .control => false
  | .leadingJamo, .leadingJamo | .leadingJamo, .vowelJamo | .leadingJamo, .openSyllable
  | .leadingJamo, .closedSyllable => true
  | .openSyllable, .vowelJamo | .openSyllable, .trailingJamo | .vowelJamo, .vowelJamo
  | .vowelJamo, .trailingJamo => true
  | .closedSyllable, .trailingJamo | .trailingJamo, .trailingJamo => true
  | _, .extending | _, .joiner | _, .spacingMark => true
  | .prepended, _ => true
  | _, .consonant => tail.conjunct = .linked
  | _, .pictograph => tail.tied
  | _, .flagHalf => tail.halfFlag
  | _, _ => false

/-- Cuts the rest of a text after a cluster that has begun: what still belongs to
    it, and the clusters after it. -/
def clustersFrom (tail : Tail) : Text → Text × List Text
  | [] => ([], [])
  | c :: rest =>
    let cls := classOf c
    if tail.extendsTo cls then
      let (more, later) := clustersFrom (tail.add cls c) rest
      (c :: more, later)
    else
      let (more, later) := clustersFrom (.start cls) rest
      ([], (c :: more) :: later)

/-- The clusters of a text. -/
def clusters : Text → List Text
  | [] => []
  | c :: rest =>
    let (more, later) := clustersFrom (.start (classOf c)) rest
    (c :: more) :: later

theorem flatten_clustersFrom (tail : Tail) (t : Text) :
    (clustersFrom tail t).1 ++ (clustersFrom tail t).2.flatten = t := by
  induction t generalizing tail with
  | nil => rfl
  | cons c rest ih =>
    simp only [clustersFrom]
    split <;> simp [ih]

/-- **Nothing is lost**: the clusters one after the other are the text. -/
theorem flatten_clusters (t : Text) : (clusters t).flatten = t := by
  cases t with
  | nil => rfl
  | cons c rest => simp [clusters, flatten_clustersFrom]

theorem clustersFrom_ascii {t : Text} (h : ∀ c ∈ t, 0x20 ≤ c.toNat ∧ c.toNat < 0x7F) :
    clustersFrom (.start .other) t = ([], t.map fun c => [c]) := by
  induction t with
  | nil => rfl
  | cons c rest ih =>
    have hc := h c List.mem_cons_self
    have : classOf c = .other := by
      simp [classOf, inside, hc.1, Nat.le_of_lt_succ hc.2]
    simp only [clustersFrom, this]
    rw [if_neg (by decide), ih fun d hd => h d (List.mem_cons_of_mem c hd)]
    rfl

/-- Printable ASCII characters are clusters of their own. -/
theorem clusters_ascii {t : Text} (h : ∀ c ∈ t, 0x20 ≤ c.toNat ∧ c.toNat < 0x7F) :
    clusters t = t.map fun c => [c] := by
  cases t with
  | nil => rfl
  | cons c rest =>
    have hc := h c List.mem_cons_self
    have : classOf c = .other := by
      simp [classOf, inside, hc.1, Nat.le_of_lt_succ hc.2]
    simp [clusters, this, clustersFrom_ascii fun d hd => h d (List.mem_cons_of_mem c hd)]

end Runpad.Text
