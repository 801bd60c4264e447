/-
  How many columns a text takes on a screen (Unicode 16).

  The width of a character depends on what follows it: a line feed takes none,
  nor does a carriage return before it, two letters can share a column, and
  several emoji can be drawn as one.  So a text is measured from its end, and `Follow` is what has
  to be known of the part already measured.

  * `alone` is the width of a character by itself, `beginning` what it offers
    to the character before it;
  * `measure` is the step from the end towards the start, `columns` the width of
    a text, `Char` widths being `columns [c]` but for controls (`charColumns`);
  * `columns_ascii`: a text of ASCII characters without line breaks takes one
    column for each.
-/
import Runpad.Text.Property.Emoji
import Runpad.Text.Property.Extending
import Runpad.Text.Property.Width

namespace Runpad.Text

open Property

/-! ## Single characters -/

/-- Halves of a flag: two of them are drawn as one. -/
def isFlagHalf : Char → Bool := inside 0x1F1E6 0x1F1FF

/-- Skin tones. -/
def isTone : Char → Bool := inside 0x1F3FB 0x1F3FF

/-- Characters that take no column: they extend another one, are ignored, or are
    parts of a syllable. -/
def isColumnless (c : Char) : Bool :=
  (isExtending c && c ≠ '\u2D7F') || columnlessOther.holds c

/-- The columns of a character above the controls that stands alone. -/
def alone (c : Char) : Nat :=
  if isColumnless c then 0
  else if wide.holds c || c = '\u17A4' then 2
  else if c = '\u17D8' then 3
  else 1

/-- Whether a selector may follow the character to have it drawn as an emoji. -/
def takesSelector (c : Char) : Bool :=
  selectable.holds c

/-- Whether a selector may follow the character to have it drawn in one column
    instead of two. -/
def takesNarrowing (c : Char) : Bool :=
  selectable.holds c && emojiStyled.holds c && !inside 0x1F200 0x1F2FF c

/-- Marks that do not part the two letters of a ligature. -/
def ligatureMarks : Ranges :=
  [(0x34F, 0x34F), (0x17B4, 0x17B5), (0x180B, 0x180D), (0x180F, 0x180F), (0x200D, 0x200D),
    (0xFE00, 0xFE0F), (0xE0100, 0xE01EF)]

/-- The forms of the Arabic letter alef, which join with a lam before them. -/
def alefs : Ranges :=
  [(0x622, 0x623), (0x625, 0x625), (0x627, 0x627), (0x671, 0x673), (0x675, 0x675),
    (0x773, 0x774), (0x870, 0x882)]

/-- The forms of the Arabic letter lam. -/
def lams : Ranges :=
  [(0x644, 0x644), (0x6B5, 0x6B8), (0x76A, 0x76A), (0x8A6, 0x8A6), (0x8C7, 0x8C7)]

/-- The Khmer letters that can stand below another one. -/
def khmerLetters : Ranges :=
  [(0x1780, 0x1782), (0x1784, 0x1787), (0x1789, 0x178C), (0x178E, 0x1793), (0x1795, 0x1798),
    (0x179B, 0x179D), (0x17A0, 0x17A0), (0x17A2, 0x17A2), (0x17A7, 0x17A7), (0x17AB, 0x17AC),
    (0x17AF, 0x17AF)]

/-- The consonants of Tifinagh. -/
def tifinaghLetters : Ranges :=
  [(0x2D31, 0x2D65), (0x2D6F, 0x2D6F)]

/-! ## What follows a character -/

/-- What the part to the right begins with. -/
inductive Opening where
  /-- Nothing that matters. -/
  | plain
  | lineFeed
  | tone
  /-- One half of a flag, or several. -/
  | flagHalf (several : Bool)
  | emoji
  /-- A joiner before an emoji, and the same after a keycap sign. -/
  | joinedEmoji
  | joinedKeycap
  /-- Halves of flags before a joined emoji: the first one, then an even or an
      odd number of them. -/
  | joinedFlagHalf
  | joinedFlagsEven
  | joinedFlagsOdd
  /-- The end of a tag sequence before a joined emoji, with so many letters or
      so many digits. -/
  | tagLetters (n : Nat)
  | tagDigits (n : Nat)
  /-- The two vowel signs of Kirat Rai that combine with another one. -/
  | kiratE
  | kiratAi
  | alef
  /-- Letters that take part in a ligature, the ones marked with a joiner before
      them. -/
  | lamed (joined : Bool)
  | bugineseYa (joined : Bool)
  | bugineseIya
  | tifinagh (joined : Bool)
  | tifinaghJoiner
  | lisuTone
  | orkhonI (joined : Bool)
  | khmer
  deriving DecidableEq, Repr

/-- What the part to the right begins with, after the selectors that may come
    first: one for emoji, one for text. -/
structure Follow where
  opening : Opening
  asEmoji : Bool := false
  asText : Bool := false
  deriving DecidableEq, Repr

/-- Nothing that matters follows. -/
def Follow.none : Follow := ⟨.plain, false, false⟩

/-- Whether the opening belongs to a ligature, so that marks before it do not
    end it. -/
def Opening.isLigature : Opening → Bool
  | .lamed _ | .bugineseYa _ | .bugineseIya | .tifinagh _ | .tifinaghJoiner | .lisuTone
  | .orkhonI _ | .khmer => true
  | _ => false

/-- Whether selectors before the opening leave it in place. -/
def Opening.isKept (o : Opening) : Bool :=
  o.isLigature || o = .alef

/-- The opening with a joiner before it. -/
def Opening.join : Opening → Opening
  | .lamed _ => .lamed true
  | .bugineseYa _ => .bugineseYa true
  | .tifinagh _ => .tifinagh true
  | .orkhonI _ => .orkhonI true
  | o => o

/-- An emoji selector comes before the part to the right. -/
def Follow.selectEmoji (f : Follow) : Follow :=
  if f.opening.isKept || f.opening = .joinedEmoji || f.opening = .joinedKeycap then
    { f with asEmoji := true }
  else { Follow.none with asEmoji := true }

/-- A text selector comes before the part to the right. -/
def Follow.selectText (f : Follow) : Follow :=
  if f.opening.isKept then { f with asText := true } else { Follow.none with asText := true }

/-- The emoji selector has met a character that it does not apply to. -/
def Follow.dropEmoji (f : Follow) : Follow :=
  if f.opening.isKept then { f with asEmoji := false } else Follow.none

/-- What a character by itself offers to the one before it. -/
def beginning (c : Char) : Follow :=
  if c = '\uFE0F' then { Follow.none with asEmoji := true }
  else if c = '\uFE0E' then { Follow.none with asText := true }
  else Follow.mk (opening c) false false
where
  /-- The opening that a character makes. -/
  opening (c : Char) : Opening :=
    if c = '\u05DC' then .lamed false
    else if alefs.holds c then .alef
    else if khmerLetters.holds c then .khmer
    else if c = '\u1A10' then .bugineseYa false
    else if tifinaghLetters.holds c then .tifinagh false
    else if c = '\uA4FC' || c = '\uA4FD' then .lisuTone
    else if c.toNat = 0x10C03 then .orkhonI false
    else if c.toNat = 0x16D67 then .kiratE
    else if c.toNat = 0x16D68 then .kiratAi
    else if isFlagHalf c then .flagHalf false
    else if isTone c then .tone
    else if emojiStyled.holds c then .emoji
    else .plain

/-- The character and the opening after it combine: the columns that the
    character adds to those measured, and the opening of the whole. -/
def combine (o : Opening) (c : Char) : Option (Int × Opening) :=
  let code := c.toNat
  match o with
  | .alef =>
    if lams.holds c then some (0, .plain)
    else if isColumnless c && !joinBreaking.holds c then some (0, .alef)
    else none
  | .lamed true => if code = 0x5D0 then some (0, .plain) else none
  | .khmer => if code = 0x17D2 then some (-1, .plain) else none
  | .bugineseYa true => if code = 0x1A17 then some (0, .bugineseIya) else none
  | .bugineseIya => if code = 0x1A15 then some (0, .plain) else none
  | .tifinagh joined =>
    if code = 0x2D7F then some (1, .tifinaghJoiner)
    else if joined && tifinaghLetters.holds c then some (0, .plain)
    else none
  | .tifinaghJoiner => if tifinaghLetters.holds c then some (-1, .plain) else none
  | .lisuTone => if inside 0xA4F8 0xA4FB c then some (0, .plain) else none
  | .orkhonI true => if code = 0x10C32 then some (0, .plain) else none
  | .tone =>
    if tonable.holds c then some (0, .emoji)
    else if c = '\u200D' then some (0, .joinedEmoji)
    else none
  | .flagHalf several =>
    if isFlagHalf c then some (1, .flagHalf true)
    else if several && c = '\u200D' then some (0, .joinedEmoji)
    else none
  | .emoji | .joinedFlagsEven | .joinedFlagsOdd | .joinedFlagHalf | .joinedEmoji | .tagLetters _
  | .tagDigits _ => joined o c
  | .kiratE =>
    if code = 0x16D63 || code = 0x16D69 then some (0, .plain)
    else if code = 0x16D67 then some (0, .kiratAi)
    else if code = 0x16D68 then some (1, .kiratE)
    else none
  | .kiratAi => if code = 0x16D63 then some (0, .plain) else none
  | _ => none
where
  /-- The same for sequences of emoji tied by joiners. -/
  joined (o : Opening) (c : Char) : Option (Int × Opening) :=
    match o with
    | .emoji => if c = '\u200D' then some (0, .joinedEmoji) else none
    | .joinedFlagsEven =>
      if c = '\u200D' then some (0, .joinedEmoji)
      else if isFlagHalf c then some (3, .joinedFlagsOdd)
      else none
    | .joinedFlagsOdd =>
      if c = '\u200D' then some (0, .joinedEmoji)
      else if isFlagHalf c then some (-1, .joinedFlagsEven)
      else none
    | .joinedFlagHalf => if isFlagHalf c then some (-1, .joinedFlagsEven) else none
    | .joinedEmoji =>
      if c = '\u20E3' then some (0, .joinedKeycap)
      else if isFlagHalf c then some (1, .joinedFlagHalf)
      else if isTone c then some (0, .tone)
      else if c.toNat = 0xE007F then some (0, .tagLetters 0)
      else if emojiStyled.holds c then some (0, .emoji)
      else none
    | .tagLetters n =>
      if inside 0xE0061 0xE007A c && n < 6 then some (0, .tagLetters (n + 1))
      else if inside 0xE0030 0xE0039 c && n < 5 then some (0, .tagDigits 1)
      else if c.toNat = 0x1F3F4 && 3 ≤ n then some (0, .emoji)
      else none
    | .tagDigits n =>
      if inside 0xE0030 0xE0039 c && n < 3 then some (0, .tagDigits (n + 1))
      else if c.toNat = 0x1F3F4 && n = 3 then some (0, .emoji)
      else none
    | _ => none

/-! ## Measuring -/

/-- A character above the controls, before something that matters. -/
def measureSpecial (c : Char) (next : Follow) : Int × Follow :=
  if c = '\uFE0F' then (0, next.selectEmoji)
  else if c = '\uFE0E' then (0, next.selectText)
  else if next.asText && takesNarrowing c then (1, Follow.none)
  else
    let next := { next with asText := false }
    if next.opening.isLigature && c = '\u200D' then
      (0, { next with opening := next.opening.join })
    else if next.opening.isLigature && ligatureMarks.holds c then (0, next)
    else
      match combine next.opening c with
      | some (columns, opening) => (columns, ⟨opening, false, false⟩)
      | none => (alone c, beginning c)

/-- The columns that a character adds to the part on its right, and what the
    whole begins with. -/
def measure (c : Char) (next : Follow) : Int × Follow :=
  if next.asEmoji && takesSelector c then
    (if next.opening = .joinedEmoji || next.opening = .joinedKeycap then 0 else 2,
      Follow.mk .emoji false false)
  else
    let next := if next.asEmoji then next.dropEmoji else next
    if c.toNat ≤ 0xA0 then
      if c = '\n' then (0, Follow.mk .lineFeed false false)
      else if c = '\r' && next = Follow.mk .lineFeed false false then (0, Follow.none)
      else (1, Follow.none)
    else if next = Follow.none then (alone c, beginning c)
    else measureSpecial c next

/-- The columns of a text, and what it begins with. -/
def measureAll (t : Text) : Int × Follow :=
  t.foldr (fun c (columns, next) => let (more, next) := measure c next; (columns + more, next))
    (0, Follow.none)

/-- How many columns a text takes. -/
def columns (t : Text) : Nat :=
  (measureAll t).1.toNat

/-- How many columns texts take one after the other. -/
def totalColumns (texts : List Text) : Nat :=
  texts.foldr (fun t n => columns t + n) 0

/-- How many columns a character takes alone; controls take none. -/
def charColumns (c : Char) : Nat :=
  if c.toNat < 0x20 || inside 0x7F 0x9F c then 0 else columns [c]

/-- A printable ASCII character takes one column, whatever follows it. -/
theorem measureAll_ascii {t : Text} (h : ∀ c ∈ t, 0x20 ≤ c.toNat ∧ c.toNat < 0x7F) :
    measureAll t = ((t.length : Int), Follow.none) := by
  induction t with
  | nil => rfl
  | cons c t ih =>
    have hc := h c List.mem_cons_self
    have hn : c ≠ '\n' := by rintro rfl; simp at hc
    have hr : c ≠ '\r' := by rintro rfl; simp at hc
    have hl : c.toNat ≤ 0xA0 := by omega
    have ht := ih fun d hd => h d (List.mem_cons_of_mem c hd)
    simp only [measureAll, List.foldr_cons] at ht ⊢
    rw [ht]
    simp [measure, Follow.none, hn, hr, hl]

/-- A text of printable ASCII characters takes one column for each. -/
theorem columns_ascii {t : Text} (h : ∀ c ∈ t, 0x20 ≤ c.toNat ∧ c.toNat < 0x7F) :
    columns t = t.length := by
  rw [columns, measureAll_ascii h]
  rfl

end Runpad.Text
