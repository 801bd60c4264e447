/-
  Lines of a text.  A text is cut at every line feed, so that it has one line
  more than it has line feeds, the last one possibly empty.

  * `cut` gives the first line and the later ones, `join` puts them together
    again;
  * `join_cut`: cutting loses nothing; `cut_join`: lines without a line feed
    come back as they were; `cut_noFeed`: no line holds a line feed;
  * `shown` are the lines that a reader sees: no empty line after a final line
    feed, and no carriage return before a line feed.
-/
import Runpad.Text.Ranges

namespace Runpad.Text

/-- The first line of a text and its later lines. -/
def cut : Text → Text × List Text
  | [] => ([], [])
  | c :: rest =>
    let (line, later) := cut rest
    if c = '\n' then ([], line :: later) else (c :: line, later)

/-- The text of a first line and later lines, with a line feed before each
    later one. -/
def join (line : Text) (later : List Text) : Text :=
  line ++ later.flatMap ('\n' :: ·)

/-- All lines of a text. -/
def lines (t : Text) : List Text :=
  (cut t).1 :: (cut t).2

@[simp] theorem join_nil (line : Text) : join line [] = line := by
  simp [join]

theorem join_cons (line next : Text) (later : List Text) :
    join line (next :: later) = line ++ '\n' :: join next later := by
  simp [join]

theorem cons_join (c : Char) (line : Text) (later : List Text) :
    join (c :: line) later = c :: join line later := rfl

/-- **Cutting loses nothing**: the lines put together give the text. -/
theorem join_cut (t : Text) : join (cut t).1 (cut t).2 = t := by
  induction t with
  | nil => rfl
  | cons c rest ih =>
    by_cases h : c = '\n'
    · simp [cut, h, join_cons, ih]
    · simp [cut, h, cons_join, ih]

/-- No line of a text holds a line feed. -/
theorem cut_noFeed (t : Text) : '\n' ∉ (cut t).1 ∧ ∀ line ∈ (cut t).2, '\n' ∉ line := by
  induction t with
  | nil => simp [cut]
  | cons c rest ih =>
    by_cases h : c = '\n'
    · simpa [cut, h] using ih
    · simpa [cut, h, Ne.symm h] using ih

theorem cut_append_line {line : Text} (h : '\n' ∉ line) (rest : Text) :
    cut (line ++ rest) = (line ++ (cut rest).1, (cut rest).2) := by
  induction line with
  | nil => rfl
  | cons c line ih =>
    have hc : c ≠ '\n' := fun e => h (e ▸ List.mem_cons_self)
    simp [cut, hc, ih fun m => h (List.mem_cons_of_mem c m)]

/-- **Lines come back**: what was put together from lines without a line feed
    is cut into these lines. -/
theorem cut_join {line : Text} {later : List Text} (h : '\n' ∉ line)
    (hl : ∀ l ∈ later, '\n' ∉ l) : cut (join line later) = (line, later) := by
  induction later generalizing line with
  | nil => simpa [cut] using cut_append_line h []
  | cons next later ih =>
    have hn := ih (hl next List.mem_cons_self) fun l m => hl l (List.mem_cons_of_mem next m)
    rw [join_cons, cut_append_line h]
    simp [cut, hn]

/-! ## Endings -/

/-- The text with every line break, a carriage return, a line feed or both in
    this order, written as one line feed. -/
def unifyBreaks : Text → Text
  | '\r' :: '\n' :: rest => '\n' :: unifyBreaks rest
  | c :: rest => (if c = '\r' then '\n' else c) :: unifyBreaks rest
  | [] => []

/-- The text without its last character, if that is `c`. -/
def dropEnd (c : Char) (t : Text) : Text :=
  if t.getLast? = some c then t.dropLast else t

/-- A line without its ending: a line feed, and a carriage return before it or
    at the end of the line. -/
def stripEnding (t : Text) : Text :=
  dropEnd '\r' (dropEnd '\n' t)

/-- The lines that a reader sees: a final line feed starts no line, and a
    carriage return before a line feed belongs to the line feed. -/
def shown (t : Text) : List Text :=
  let all := lines t
  let ended := all.dropLast.map (dropEnd '\r')
  match all.getLast? with
  | some [] | none => ended
  | some last => ended ++ [last]

end Runpad.Text
