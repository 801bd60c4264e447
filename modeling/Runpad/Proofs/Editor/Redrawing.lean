/-
  Windows follow their cursors.

  The window of a text area is moved when the area is drawn, and stays where it is
  until then, so that it may have been left far behind the text.

  * `Holds` says that a place is in a window, `Nearest` where a window is to go that has
    to hold a place; `follow_eq_iff`: `follow` takes it there, and nowhere else;
  * `Followed` is what becomes of an area whose window is moved;
  * `windows_follow`: so it is for every area that comes about and every size below the
    bound, with nothing out of range, and an editor that was drawn looks the same when it
    is drawn again.
-/
import Mathlib
import Runpad.Editor.Picture
import Runpad.Proofs.Editor.Touches
import Runpad.Proofs.TextArea.Built

namespace Runpad

/-! ## The nearest window -/

/-- The place is in the window with the given start and size; a window of no size is
    taken as one of a single place. -/
def Holds (start size place : Nat) : Prop :=
  start ≤ place ∧ place < start + max size 1

/-- The window goes to a start from which it holds the place: it stays if it does so
    already, and otherwise no other start that does is as near. -/
structure Nearest (start size place next : Nat) : Prop where
  holds : Holds next size place
  stays : Holds start size place → next = start
  nearest : ∀ other, Holds other size place → other ≠ next →
    Nat.dist start next < Nat.dist start other

theorem nearest_follow (start size place : Nat) :
    Nearest start size place (follow start size place) where
  holds := ⟨follow_le start size place, lt_follow start size place⟩
  stays := by
    rintro ⟨hle, hlt⟩
    simp only [follow]
    rw [if_neg (Nat.not_lt_of_le hle), if_neg (Nat.not_le_of_lt hlt)]
  nearest := by
    rintro other ⟨hle, hlt⟩ hother
    have hsize : 1 ≤ max size 1 := le_max_right size 1
    simp only [follow, Nat.dist] at hother ⊢
    split_ifs at hother ⊢ with hbefore hbehind
    all_goals omega

/-- **There is one start for the window to go to.** -/
theorem follow_eq_iff {start size place next : Nat} :
    follow start size place = next ↔ Nearest start size place next := by
  constructor
  · rintro rfl
    exact nearest_follow start size place
  · intro h
    by_contra hne
    have hthere := h.nearest _ (nearest_follow start size place).holds hne
    have hback := (nearest_follow start size place).nearest next h.holds (Ne.symm hne)
    exact absurd hthere hback.asymm

/-- A window that was left behind a text that is gone, one that the cursor ran away from,
    and one of no size. -/
example : follow 40 5 3 = 3 ∧ follow 0 5 40 = 36 ∧ follow 2 0 9 = 9 := by decide

/-! ## Text areas -/

namespace TextArea

/-- What becomes of an area when its window, now of the given size, is moved: it holds
    the cursor and went no farther than it had to, nothing else is changed, and a second
    time nothing is. -/
structure Followed (width height : Nat) (a b : TextArea) : Prop where
  rows : Nearest a.firstRow height a.row b.firstRow
  columns : Nearest a.firstColumn width a.displayColumn b.firstColumn
  text : b.text = a.text
  lines : b.lines = a.lines
  row : b.row = a.row
  column : b.column = a.column
  displayColumn : b.displayColumn = a.displayColumn
  again : b.scroll width height = b

theorem scroll_scroll (width height : Nat) (a : TextArea) :
    (a.scroll width height).scroll width height = a.scroll width height := by
  have hrow := follow_follow a.firstRow height a.row
  have hcolumn := follow_follow a.firstColumn width a.displayColumn
  simp only [scroll, row, displayColumn] at hrow hcolumn ⊢
  rw [hrow, hcolumn]

theorem followed_scroll (width height : Nat) (a : TextArea) :
    Followed width height a (a.scroll width height) where
  rows := nearest_follow a.firstRow height a.row
  columns := nearest_follow a.firstColumn width a.displayColumn
  text := rfl
  lines := rfl
  row := rfl
  column := rfl
  displayColumn := rfl
  again := scroll_scroll width height a

end TextArea

/-! ## Editors -/

/-- A second draw on the same screen moves no window. -/
theorem Editor.drawn_drawn (width height : Nat) (e : Editor) :
    (e.drawn width height).drawn width height = e.drawn width height := by
  simp only [Editor.drawn, TextArea.scroll_scroll]

open TextArea Editor

/-- **Windows follow their cursors**, whatever was done to the area before, and an editor
    that was drawn and not changed looks the same when it is drawn again.  The sizes of
    windows are below the bound, as those on a screen are, so that nothing leaves its
    range when a window is moved. -/
theorem windows_follow :
    (∀ {ops : List Operation} {width height : Nat}, (∀ op ∈ ops, op.Sized) →
      (Operation.scroll width height).Sized →
        builtGrid ops = some (built ops).grid ∧
        (Operation.scroll width height).onGrid (built ops).grid =
          some ((built ops).scroll width height).grid ∧
        Followed width height (built ops) ((built ops).scroll width height) ∧
        (Operation.scroll width height).onGrid ((built ops).scroll width height).grid =
          some ((built ops).scroll width height).grid) ∧
    ∀ (e : Editor) (width height : Nat),
      e.parts.perform (drawTouches (layout ⟨0, 0, width, height⟩)) =
        some (e.drawn width height).parts ∧
      (e.drawn width height).drawn width height = e.drawn width height ∧
      ((e.drawn width height).drawn width height).picture width height =
        (e.drawn width height).picture width height := by
  refine ⟨fun {ops width height} hops hscroll => ?_, fun e width height => ?_⟩
  · have hfollowed := followed_scroll width height (built ops)
    have hagain := onGrid_grid ((built ops).scroll width height) hscroll
    rw [Operation.apply, hfollowed.again] at hagain
    exact ⟨builtGrid_eq hops, onGrid_grid _ hscroll, hfollowed, hagain⟩
  · have hsame := e.drawn_drawn width height
    exact ⟨perform_drawn width height e, hsame, by rw [hsame]⟩

/-- Four lines, of which the window shows the last two; then the cursor goes back to the
    first one. -/
def leftBehind : List Operation :=
  [.setText ['a', '\n', 'b', '\n', 'c', '\n', 'd'], .pageDown 9, .scroll 1 2, .pageUp 9]

/-- The largest window holds all of them, and the same is drawn a second time. -/
theorem leftBehind_followed :
    (∀ op ∈ leftBehind, op.Sized) ∧ (Operation.scroll 1 (memoryBound - 1)).Sized ∧
    builtGrid leftBehind = some ⟨[[0x61], [0x62], [0x63], [0x64]], 0, 0, 2, 0⟩ ∧
    (Operation.scroll 1 (memoryBound - 1)).onGrid
        ⟨[[0x61], [0x62], [0x63], [0x64]], 0, 0, 2, 0⟩ =
      some ⟨[[0x61], [0x62], [0x63], [0x64]], 0, 0, 0, 0⟩ ∧
    Followed 1 (memoryBound - 1) (built leftBehind)
      ((built leftBehind).scroll 1 (memoryBound - 1)) ∧
    ∃ e : Editor, e.input = built leftBehind ∧ (e.drawn 60 12).drawn 60 12 = e.drawn 60 12 := by
  have hops : ∀ op ∈ leftBehind, op.Sized := by decide
  have hscroll : (Operation.scroll 1 (memoryBound - 1)).Sized := by decide
  obtain ⟨hgrid, hmoved, hfollowed, -⟩ := windows_follow.1 hops hscroll
  obtain ⟨-, hsame, -⟩ := windows_follow.2 { input := built leftBehind } 60 12
  have hbehind : (built leftBehind).grid = ⟨[[0x61], [0x62], [0x63], [0x64]], 0, 0, 2, 0⟩ := by
    decide
  have hfound : ((built leftBehind).scroll 1 (memoryBound - 1)).grid =
      ⟨[[0x61], [0x62], [0x63], [0x64]], 0, 0, 0, 0⟩ := by decide
  rw [hbehind] at hgrid
  rw [hbehind, hfound] at hmoved
  exact ⟨hops, hscroll, hgrid, hmoved, hfollowed, _, rfl, hsame⟩

end Runpad
