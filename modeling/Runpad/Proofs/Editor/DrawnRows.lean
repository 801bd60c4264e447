/-
  The rows of a region of text, as they are seen.

  * `Text.Separate` are the texts in which each character is a cluster of its own and takes
    one column or two;
  * `RowShown` says what is seen in the cells of a row: some characters of a line, each at
    its column, and blanks elsewhere;
  * `cell_inner`: inside the frame of a region there is its text and nothing else;
    `RowLine.shown`: so its rows are shown, and `blank_below`: below the last line they are
    blank;
  * `Editor.rowShown_region`, `Editor.blank_below_region`: so it is in the editor, where
    nothing is in front of the regions.
-/
import Mathlib
import Runpad.Proofs.Editor.Panes
import Runpad.Proofs.Screen.Row

namespace Runpad

open Text

/-! ## Separate characters -/

/-- Each character of the text is a cluster of its own and takes one column or two. -/
structure Text.Separate (t : Text) : Prop where
  clusters : clusters t = t.map fun c => [c]
  columns : ∀ c ∈ t, charColumns c = 1 ∨ charColumns c = 2

theorem Text.Separate.piecesOf {t : Text} (h : t.Separate) (style : Style) :
    piecesOf style t = singles style t := by
  have hdrawable : drawable t = t.map fun c => [c] := by
    rw [drawable, h.clusters, List.filter_eq_self]
    intro cluster hcluster
    obtain ⟨c, hc, rfl⟩ := List.mem_map.mp hcluster
    rw [decide_eq_true_eq]
    intro hfeed
    obtain rfl := List.singleton_inj.mp hfeed
    exact absurd (h.columns _ hc) (by decide)
  rw [Runpad.piecesOf, hdrawable, List.map_map]
  rfl

instance (t : Text) : Decidable t.Separate :=
  decidable_of_iff (Text.clusters t = (t.map fun c => [c]) ∧
      t.all (fun c => charColumns c = 1 ∨ charColumns c = 2) = true)
    ⟨fun ⟨hclusters, hcolumns⟩ => ⟨hclusters, by simpa using hcolumns⟩,
      fun h => ⟨h.clusters, by simpa using h.columns⟩⟩

/-- The characters of a line that a window has the room for. -/
def Text.narrow (room : Nat) (t : Text) : Text :=
  t.filter fun c => charColumns c ≤ room

theorem Text.Separate.narrow {t : Text} (h : t.Separate) (room : Nat) :
    ∀ c ∈ t.narrow room, 0 < charColumns c ∧ charColumns c ≤ room := by
  intro c hc
  obtain ⟨hmem, hroom⟩ := List.mem_filter.mp hc
  have := h.columns c hmem
  exact ⟨by omega, of_decide_eq_true hroom⟩

theorem filter_singles {t : Text} (h : ∀ c ∈ t, 0 < charColumns c) (style : Style) (room : Nat) :
    (singles style t).filter (fun p => p.columns ≤ room) = singles style (t.narrow room) := by
  rw [singles, List.filter_map, singles, Text.narrow]
  refine congrArg _ (List.filter_congr fun c hc => ?_)
  rw [Function.comp_apply, columns_single (h c hc)]

/-! ## Rows -/

/-- What is seen of a line in a row of so many cells that begins with a column of it. -/
structure RowShown (picture : Picture) (start : Place) (room first : Nat) (t : Text) : Prop where
  /-- A character of the row stands at its place. -/
  character : ∀ k c, InRow first room t k c →
    (picture.shown ⟨start.x + (columnOf t k - first), start.y⟩).symbol = [c]
  /-- A cell in which none begins is blank. -/
  blank : ∀ i < room, (∀ k c, InRow first room t k c → columnOf t k - first ≠ i) →
    (picture.shown ⟨start.x + i, start.y⟩).symbol = [' ']

theorem RowShown.congr {picture other : Picture} {start : Place} {room first : Nat} {t : Text}
    (h : RowShown picture start room first t)
    (hsame : ∀ i < room, other.shown ⟨start.x + i, start.y⟩ = picture.shown ⟨start.x + i, start.y⟩)
    (hpos : ∀ c ∈ t, 0 < charColumns c) : RowShown other start room first t where
  character k c hc := by
    rw [hsame _ (hc.lt (hpos c (List.mem_of_getElem? hc.character)))]
    exact h.character k c hc
  blank i hi hnone := by
    rw [hsame i hi]
    exact h.blank i hi hnone

/-! ## Inside a frame -/

section Frame

variable {area : Rect} {p : Place} {a : TextArea} {i j : Nat} (active : Bool) (heading : Text)

/-- An empty cell of a region of text. -/
def emptyCell : Cell :=
  Cell.blank.restyle { foreground := some .white }

theorem markAt_add (start : Place) (rows : List (List Mark)) (i j : Nat) :
    markAt start rows ⟨start.x + i, start.y + j⟩ = ((rows[j]?).bind (·[i]?)).getD .keep := by
  rw [markAt, if_pos ⟨Nat.le_add_right _ _, Nat.le_add_right _ _⟩, Nat.add_sub_cancel_left,
    Nat.add_sub_cancel_left]

/-- **Inside the frame of a region there is its text**, and nothing else. -/
theorem cell_inner (hfits : area.Fits) (hi : i < area.inner.width) (hj : j < area.inner.height) :
    cellAfter (areaStrokes area active heading a) ⟨area.inner.x + i, area.inner.y + j⟩ =
      (((a.lines[a.firstRow + j]?).bind fun line =>
        (spread (visible area.inner.width 0 (min a.firstColumn Rect.lastCoordinate)
          (piecesOf {} line)))[i]?).getD .keep).over emptyCell := by
  have hp := hfits.inner_contains hi hj
  have hheading := within_headingLeft {} (Rect.fits_between hfits) heading
  have hbelow : ¬ (between area area.y).Contains ⟨area.inner.x + i, area.inner.y + j⟩ := by
    have hinner := hfits.inner_contains_iff.mp hp
    intro hbetween
    have := hbetween.bounds
    simp only [between] at this
    dsimp only at hinner
    omega
  have hframe : cellAfter
      [.restyle area { foreground := some .white },
        .frame area { foreground := some (if active then .cyan else .darkGray) }]
      ⟨area.inner.x + i, area.inner.y + j⟩ = emptyCell := by
    have hinside := hfits.middle_inside _ (hfits.inner_inside _ hp)
    simp [cellAfter, Stroke.over, hinside, edge_none hp hfits.right hfits.bottom, emptyCell]
  have hrow : (((a.shownLines area.inner.height).map (piecesOf {})).take area.inner.height)[j]? =
      (a.lines[a.firstRow + j]?).map (piecesOf {}) := by
    rw [List.getElem?_take_of_lt hj, List.getElem?_map, TextArea.shownLines,
      List.getElem?_take_of_lt hj, List.getElem?_drop]
  have hstrokes : areaStrokes area active heading a =
      [.restyle area { foreground := some .white },
        .frame area { foreground := some (if active then .cyan else .darkGray) }] ++
      headingLeft {} (between area area.y) heading ++
      [paragraph area.inner (min a.firstColumn Rect.lastCoordinate)
        ((a.shownLines area.inner.height).map (piecesOf {}))] := rfl
  rw [hstrokes, cellAfter_concat, cellAfter_append_of_within _ hheading hbelow, hframe, paragraph,
    Stroke.over, markAt_add ⟨area.inner.x, area.inner.y⟩, List.getElem?_map, hrow, Option.map_map,
    Option.bind_map]
  rfl

/-- Below the last line there are blanks. -/
theorem blank_below (hfits : area.Fits) (hi : i < area.inner.width) (hj : j < area.inner.height)
    (hline : a.lines[a.firstRow + j]? = none) (cursor : Option Place) :
    ((Picture.mk (areaStrokes area active heading a) cursor).shown
      ⟨area.inner.x + i, area.inner.y + j⟩).symbol = [' '] := by
  have hcell : cellAfter (areaStrokes area active heading a)
      ⟨area.inner.x + i, area.inner.y + j⟩ = emptyCell := by
    rw [cell_inner active heading hfits hi hj, hline]
    rfl
  rw [Picture.shown, Picture.cell, hcell]
  split_ifs <;> rfl

/-! ## Rows of separate characters -/

/-- A row inside of a region begins with a column of a line of separate characters, of
    which this is what the region has the room for. -/
structure RowLine (area : Rect) (a : TextArea) (j first : Nat) (t : Text) : Prop where
  fits : area.Fits
  height : j < area.inner.height
  line : ∃ whole : Text, a.lines[a.firstRow + j]? = some whole ∧ whole.Separate ∧
    whole.narrow area.inner.width = t
  left : a.firstColumn ≤ Rect.lastCoordinate
  start : rowStart a.firstColumn t = first

namespace RowLine

variable {t : Text} {first k : Nat} {c : Char} (h : RowLine area a j first t)
include h

theorem narrow : ∀ c ∈ t, 0 < charColumns c ∧ charColumns c ≤ area.inner.width := by
  obtain ⟨whole, -, hwhole, rfl⟩ := h.line
  exact hwhole.narrow area.inner.width

theorem pos (hc : t[k]? = some c) : 0 < charColumns c :=
  (h.narrow c (List.mem_of_getElem? hc)).1

/-- To the left of the first cell of the row is the side of the frame. -/
theorem columns_left (hroom : 0 < area.inner.width) {x : Nat} (hx : area.inner.x = x + 1) :
    columns (cellAfter (areaStrokes area active heading a) ⟨x, area.inner.y + j⟩).symbol = 1 := by
  have hright := h.fits.right_eq
  have hbottom := h.fits.bottom_eq
  have hj := h.height
  simp only [Rect.inner] at hroom hj hx ⊢
  refine (framed_areaStrokes h.fits active heading a).columns_side h.fits ?_ (.inl ?_)
  · rw [h.fits.contains_iff]
    dsimp only
    omega
  · dsimp only
    omega

/-- The cells of the row. -/
theorem cell_eq (hi : i < area.inner.width) :
    cellAfter (areaStrokes area active heading a) ⟨area.inner.x + i, area.inner.y + j⟩ =
      (((spread (visible area.inner.width 0 a.firstColumn (singles {} t)))[i]?).getD .keep).over
        emptyCell := by
  obtain ⟨whole, hwhole, hseparate, rfl⟩ := h.line
  have hpos : ∀ c ∈ whole, 0 < charColumns c := by
    intro c hc
    have := hseparate.columns c hc
    omega
  rw [cell_inner active heading h.fits hi h.height, hwhole, Option.bind_some,
    Nat.min_eq_left h.left, hseparate.piecesOf, visible_filter, filter_singles hpos]

/-- A cell of the row is blank, or a character begins in it. -/
theorem cell_cases (hi : i < area.inner.width) :
    (cellAfter (areaStrokes area active heading a)
        ⟨area.inner.x + i, area.inner.y + j⟩).symbol = [' '] ∨
      ∃ k c, InRow first area.inner.width t k c ∧ columnOf t k - first = i := by
  rw [h.cell_eq active heading hi, ← h.start]
  by_cases hmark : ((spread (visible area.inner.width 0 a.firstColumn (singles {} t)))[i]?).getD
      .keep = .keep
  · rw [hmark]
    exact .inl rfl
  · exact .inr (character_of_mark h.narrow hmark)

/-- A character of the row begins at its place. -/
theorem cell_character (hc : InRow first area.inner.width t k c) :
    (cellAfter (areaStrokes area active heading a)
      ⟨area.inner.x + (columnOf t k - first), area.inner.y + j⟩).symbol = [c] := by
  rw [h.cell_eq active heading (hc.lt (h.pos hc.character))]
  rw [← h.start] at hc ⊢
  rw [mark_of_character h.narrow hc]
  rfl

/-- The symbol in front of a character of the row does not reach into it. -/
theorem columns_before (hc : InRow first area.inner.width t k c)
    (hi : columnOf t k - first = i + 1) :
    columns (cellAfter (areaStrokes area active heading a)
      ⟨area.inner.x + i, area.inner.y + j⟩).symbol = 1 := by
  have hroom := hc.lt (h.pos hc.character)
  have hcell : i < area.inner.width := by omega
  rcases h.cell_cases active heading hcell with hblank | ⟨m, d, hd, hm⟩
  · rw [hblank]
    exact columns_blank
  · have hsymbol := h.cell_character active heading hd
    rw [hm] at hsymbol
    -- it is a character in front of this one, and ends before this one begins
    have hmk : m < k := by
      by_contra hkm
      have := columnOf_mono t (Nat.le_of_not_lt hkm)
      omega
    have hend : columnOf t (m + 1) ≤ columnOf t k := columnOf_mono t hmk
    have hsucc := columnOf_succ hd.character
    have hpos := h.pos hd.character
    have hstart := hd.start
    rw [hsymbol, columns_char hpos]
    omega

/-- **A row of separate characters is shown**: what is wider than the region is left out,
    and the others stand one behind the other. -/
theorem shown (cursor : Option Place) :
    RowShown ⟨areaStrokes area active heading a, cursor⟩ ⟨area.inner.x, area.inner.y + j⟩
      area.inner.width first t where
  character k c hc := by
    have hroom := hc.lt (h.pos hc.character)
    have huncovered : (Picture.mk (areaStrokes area active heading a) cursor).isCovered
        ⟨area.inner.x + (columnOf t k - first), area.inner.y + j⟩ = false := by
      cases hi : columnOf t k - first with
      | zero =>
        cases hx : area.inner.x with
        | zero => rfl
        | succ x =>
          have hside := h.columns_left active heading (by omega) hx
          simp [Picture.isCovered, Picture.cell, hside]
      | succ i =>
        have hbefore := h.columns_before active heading hc hi
        simp [Picture.isCovered, Picture.cell, hbefore]
    rw [Picture.shown, huncovered]
    exact h.cell_character active heading hc
  blank i hi hnone := by
    have hcell : (cellAfter (areaStrokes area active heading a)
        ⟨area.inner.x + i, area.inner.y + j⟩).symbol = [' '] := by
      refine (h.cell_cases active heading hi).resolve_right ?_
      rintro ⟨k, c, hc, hki⟩
      exact hnone k c hc hki
    rw [Picture.shown]
    split_ifs
    · rfl
    · exact hcell

end RowLine

end Frame

/-! ## In the editor -/

namespace Editor

/-- The heading of a region of text. -/
def heading (e : Editor) : Focus → Text
  | .input => ' ' :: e.title ++ [' ']
  | .output => " Output ".toList

variable {e : Editor} {width height i j first : Nat} {f : Focus} {r : Rect} {t : Text}

theorem alone_region (regions : Regions) (e : Editor) (f : Focus) :
    e.alone regions f.pane =
      ⟨areaStrokes (regions.pane f.pane) (e.isActive f) (e.heading f) (e.region f), none⟩ := by
  cases f <;> rfl

/-- A picture with nothing in front of the regions. -/
theorem picture_eq (hhelp : e.help = false) (hprompt : e.prompt = none) :
    e.picture width height =
      ⟨e.mainStrokes (layout ⟨0, 0, width, height⟩), e.cursor ⟨0, 0, width, height⟩⟩ := by
  have hnothing : e.overlayStrokes ⟨0, 0, width, height⟩ = [] := by
    rw [overlayStrokes, hhelp, hprompt]
    rfl
  simp only [picture, hnothing, List.append_nil]

section Region

variable (hhelp : e.help = false) (hprompt : e.prompt = none)
  (hr : (layout ⟨0, 0, width, height⟩).pane f.pane = r)
include hhelp hprompt hr

/-- What is seen in a region of text is what is drawn of the region. -/
theorem shown_region (hi : i < r.inner.width) (hj : j < r.inner.height) :
    (e.picture width height).shown ⟨r.inner.x + i, r.inner.y + j⟩ =
      (Picture.mk (areaStrokes r (e.isActive f) (e.heading f) (e.region f)) none).shown
        ⟨r.inner.x + i, r.inner.y + j⟩ := by
  have hfits := fits_screen width height f.pane
  rw [hr] at hfits
  have hp : ((layout ⟨0, 0, width, height⟩).pane f.pane).Contains
      ⟨r.inner.x + i, r.inner.y + j⟩ := by
    rw [hr]
    exact hfits.middle_inside _ (hfits.inner_inside _ (hfits.inner_contains hi hj))
  rw [picture_eq hhelp hprompt, shown_pane (Nat.zero_le _) (Nat.zero_le _) hp, alone_region, hr]

/-- **The rows of a region are shown in the editor.** -/
theorem rowShown_region (hrow : RowLine r (e.region f) j first t) :
    RowShown (e.picture width height) ⟨r.inner.x, r.inner.y + j⟩ r.inner.width first t := by
  have hshown := hrow.shown (e.isActive f) (e.heading f) none
  refine hshown.congr (fun i hi => shown_region hhelp hprompt hr hi hrow.height) fun c hc => ?_
  exact (hrow.narrow c hc).1

theorem blank_below_region (hi : i < r.inner.width) (hj : j < r.inner.height)
    (hline : (e.region f).lines[(e.region f).firstRow + j]? = none) :
    ((e.picture width height).shown ⟨r.inner.x + i, r.inner.y + j⟩).symbol = [' '] := by
  have hfits := fits_screen width height f.pane
  rw [hr] at hfits
  rw [shown_region hhelp hprompt hr hi hj]
  exact blank_below _ _ hfits hi hj hline none

end Region

end Editor

end Runpad
