/-
  Strokes keep to their rectangles.

  * `Stroke.Within` says that a stroke changes no cell outside of a rectangle, `Rect.Inside`
    that all cells of a rectangle are cells of another one;
  * `rowColumns_visible_le`, `length_lineMarks_le`: a row of a paragraph and a line of a
    heading take no more columns than there are;
  * `within_paragraph`, `within_centredLine`, `within_headingLeft`: so they are drawn within
    their rectangles, whatever the text is;
  * `cellAfter_append_of_within`: strokes that keep to another rectangle do not matter.
-/
import Mathlib
import Runpad.Proofs.Screen.Panes
import Runpad.Proofs.Screen.Row

namespace Runpad

open Text

/-! ## Rectangles in rectangles -/

namespace Rect

/-- All cells of the rectangle are cells of the other one. -/
def Inside (r area : Rect) : Prop :=
  ∀ p, r.Contains p → area.Contains p

/-- The columns of a rectangle but for the first and the last one. -/
def middle (area : Rect) : Rect :=
  ⟨area.x + 1, area.y, area.width - 2, area.height⟩

variable {area : Rect}

theorem Fits.right_eq (h : area.Fits) : area.right = area.x + area.width :=
  Nat.min_eq_left h.right

theorem Fits.bottom_eq (h : area.Fits) : area.bottom = area.y + area.height :=
  Nat.min_eq_left h.bottom

/-- A rectangle that ends where the coordinates do holds the places between its sides. -/
theorem Fits.contains_iff (h : area.Fits) {p : Place} :
    area.Contains p ↔
      (area.x ≤ p.x ∧ p.x < area.x + area.width) ∧ area.y ≤ p.y ∧ p.y < area.y + area.height := by
  rw [Contains, h.right_eq, h.bottom_eq]

theorem Fits.inner (h : area.Fits) : area.inner.Fits := by
  have hright := h.right_eq
  have hbottom := h.bottom_eq
  obtain ⟨hx, hy⟩ := h
  constructor <;> simp only [Rect.inner, hright, hbottom] <;> omega

/-- The inside of a rectangle by its sides; it has no cell if there is no room. -/
theorem Fits.inner_contains_iff (h : area.Fits) {p : Place} :
    area.inner.Contains p ↔
      (area.x < p.x ∧ p.x + 1 < area.x + area.width) ∧
        area.y < p.y ∧ p.y + 1 < area.y + area.height := by
  rw [h.inner.contains_iff]
  simp only [Rect.inner, h.right_eq, h.bottom_eq]
  omega

/-- The places inside of a rectangle, counted from its corner. -/
theorem Fits.inner_contains (h : area.Fits) {i j : Nat} (hi : i < area.inner.width)
    (hj : j < area.inner.height) : area.inner.Contains ⟨area.inner.x + i, area.inner.y + j⟩ := by
  rw [h.inner.contains_iff]
  dsimp only
  omega

theorem Fits.middle_contains_iff (h : area.Fits) {p : Place} :
    area.middle.Contains p ↔
      (area.x < p.x ∧ p.x + 1 < area.x + area.width) ∧
        area.y ≤ p.y ∧ p.y < area.y + area.height := by
  obtain ⟨hx, hy⟩ := h
  simp only [Contains, middle, Rect.right, Rect.bottom]
  omega

theorem Fits.inner_inside (h : area.Fits) : area.inner.Inside area.middle := by
  intro p hp
  rw [h.inner_contains_iff] at hp
  rw [h.middle_contains_iff]
  omega

theorem Fits.middle_inside (h : area.Fits) : area.middle.Inside area := by
  intro p hp
  rw [h.middle_contains_iff] at hp
  rw [h.contains_iff]
  omega

theorem Fits.between_inside (h : area.Fits) : (between area area.y).Inside area.middle := by
  intro p hp
  rw [h.middle_contains_iff]
  obtain ⟨hx, hy⟩ := h
  simp only [Contains, between, Rect.right, Rect.bottom] at hp
  omega

/-- Where there are columns between the sides, they end where the rectangle does. -/
theorem fits_between (h : area.Fits) (hroom : (between area area.y).isEmpty = false) :
    (between area area.y).Fits := by
  obtain ⟨hwidth, hheight⟩ := Rect.isEmpty_eq_false_iff.mp hroom
  obtain ⟨hx, hy⟩ := h
  simp only [between] at hwidth hheight
  constructor <;> simp only [between] <;> omega

end Rect

/-! ## Strokes in rectangles -/

/-- The stroke changes no cell outside of the rectangle. -/
def Stroke.Within (area : Rect) (s : Stroke) : Prop :=
  ∀ p, ¬ area.Contains p → ∀ c, s.over p c = c

variable {area r : Rect} {p start : Place} {strokes : List Stroke} {s : Stroke}

theorem Stroke.Within.mono (h : s.Within r) (hr : r.Inside area) : s.Within area :=
  fun p hp => h p fun hrp => hp (hr p hrp)

theorem foldl_over_of_within (h : ∀ s ∈ strokes, s.Within area) (hp : ¬ area.Contains p)
    (c : Cell) : strokes.foldl (Stroke.over p) c = c := by
  induction strokes with
  | nil => rfl
  | cons s strokes ih =>
    obtain ⟨hs, hrest⟩ := List.forall_mem_cons.mp h
    rw [List.foldl_cons, hs p hp, ih hrest]

theorem cellAfter_append (before after : List Stroke) (p : Place) :
    cellAfter (before ++ after) p = after.foldl (Stroke.over p) (cellAfter before p) :=
  List.foldl_append

/-- Later strokes that keep to another rectangle change nothing. -/
theorem cellAfter_append_of_within (before : List Stroke) {after : List Stroke}
    (h : ∀ s ∈ after, s.Within area) (hp : ¬ area.Contains p) :
    cellAfter (before ++ after) p = cellAfter before p := by
  rw [cellAfter_append, foldl_over_of_within h hp]

theorem within_restyle (area : Rect) (style : Style) : (Stroke.restyle area style).Within area :=
  fun _ hp _ => if_neg hp

theorem within_frame (area : Rect) (style : Style) : (Stroke.frame area style).Within area := by
  intro p hp c
  have hedge : edge? area p = none := if_pos hp
  rw [Stroke.over, hedge]

theorem within_write {rows : List (List Mark)} (hx : area.x ≤ start.x) (hy : area.y ≤ start.y)
    (hrows : start.y + rows.length ≤ area.bottom)
    (hcolumns : ∀ row ∈ rows, start.x + row.length ≤ area.right) :
    (Stroke.write start rows).Within area := by
  intro p hp c
  have hkeep : markAt start rows p = .keep := by
    unfold markAt
    split_ifs with hstart
    · cases hrow : rows[p.y - start.y]? with
      | none => rfl
      | some row =>
        cases hmark : row[p.x - start.x]? with
        | none => simp [hmark]
        | some mark =>
          obtain ⟨hy', rfl⟩ := List.getElem?_eq_some_iff.mp hrow
          obtain ⟨hx', -⟩ := List.getElem?_eq_some_iff.mp hmark
          have hright := hcolumns _ (List.getElem_mem hy')
          exact absurd ⟨⟨by omega, by omega⟩, by omega, by omega⟩ hp
    · rfl
  rw [Stroke.over, hkeep]
  rfl

/-! ## Paragraphs -/

/-- What is seen of a row fits in the window. -/
theorem rowColumns_visible_le {room used : Nat} (h : used ≤ room) (skip : Nat)
    (pieces : List Piece) :
    rowColumns (visible room used skip pieces) ≤ room - used := by
  induction pieces generalizing used skip with
  | nil => exact Nat.zero_le _
  | cons p pieces ih =>
    rw [visible]
    split_ifs with hwide hfull hskip
    · exact ih h skip
    · exact Nat.zero_le _
    · exact ih h _
    · have := ih (Nat.le_of_not_lt hfull) 0
      rw [rowColumns_cons]
      omega

theorem within_paragraph (h : area.Fits) (skip : Nat) (rows : List (List Piece)) :
    (paragraph area skip rows).Within area := by
  refine within_write le_rfl le_rfl ?_ ?_
  · rw [h.bottom_eq, List.length_map, List.length_take]
    dsimp only
    omega
  · intro row hrow
    obtain ⟨pieces, -, rfl⟩ := List.mem_map.mp hrow
    have := rowColumns_visible_le (Nat.zero_le area.width) skip pieces
    rw [h.right_eq, length_spread]
    dsimp only
    omega

theorem within_centredLine (h : area.Fits) (row : List Piece) :
    (centredLine area row).Within area := by
  have hseen := rowColumns_visible_le (Nat.zero_le area.width) 0 row
  have hwidth : totalColumns ((visible area.width 0 0 row).map Piece.symbol) =
      rowColumns (visible area.width 0 0 row) := rfl
  rw [centredLine, hwidth]
  refine within_write (Nat.le_add_right _ _) le_rfl ?_ ?_
  · rw [h.bottom_eq, List.length_take]
    dsimp only
    omega
  · intro marks hmarks
    obtain rfl := List.mem_singleton.mp (List.mem_of_mem_take hmarks)
    rw [h.right_eq, length_spread]
    dsimp only
    omega

/-! ## Headings -/

theorem length_lineMarks_le {room : Nat} (hroom : 0 < room) {lead : Text} {done : List Mark}
    (h : done.length ≤ room) (line : List Text) :
    (lineMarks room lead done line).length ≤ room := by
  have hfinish : ∀ {lead : Text} {done : List Mark}, done.length ≤ room →
      (lineMarks.finish lead done).length ≤ room := by
    intro lead done h
    cases done with
    | nil =>
      rw [lineMarks.finish]
      split_ifs
      · exact Nat.zero_le _
      · exact hroom
    | cons => rwa [lineMarks.finish, List.length_reverse]
  induction line generalizing lead done with
  | nil => exact hfinish h
  | cons cluster line ih =>
    unfold lineMarks
    extract_lets width
    split_ifs with hfull
    · exact hfinish h
    · cases done with
      | nil =>
        cases hwidth : width with
        | zero => exact ih h
        | succ covered =>
          refine ih ?_
          simp only [List.length_append, List.length_replicate, List.length_singleton]
          simp only [hwidth, List.length_nil] at hfull
          omega
      | cons last before =>
        cases hwidth : width with
        | zero => exact ih h
        | succ covered =>
          refine ih ?_
          simp only [List.length_append, List.length_replicate, List.length_cons]
          simp only [hwidth, List.length_cons] at hfull
          omega

theorem lineStrokes_full (start : Place) (lines : List Text) : lineStrokes start 0 lines = [] := by
  induction lines generalizing start with
  | nil => rfl
  | cons line lines ih =>
    rw [lineStrokes, if_pos rfl]
    split_ifs
    · exact ih start
    · rfl

theorem within_lineStrokes (hheight : area.y < area.bottom) {room : Nat} {lines : List Text}
    (hx : area.x ≤ start.x) (hy : start.y = area.y) (hroom : start.x + room ≤ area.right) :
    ∀ s ∈ lineStrokes start room lines, s.Within area := by
  induction lines generalizing start room with
  | nil => exact fun s hs => absurd hs List.not_mem_nil
  | cons line lines ih =>
    unfold lineStrokes
    extract_lets width
    split_ifs with hnone hfull
    · exact ih hx hy hroom
    · exact fun s hs => absurd hs List.not_mem_nil
    · refine List.forall_mem_cons.mpr ⟨?_, ?_⟩
      · refine within_write hx hy.ge ?_ ?_
        · rw [hy, List.length_singleton]
          exact hheight
        · intro marks hmarks
          obtain rfl := List.mem_singleton.mp hmarks
          have hnone : ([] : List Mark).length ≤ room := Nat.zero_le room
          have hmarks : (lineMarks room [] [] (drawable line)).length ≤ room :=
            length_lineMarks_le (Nat.pos_of_ne_zero hfull) hnone (drawable line)
          exact (Nat.add_le_add_left hmarks _).trans hroom
      · by_cases hfits : width ≤ room
        · exact ih (Nat.le_add_right_of_le hx) hy (by dsimp only; omega)
        · rw [Nat.sub_eq_zero_of_le (by omega), lineStrokes_full]
          exact fun s hs => absurd hs List.not_mem_nil

theorem within_headingLeft (style : Style) (h : area.isEmpty = false → area.Fits)
    (heading : Text) : ∀ s ∈ headingLeft style area heading, s.Within area := by
  unfold headingLeft
  extract_lets lines room
  split_ifs with hempty
  · exact fun s hs => absurd hs List.not_mem_nil
  · have hfits := h (Bool.eq_false_of_not_eq_true hempty)
    obtain ⟨-, hheight⟩ := Rect.isEmpty_eq_false_iff.mp (Bool.eq_false_of_not_eq_true hempty)
    have hroom : room ≤ area.width := Nat.min_le_right _ _
    refine List.forall_mem_cons.mpr ⟨(within_restyle _ style).mono ?_, ?_⟩
    · intro p hp
      rw [hfits.contains_iff]
      simp only [Rect.Contains, Rect.right, Rect.bottom] at hp
      omega
    · refine within_lineStrokes ?_ le_rfl rfl ?_
      · rw [hfits.bottom_eq]
        exact Nat.lt_add_of_pos_right hheight
      · rw [hfits.right_eq]
        exact Nat.add_le_add_left hroom _

end Runpad
