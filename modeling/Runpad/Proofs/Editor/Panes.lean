/-
  The parts of the editor do not draw over each other.

  * `Editor.paneStrokes` draws one part of the screen, `Editor.alone` is the picture of that
    part and of nothing else;
  * `Framed` are the strokes of a part with a frame: the first and the last column are the
    frame's alone (`Framed.columns_side`);
  * `cell_pane`: a cell of a part is what the strokes of the part make of it; `shown_pane`:
    so is what is seen of it, as no symbol reaches into the next part;
  * `Editor.region` are the regions of text, and `Focus.pane` says which part shows one.
-/
import Mathlib
import Runpad.Editor.Picture
import Runpad.Proofs.Screen.Panes
import Runpad.Proofs.Screen.Within

namespace Runpad

/-! ## Covered cells -/

theorem columns_blank : Text.columns Cell.blank.symbol = 1 := by decide +kernel

/-- Whether a cell is covered depends on the columns of the symbol on its left. -/
theorem Picture.isCovered_congr {picture other : Picture} {p : Place}
    (h : ∀ x, p.x = x + 1 → Text.columns (picture.cell ⟨x, p.y⟩).symbol =
      Text.columns (other.cell ⟨x, p.y⟩).symbol) :
    picture.isCovered p = other.isCovered p := by
  obtain ⟨x, y⟩ := p
  cases x with
  | zero => rfl
  | succ x => simp only [isCovered, h x rfl]

theorem Picture.shown_congr {picture other : Picture} {p : Place}
    (hcell : picture.cell p = other.cell p)
    (hcovered : picture.isCovered p = other.isCovered p) : picture.shown p = other.shown p := by
  simp only [shown, hcell, hcovered]

/-! ## Frames -/

/-- Strokes that draw a frame first, and then between its sides. -/
def Framed (area : Rect) (strokes : List Stroke) : Prop :=
  ∃ colors style rest, strokes = .restyle area colors :: .frame area style :: rest ∧
    ∀ s ∈ rest, s.Within area.middle

variable {area : Rect} {p : Place} {strokes : List Stroke}

theorem columns_edge {part : Char} (h : edge? area p = some part) : Text.columns [part] = 1 := by
  simp only [edge?] at h
  split_ifs at h <;> cases h <;> decide +kernel

theorem edge_side (hp : area.Contains p) (hside : p.x = area.x ∨ p.x + 1 = area.right) :
    ∃ part, edge? area p = some part := by
  simp only [edge?, hp, not_true_eq_false, if_false]
  split_ifs with h₁ h₂ h₃ h₄ h₅ hright h₇ hleft
  all_goals first
    | exact ⟨_, rfl⟩
    | exact absurd hside (not_or.mpr ⟨hleft, hright⟩)

theorem Framed.within (h : Framed area strokes) (hfits : area.Fits) :
    ∀ s ∈ strokes, s.Within area := by
  obtain ⟨colors, style, rest, rfl, hrest⟩ := h
  refine List.forall_mem_cons.mpr ⟨within_restyle area colors, ?_⟩
  refine List.forall_mem_cons.mpr ⟨within_frame area style, ?_⟩
  exact fun s hs => (hrest s hs).mono hfits.middle_inside

/-- The sides of a frame take one column each. -/
theorem Framed.columns_side (h : Framed area strokes) (hfits : area.Fits) (hp : area.Contains p)
    (hside : p.x = area.x ∨ p.x + 1 = area.right) :
    Text.columns (cellAfter strokes p).symbol = 1 := by
  obtain ⟨colors, style, rest, rfl, hrest⟩ := h
  obtain ⟨part, hpart⟩ := edge_side hp hside
  have hmiddle : ¬ area.middle.Contains p := by
    rw [hfits.middle_contains_iff, ← hfits.right_eq]
    omega
  have hcell := cellAfter_append_of_within [.restyle area colors, .frame area style] hrest hmiddle
  rw [List.cons_append, List.cons_append, List.nil_append] at hcell
  have hframe : (cellAfter [.restyle area colors, .frame area style] p).symbol = [part] := by
    simp [cellAfter, Stroke.over, hpart]
  rw [hcell, hframe, columns_edge hpart]

/-! ## The parts of the editor -/

variable {e : Editor} {a : Pane}

theorem framed_areaStrokes (hfits : area.Fits) (active : Bool) (heading : Text) (t : TextArea) :
    Framed area (areaStrokes area active heading t) := by
  refine ⟨_, _, _, rfl, List.forall_mem_append.mpr ⟨fun s hs => ?_, ?_⟩⟩
  · exact (within_headingLeft {} (Rect.fits_between hfits) heading s hs).mono hfits.between_inside
  · rw [List.forall_mem_singleton]
    exact (within_paragraph hfits.inner _ _).mono hfits.inner_inside

theorem framed_buttonStrokes (hfits : area.Fits) (busy : Bool) (command : Command) :
    Framed area (buttonStrokes area busy command) := by
  refine ⟨_, _, _, rfl, ?_⟩
  rw [List.forall_mem_singleton]
  exact (within_centredLine hfits.inner _).mono hfits.inner_inside

namespace Editor

/-- Draws a part of the screen. -/
def paneStrokes (regions : Regions) (e : Editor) : Pane → List Stroke
  | .input => areaStrokes regions.input (e.isActive .input) (' ' :: e.title ++ [' ']) e.input
  | .output => areaStrokes regions.output (e.isActive .output) " Output ".toList e.output
  | .button command => buttonStrokes (regions.button command) (e.isBusy command) command
  | .status => statusStrokes regions.status e.status e.label

/-- A part of the screen and nothing else. -/
def alone (regions : Regions) (a : Pane) (e : Editor) : Picture :=
  ⟨e.paneStrokes regions a, none⟩

/-- All parts, in the order in which they are drawn. -/
def panes : List Pane :=
  [.input, .output, .button .run, .button .save, .button .open, .status]

theorem mem_panes (a : Pane) : a ∈ panes := by
  cases a with
  | button command => cases command <;> decide
  | _ => decide

theorem mainStrokes_eq (regions : Regions) (e : Editor) :
    e.mainStrokes regions = panes.flatMap (e.paneStrokes regions) := by
  simp [mainStrokes, panes, Command.all, paneStrokes]

section Layout

variable (hx : area.x ≤ Rect.lastCoordinate) (hy : area.y ≤ Rect.lastCoordinate)
include hx hy

theorem framed_pane (ha : a ≠ .status) :
    Framed ((layout area).pane a) (e.paneStrokes (layout area) a) := by
  have hfits := fits_pane hx hy a
  cases a with
  | input | output => exact framed_areaStrokes hfits _ _ _
  | button command => exact framed_buttonStrokes hfits _ command
  | status => exact absurd rfl ha

/-- A part is drawn within its rectangle. -/
theorem within_pane (a : Pane) :
    ∀ s ∈ e.paneStrokes (layout area) a, s.Within ((layout area).pane a) := by
  by_cases ha : a = .status
  · subst ha
    exact List.forall_mem_singleton.mpr (within_paragraph (fits_pane hx hy .status) _ _)
  · exact (framed_pane hx hy ha).within (fits_pane hx hy a)

/-- Parts that do not hold a place leave it alone. -/
theorem foldl_panes {others : List Pane}
    (h : ∀ b ∈ others, ¬ ((layout area).pane b).Contains p) (c : Cell) :
    (others.flatMap (e.paneStrokes (layout area))).foldl (Stroke.over p) c = c := by
  induction others with
  | nil => rfl
  | cons b others ih =>
    obtain ⟨hb, hrest⟩ := List.forall_mem_cons.mp h
    rw [List.flatMap_cons, List.foldl_append, foldl_over_of_within (within_pane hx hy b) hb,
      ih hrest]

/-- **A cell of a part is what the part makes of it.** -/
theorem cell_pane (h : ((layout area).pane a).Contains p) :
    cellAfter (e.mainStrokes (layout area)) p = cellAfter (e.paneStrokes (layout area) a) p := by
  obtain ⟨before, after, hpanes⟩ := List.append_of_mem (mem_panes a)
  have hnodup : (before ++ a :: after).Nodup := by
    rw [← hpanes]
    decide
  have hothers : ∀ b ∈ before ++ after, ¬ ((layout area).pane b).Contains p := by
    intro b hb
    refine apart (fun hab => ?_) h
    subst hab
    exact (List.nodup_middle.mp hnodup).notMem hb
  have hbefore : (before.flatMap (e.paneStrokes (layout area))).foldl (Stroke.over p) .blank =
      .blank :=
    foldl_panes hx hy (fun b hb => hothers b (List.mem_append_left _ hb)) .blank
  rw [mainStrokes_eq, hpanes, List.flatMap_append, List.flatMap_cons, cellAfter_append,
    List.foldl_append, cellAfter, hbefore,
    foldl_panes hx hy fun b hb => hothers b (List.mem_append_right _ hb)]
  rfl

theorem cell_nowhere (h : ∀ a, ¬ ((layout area).pane a).Contains p) :
    cellAfter (e.mainStrokes (layout area)) p = .blank := by
  rw [mainStrokes_eq]
  exact foldl_panes hx hy (fun b _ => h b) .blank

/-- A symbol to the left of a part does not reach into it. -/
theorem columns_beside (hbeside : ¬ ((layout area).pane a).Contains p)
    (h : ((layout area).pane a).Contains ⟨p.x + 1, p.y⟩) :
    Text.columns (cellAfter (e.mainStrokes (layout area)) p).symbol = 1 := by
  by_cases hsome : ∃ b, ((layout area).pane b).Contains p
  · obtain ⟨b, hb⟩ := hsome
    have hba : b ≠ a := by
      rintro rfl
      exact hbeside hb
    have hfits := fits_pane hx hy b
    have hright : p.x + 1 = ((layout area).pane b).right := by
      have hout := apart hba.symm h
      have hin := hb
      rw [hfits.contains_iff] at hout hin
      rw [hfits.right_eq]
      dsimp only at hout
      omega
    -- the status bar has nothing beside it: what is in its rows is its own
    have hstatus : b ≠ .status := by
      rintro rfl
      have hrow := paneAt_eq hb
      have hother := paneAt_eq h
      unfold paneAt at hrow hother
      grind
    rw [cell_pane hx hy hb]
    exact (framed_pane hx hy hstatus).columns_side hfits hb (.inr hright)
  · rw [cell_nowhere hx hy (not_exists.mp hsome), columns_blank]

/-- **What is seen of a part is what is drawn of it**, as if there were nothing else. -/
theorem shown_pane (h : ((layout area).pane a).Contains p) (cursor : Option Place) :
    (Picture.mk (e.mainStrokes (layout area)) cursor).shown p =
      (e.alone (layout area) a).shown p := by
  have hcell : (Picture.mk (e.mainStrokes (layout area)) cursor).cell p =
      (e.alone (layout area) a).cell p := cell_pane hx hy h
  have hcovered : (Picture.mk (e.mainStrokes (layout area)) cursor).isCovered p =
      (e.alone (layout area) a).isCovered p := by
    refine Picture.isCovered_congr fun x hpx => ?_
    have hpart : ((layout area).pane a).Contains ⟨x + 1, p.y⟩ := hpx ▸ h
    by_cases hleft : ((layout area).pane a).Contains ⟨x, p.y⟩
    · exact congrArg (fun c : Cell => Text.columns c.symbol) (cell_pane hx hy hleft)
    · have hblank : (e.alone (layout area) a).cell ⟨x, p.y⟩ = .blank :=
        foldl_over_of_within (within_pane hx hy a) hleft .blank
      rw [hblank, columns_blank]
      exact columns_beside hx hy hleft hpart
  exact Picture.shown_congr hcell hcovered

end Layout

end Editor

/-! ## The regions of text -/

/-- The part of the screen that shows a region of text. -/
def Focus.pane : Focus → Pane
  | .input => .input
  | .output => .output

namespace Editor

/-- A region of text. -/
def region (e : Editor) : Focus → TextArea
  | .input => e.input
  | .output => e.output

theorem fits_screen (width height : Nat) (a : Pane) :
    ((layout ⟨0, 0, width, height⟩).pane a).Fits :=
  fits_pane (Nat.zero_le _) (Nat.zero_le _) a

/-- The parts end where the screen does. -/
theorem pane_le_screen (width height : Nat) (a : Pane) :
    ((layout ⟨0, 0, width, height⟩).pane a).x +
        ((layout ⟨0, 0, width, height⟩).pane a).width ≤ width ∧
      ((layout ⟨0, 0, width, height⟩).pane a).y +
        ((layout ⟨0, 0, width, height⟩).pane a).height ≤ height := by
  have hx : Rect.x ⟨0, 0, width, height⟩ ≤ Rect.lastCoordinate := Nat.zero_le _
  have hy : Rect.y ⟨0, 0, width, height⟩ ≤ Rect.lastCoordinate := Nat.zero_le _
  obtain ⟨hright, hbottom⟩ := pane_le hx hy a
  simp only [Rect.right, Rect.bottom] at hright hbottom
  omega

theorem region_drawn (width height : Nat) (e : Editor) (f : Focus) :
    (e.drawn width height).region f =
      (e.region f).scroll ((layout ⟨0, 0, width, height⟩).pane f.pane).inner.width
        ((layout ⟨0, 0, width, height⟩).pane f.pane).inner.height := by
  cases f <;> rfl

theorem focused_eq (e : Editor) : e.focused = e.region e.focus := by
  unfold focused region
  cases e.focus <;> rfl

theorem focusedRect_drawn (width height : Nat) (e : Editor) :
    (e.drawn width height).focusedRect =
      (layout ⟨0, 0, width, height⟩).pane e.focus.pane := by
  unfold focusedRect drawn
  cases e.focus <;> rfl

theorem focused_drawn (width height : Nat) (e : Editor) :
    (e.drawn width height).focused =
      e.focused.scroll (e.drawn width height).focusedRect.inner.width
        (e.drawn width height).focusedRect.inner.height := by
  rw [focused_eq, focused_eq, focusedRect_drawn]
  exact region_drawn width height e e.focus

theorem cursor_eq_areaCursor (hprompt : e.prompt = none) (screen : Rect) :
    e.cursor screen = areaCursor ((layout screen).pane e.focus.pane) e.focused := by
  unfold cursor focused
  rw [hprompt]
  cases e.focus <;> rfl

end Editor

end Runpad
