/-
  What is drawn is the text.

  * `Text.Printable` are the texts of printable ASCII: each character takes a column
    (`columnOf_printable`), so that a row shows the line from the start of the window on
    (`RowShown.printable`);
  * `ShowsText` says so of all rows of a region;
  * `texts_drawn`: a drawn editor shows its texts, and no part of the screen is drawn on
    the cells of another one.
-/
import Mathlib
import Runpad.Proofs.Editor.DrawnRows

namespace Runpad

open Text

/-! ## Printable ASCII -/

namespace Text

/-- All characters are printable ASCII. -/
def Printable (t : Text) : Prop :=
  ∀ c ∈ t, 0x20 ≤ c.toNat ∧ c.toNat < 0x7F

instance (t : Text) : Decidable t.Printable :=
  List.decidableBAll (fun c : Char => 0x20 ≤ c.toNat ∧ c.toNat < 0x7F) t

variable {t : Text} {k left room : Nat}

theorem Printable.charColumns_eq (h : t.Printable) {c : Char} (hc : c ∈ t) :
    charColumns c = 1 := by
  obtain ⟨hle, hlt⟩ := h c hc
  have hone : columns [c] = 1 := columns_ascii (List.forall_mem_singleton.mpr (h c hc))
  have hcontrol : ¬ ((c.toNat < 0x20 || inside 0x7F 0x9F c) = true) := by
    simp only [inside, Bool.or_eq_true, Bool.and_eq_true, decide_eq_true_eq]
    omega
  rw [charColumns, if_neg hcontrol, hone]

theorem Printable.separate (h : t.Printable) : t.Separate where
  clusters := clusters_ascii h
  columns _ hc := .inl (h.charColumns_eq hc)

theorem Printable.narrow_eq (h : t.Printable) (hroom : 0 < room) : t.narrow room = t := by
  refine List.filter_eq_self.mpr fun c hc => ?_
  rw [h.charColumns_eq hc]
  exact decide_eq_true hroom

/-- Each character takes a column. -/
theorem columnOf_printable (h : t.Printable) (k : Nat) : columnOf t k = min k t.length := by
  induction t generalizing k with
  | nil => simp [columnOf, charsColumns]
  | cons c t ih =>
    have hc := h.charColumns_eq List.mem_cons_self
    have ht : Printable t := fun d hd => h d (List.mem_cons_of_mem c hd)
    cases k with
    | zero => rw [columnOf_zero, Nat.zero_min]
    | succ k =>
      have hrest := ih ht k
      rw [columnOf] at hrest ⊢
      rw [List.take_succ_cons, charsColumns_cons, hc, hrest, List.length_cons]
      omega

theorem rowStart_printable (h : t.Printable) (left : Nat) :
    rowStart left t = min left t.length := by
  have hlength : (fitting left t).length = min left t.length := by
    refine eq_of_forall_lt_iff fun k => ?_
    rw [lt_length_fitting_iff, columnOf_printable h]
    omega
  rw [rowStart_eq, columnOf_printable h, hlength]
  omega

end Text

/-- **A row shows the line** from the start of the window on. -/
theorem RowShown.printable {picture : Picture} {start : Place} {room left i : Nat} {t : Text}
    (h : RowShown picture start room (rowStart left t) t) (ht : t.Printable) (hi : i < room) :
    (picture.shown ⟨start.x + i, start.y⟩).symbol = [(t[left + i]?).getD ' '] := by
  have hstart := rowStart_printable ht left
  cases hc : t[left + i]? with
  | some c =>
    obtain ⟨hlength, -⟩ := List.getElem?_eq_some_iff.mp hc
    have hcolumn : columnOf t (left + i) - rowStart left t = i := by
      rw [columnOf_printable ht, hstart]
      omega
    have hrow : InRow (rowStart left t) room t (left + i) c := by
      refine ⟨hc, ?_, ?_⟩ <;> rw [columnOf_printable ht, hstart] <;> omega
    have hshown := h.character (left + i) c hrow
    rwa [hcolumn] at hshown
  | none =>
    have hlength := List.getElem?_eq_none_iff.mp hc
    refine h.blank i hi fun k c hrow hki => ?_
    obtain ⟨hk, -⟩ := List.getElem?_eq_some_iff.mp hrow.character
    have hbehind := hrow.start
    rw [columnOf_printable ht, hstart] at hki hbehind
    omega

/-! ## Texts -/

/-- The cells of a rectangle show the text of an area from the start of its window on, and
    blanks where there is none. -/
def ShowsText (picture : Picture) (inner : Rect) (a : TextArea) : Prop :=
  ∀ i < inner.width, ∀ j < inner.height,
    (picture.shown ⟨inner.x + i, inner.y + j⟩).symbol =
      [((a.lines[a.firstRow + j]?).bind (·[a.firstColumn + i]?)).getD ' ']

namespace Editor

variable {e : Editor} {width height : Nat}

theorem showsText_region (hhelp : e.help = false) (hprompt : e.prompt = none) (f : Focus)
    (htext : ∀ line ∈ (e.region f).lines, line.Printable)
    (hleft : (e.region f).firstColumn ≤ Rect.lastCoordinate) :
    ShowsText (e.picture width height) ((layout ⟨0, 0, width, height⟩).pane f.pane).inner
      (e.region f) := by
  intro i hi j hj
  cases hline : (e.region f).lines[(e.region f).firstRow + j]? with
  | none => exact blank_below_region hhelp hprompt rfl hi hj hline
  | some t =>
    have ht := htext t (List.mem_of_getElem? hline)
    have hkept := ht.narrow_eq (Nat.zero_lt_of_lt hi)
    have hrow := rowShown_region hhelp hprompt rfl
      ⟨fits_screen width height f.pane, hj, ⟨t, hline, ht.separate, hkept⟩, hleft, rfl⟩
    exact hrow.printable ht hi

/-- **What is drawn is the text** of each region, as its window shows it, and no part of the
    screen is drawn on the cells of another one. -/
theorem texts_drawn (e : Editor) (width height : Nat) (hhelp : e.help = false)
    (hprompt : e.prompt = none)
    (htext : ∀ f, ∀ line ∈ (e.region f).lines, line.Printable) :
    (∀ f,
      let inner := ((layout ⟨0, 0, width, height⟩).pane f.pane).inner
      let a := (e.region f).scroll inner.width inner.height
      a.firstColumn ≤ Rect.lastCoordinate →
      ShowsText ((e.drawn width height).picture width height) inner a) ∧
    ∀ a p, ((layout ⟨0, 0, width, height⟩).pane a).Contains p →
      (∀ b, ((layout ⟨0, 0, width, height⟩).pane b).Contains p → b = a) ∧
      ((e.drawn width height).picture width height).cell p =
        ((e.drawn width height).alone (layout ⟨0, 0, width, height⟩) a).cell p ∧
      ((e.drawn width height).picture width height).shown p =
        ((e.drawn width height).alone (layout ⟨0, 0, width, height⟩) a).shown p := by
  have hhelp : (e.drawn width height).help = false := hhelp
  have hprompt : (e.drawn width height).prompt = none := hprompt
  refine ⟨?_, fun a p hp => ⟨fun b hb => ?_, ?_, ?_⟩⟩
  · intro f inner a hleft
    have ha : (e.drawn width height).region f = a := region_drawn width height e f
    rw [← ha] at hleft ⊢
    refine showsText_region hhelp hprompt f (fun line hline => htext f line ?_) hleft
    rwa [ha, TextArea.lines_scroll] at hline
  · exact (paneAt_eq hb).symm.trans (paneAt_eq hp)
  · rw [picture_eq hhelp hprompt]
    exact cell_pane (Nat.zero_le _) (Nat.zero_le _) hp
  · rw [picture_eq hhelp hprompt]
    exact shown_pane (Nat.zero_le _) (Nat.zero_le _) hp _

/-- A fresh editor with two lines in its input, the cursor behind the second one. -/
def twoLines : Editor :=
  { input := ({} : TextArea).insertAll "ab\ncdefghij".toList }

theorem twoLines_drawn :
    (((twoLines.drawn 26 5).picture 26 5).shown ⟨1, 2⟩).symbol = ['h'] ∧
    (((twoLines.drawn 26 5).picture 26 5).shown ⟨4, 2⟩).symbol = [' '] ∧
    ((twoLines.drawn 26 5).picture 26 5).cell ⟨6, 2⟩ =
      ((twoLines.drawn 26 5).alone (layout ⟨0, 0, 26, 5⟩) .output).cell ⟨6, 2⟩ := by
  have htext : ∀ f, ∀ line ∈ (twoLines.region f).lines, line.Printable := by
    rintro (_ | _) <;> decide +kernel
  obtain ⟨hshows, halone⟩ := texts_drawn twoLines 26 5 rfl rfl htext
  have hinput := hshows .input (by decide +kernel)
  have hfirst := hinput 0 (by decide +kernel) 1 (by decide +kernel)
  have hlast := hinput 3 (by decide +kernel) 1 (by decide +kernel)
  exact ⟨hfirst.trans (by decide +kernel), hlast.trans (by decide +kernel),
    (halone .output ⟨6, 2⟩ (by decide)).2.1⟩

end Editor

end Runpad
