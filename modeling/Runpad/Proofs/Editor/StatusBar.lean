/-
  The status bar is full.

  * `FilledBar` says that the message, the blanks and the label take the bar up, and
    that the label is drawn whole at its right end;
  * `statusStrokes_eq`: the row is that of the message, the blanks and the label, if they
    fit;
  * `statusBar_filled`: the bar is full if the message fits or nothing that is shown of
    it stretches it, and `tabs_overflow`: not in general.
-/
import Mathlib
import Runpad.Editor.Picture
import Runpad.Proofs.Screen.Row

namespace Runpad

open Text

/-! ## Blanks -/

theorem drawnColumns_blanks (n : Nat) : drawnColumns (List.replicate n ' ') = n := by
  have hblank : ∀ c ∈ List.replicate n ' ', c = ' ' := fun c hc => List.eq_of_mem_replicate hc
  have hplain : ∀ c ∈ List.replicate n ' ', Plain c := by
    intro c hc
    rw [hblank c hc]
    decide
  have hascii : ∀ c ∈ List.replicate n ' ', 0x20 ≤ c.toNat ∧ c.toNat < 0x7F := by
    intro c hc
    rw [hblank c hc]
    decide
  rw [drawnColumns_plain hplain, columns_ascii hascii, List.length_replicate]

/-! ## The bar -/

variable {area : Rect} {status : Status} {label : Text}

/-- The label as it is drawn. -/
def labelPieces (label : Text) : List Piece :=
  piecesOf { foreground := some .black, background := some .gray } (paddedLabel label)

/-- Draws the label alone, whole and at the right end of a bar. -/
def labelStroke (area : Rect) (label : Text) : Stroke :=
  .write ⟨area.x + (area.width - columns (paddedLabel label)), area.y⟩
    [spread (labelPieces label)]

/-- The message, the blanks and the label take up the bar, and the label is drawn whole
    at its right end, if the clusters of the texts take the columns of the texts. -/
structure FilledBar (area : Rect) (status : Status) (label : Text) : Prop where
  full : columns (shownMessage area.width status.text label) +
    statusGap area.width status.text label + columns (paddedLabel label) = area.width
  label_drawn :
    drawnColumns (shownMessage area.width status.text label) =
      columns (shownMessage area.width status.text label) →
    drawnColumns (paddedLabel label) = columns (paddedLabel label) →
    0 < area.height →
    (spread (labelPieces label)).length = columns (paddedLabel label) ∧
    ∀ before p, area.x + (area.width - columns (paddedLabel label)) ≤ p.x →
      cellAfter (before ++ statusStrokes area status label) p =
        cellAfter (before ++ [labelStroke area label]) p

/-- The message and the blanks as they are drawn. -/
def messagePieces (width : Nat) (status : Status) (label : Text) : List Piece :=
  piecesOf status.style (shownMessage width status.text label) ++
  piecesOf status.style (List.replicate (statusGap width status.text label) ' ')

theorem statusStrokes_eq
    (hfits : rowColumns (messagePieces area.width status label) +
      rowColumns (labelPieces label) ≤ area.width) (hheight : 0 < area.height) :
    statusStrokes area status label =
      [.write ⟨area.x, area.y⟩
        [spread (messagePieces area.width status label) ++ spread (labelPieces label)]] := by
  have hrow : statusLine area.width status label =
      messagePieces area.width status label ++ labelPieces label := rfl
  have hone (row : List Piece) : ([row] : List (List Piece)).take area.height = [row] :=
    List.take_of_length_le hheight
  rw [statusStrokes, paragraph, hone, hrow, List.map_singleton, visible_of_fits, spread_append]
  rwa [rowColumns_append, Nat.zero_add]

/-- Two rows drawn as one: right of the first one there is the second one. -/
theorem markAt_append {start p : Place} {a b : List Mark} (h : start.x + a.length ≤ p.x) :
    markAt start [a ++ b] p = markAt ⟨start.x + a.length, start.y⟩ [b] p := by
  have hright : start.x ≤ p.x := by omega
  by_cases hrow : start.y ≤ p.y
  · rw [markAt, markAt, if_pos ⟨hright, hrow⟩, if_pos ⟨h, hrow⟩]
    cases hy : p.y - start.y with
    | zero =>
      have hmark : (a ++ b)[p.x - start.x]? = b[p.x - (start.x + a.length)]? := by
        rw [List.getElem?_append_right (by omega), Nat.sub_sub]
      simp [hmark]
    | succ y => simp
  · rw [markAt, markAt, if_neg fun h => hrow h.2, if_neg fun h => hrow h.2]

theorem filledBar_of_fits
    (h : columns (shownMessage area.width status.text label) +
      columns (paddedLabel label) ≤ area.width) : FilledBar area status label := by
  have hsum : columns (shownMessage area.width status.text label) +
      statusGap area.width status.text label + columns (paddedLabel label) = area.width := by
    rw [statusGap]
    omega
  refine ⟨hsum, fun hshown hlabel hheight => ?_⟩
  -- the message and the blanks are drawn on all columns before the label
  have hmessage : rowColumns (messagePieces area.width status label) =
      area.width - columns (paddedLabel label) := by
    rw [messagePieces, rowColumns_append, rowColumns_piecesOf, rowColumns_piecesOf,
      drawnColumns_blanks, hshown]
    omega
  have hpieces : rowColumns (labelPieces label) = columns (paddedLabel label) := by
    rw [labelPieces, rowColumns_piecesOf, hlabel]
  refine ⟨by rw [length_spread, hpieces], fun before p hp => ?_⟩
  have hmarks : markAt ⟨area.x, area.y⟩
        [spread (messagePieces area.width status label) ++ spread (labelPieces label)] p =
      markAt ⟨area.x + (area.width - columns (paddedLabel label)), area.y⟩
        [spread (labelPieces label)] p := by
    have hlength := length_spread (messagePieces area.width status label)
    rw [hmessage] at hlength
    rw [← hlength] at hp ⊢
    exact markAt_append hp
  rw [statusStrokes_eq (by omega) hheight, cellAfter_concat, cellAfter_concat, labelStroke,
    Stroke.over, Stroke.over, hmarks]

/-- **The status bar is full**: a text that does not fit is cut to its room, and so the
    message, the blanks and the label take up the bar, in which the label is whole.  This
    holds of all messages that fit, and of all of which no shown character stretches
    them. -/
theorem statusBar_filled (room : Nat) (t : Text) (area : Rect) (status : Status)
    (label : Text) :
    Truncated room t (truncate room t) ∧
    (columns (paddedLabel label) ≤ area.width →
      columns (' ' :: status.text) + columns (paddedLabel label) ≤ area.width ∨
        (∀ c ∈ shownMessage area.width status.text label, stretches c = false) →
      FilledBar area status label) := by
  refine ⟨truncated room t, fun hlabel h => filledBar_of_fits ?_⟩
  rcases h with hfits | htame
  · rw [shownMessage, truncate_of_le (by omega)]
    exact hfits
  · have := (truncated _ (' ' :: status.text)).columns_le_room htame
    rw [shownMessage]
    omega

/-- A message in wide characters. -/
def wideMessage : Text := ['错', '误', '错', '误', '错', '误']

theorem wideMessage_filled :
    Truncated 6 wideMessage (truncate 6 wideMessage) ∧
    (spread (labelPieces "gw".toList)).length = 4 ∧
    ∀ before p, 10 ≤ p.x →
      cellAfter (before ++ statusStrokes ⟨0, 9, 14, 1⟩ (.error wideMessage) "gw".toList) p =
        cellAfter (before ++ [labelStroke ⟨0, 9, 14, 1⟩ "gw".toList]) p := by
  have hlabel : columns (paddedLabel "gw".toList) = 4 := by decide +kernel
  have htame : ∀ c ∈ shownMessage 14 wideMessage "gw".toList, stretches c = false := by
    simpa using (by decide +kernel :
      (shownMessage 14 wideMessage "gw".toList).all (stretches · = false) = true)
  have hmessage : ∀ c ∈ shownMessage 14 wideMessage "gw".toList, Plain c := by
    simpa using
      (by decide +kernel : (shownMessage 14 wideMessage "gw".toList).all (Plain ·) = true)
  have hplain : ∀ c ∈ paddedLabel "gw".toList, Plain c := by
    simpa using (by decide +kernel : (paddedLabel "gw".toList).all (Plain ·) = true)
  obtain ⟨htruncated, hbar⟩ :=
    statusBar_filled 6 wideMessage ⟨0, 9, 14, 1⟩ (.error wideMessage) "gw".toList
  have hfilled := hbar (le_of_eq_of_le hlabel (by decide)) (.inr htame)
  obtain ⟨hlength, hdrawn⟩ := hfilled.label_drawn (drawnColumns_plain hmessage)
    (drawnColumns_plain hplain) (by decide)
  refine ⟨htruncated, hlength.trans hlabel, fun before p hp => hdrawn before p ?_⟩
  rw [hlabel]
  simpa using hp

/-- A message of tabs is wider than the bar, whatever it is cut to: nothing of the label
    is seen. -/
theorem tabs_overflow :
    ¬ columns (truncate 1 ['\t', '\t', '\t']) ≤ 1 ∧
    columns (paddedLabel "gw".toList) ≤ 20 ∧
    columns (shownMessage 20 (List.replicate 30 '\t') "gw".toList) +
      statusGap 20 (List.replicate 30 '\t') "gw".toList +
      columns (paddedLabel "gw".toList) ≠ 20 ∧
    ∀ p ∈ visible 20 0 0 (statusLine 20 (.error (List.replicate 30 '\t')) "gw".toList),
      p.style = (Status.error []).style := by
  decide +kernel

end Runpad
