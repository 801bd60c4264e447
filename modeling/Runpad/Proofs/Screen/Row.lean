/-
  A row of a text in a window.

  * `rowColumns` are the columns of the pieces of a row; a row that fits is seen as it is
    (`visible_of_fits`);
  * `columnOf` is the column of a line at which a character begins, by the columns of the
    characters before it;
  * `rowStart` is the column of the line with which a row begins: that of the character in
    which the window starts, so that it may lie before the window (`rowStart_le`,
    `rowStart_eq_iff`);
  * `visible_fitting`: what is seen are the characters from that one on, as many as fit;
  * `InRow` are the characters that begin and end in a row; `mark_of_character`,
    `character_of_mark`: each is drawn as far from the start of the row as it begins behind
    the row's column, and nothing else is drawn.
-/
import Mathlib
import Runpad.Proofs.Text.Columns
import Runpad.Screen.Strip

namespace Runpad

open Text

/-! ## Rows that fit -/

section Fit

variable {pieces : List Piece} {room used : Nat}

/-- The columns of pieces. -/
def rowColumns (pieces : List Piece) : Nat :=
  totalColumns (pieces.map Piece.symbol)

theorem rowColumns_cons (p : Piece) (pieces : List Piece) :
    rowColumns (p :: pieces) = p.columns + rowColumns pieces := rfl

theorem rowColumns_append (a b : List Piece) :
    rowColumns (a ++ b) = rowColumns a + rowColumns b := by
  rw [rowColumns, List.map_append, totalColumns_append, rowColumns, rowColumns]

theorem rowColumns_piecesOf (style : Style) (t : Text) :
    rowColumns (piecesOf style t) = drawnColumns t := by
  simp [rowColumns, piecesOf, drawnColumns, Function.comp_def]

theorem visible_of_fits (h : used + rowColumns pieces ≤ room) :
    visible room used 0 pieces = pieces := by
  induction pieces generalizing used with
  | nil => rfl
  | cons p pieces ih =>
    rw [rowColumns_cons] at h
    rw [visible, if_neg (by omega), if_neg (by omega), if_neg (by omega), ih (by omega)]

theorem spread_append (a b : List Piece) : spread (a ++ b) = spread a ++ spread b :=
  List.flatMap_append

theorem length_spread (pieces : List Piece) : (spread pieces).length = rowColumns pieces := by
  induction pieces with
  | nil => rfl
  | cons p pieces ih =>
    have hcons : spread (p :: pieces) = spread [p] ++ spread pieces := spread_append [p] pieces
    have hone : (spread [p]).length = p.columns := by
      cases h : p.columns <;> simp [spread, h]
    rw [hcons, List.length_append, hone, ih, rowColumns_cons]

end Fit

/-! ## Columns of a line -/

namespace Text

variable {t : Text} {c : Char} {k m room : Nat}

/-- The column of a line at which its character number `k` begins. -/
def columnOf (t : Text) (k : Nat) : Nat :=
  charsColumns (t.take k)

theorem columnOf_zero (t : Text) : columnOf t 0 = 0 := rfl

theorem columnOf_succ (h : t[k]? = some c) : columnOf t (k + 1) = columnOf t k + charColumns c := by
  have hlast : charsColumns [c] = charColumns c := rfl
  rw [columnOf, columnOf, List.take_add_one, h, charsColumns_append, Option.toList_some, hlast]

theorem columnOf_mono (t : Text) (h : k ≤ m) : columnOf t k ≤ columnOf t m := by
  obtain ⟨n, rfl⟩ := Nat.exists_eq_add_of_le h
  rw [columnOf, columnOf, List.take_add, charsColumns_append]
  exact Nat.le_add_right _ _

/-- Columns of what is left of a line after some characters. -/
theorem columnOf_drop (t : Text) (k m : Nat) :
    columnOf (t.drop k) m = columnOf t (k + m) - columnOf t k := by
  rw [columnOf, columnOf, columnOf, List.take_add, charsColumns_append, Nat.add_sub_cancel_left]

theorem columnOf_length (t : Text) : columnOf t t.length = charsColumns t := by
  rw [columnOf, List.take_length]

/-- The characters that fit are those that end within the room. -/
theorem lt_length_fitting_iff :
    k < (fitting room t).length ↔ k < t.length ∧ columnOf t (k + 1) ≤ room := by
  induction t generalizing k room with
  | nil => simp [fitting]
  | cons c t ih =>
    have hcolumn : columnOf (c :: t) (k + 1) = charColumns c + columnOf t k := by
      rw [columnOf, List.take_succ_cons, charsColumns_cons, columnOf]
    rw [fitting, hcolumn]
    split_ifs with hfits
    · cases k with
      | zero =>
        rw [columnOf_zero]
        simpa using hfits
      | succ k =>
        rw [List.length_cons, List.length_cons, Nat.add_lt_add_iff_right, ih,
          Nat.add_lt_add_iff_right]
        omega
    · refine iff_of_false (Nat.not_lt_zero k) fun h => hfits ?_
      exact (Nat.le_add_right _ _).trans h.2

theorem take_length_fitting (room : Nat) (t : Text) :
    t.take (fitting room t).length = fitting room t :=
  (List.prefix_iff_eq_take.mp <| fitting_prefix room t).symm

theorem mem_of_mem_fitting (h : c ∈ fitting room t) : c ∈ t := by
  have hbefore := fitting_prefix room t
  exact hbefore.subset h

/-- The column of a line with which a row begins whose window starts at a column of it. -/
def rowStart (left : Nat) (t : Text) : Nat :=
  charsColumns (fitting left t)

theorem rowStart_le (left : Nat) (t : Text) : rowStart left t ≤ left :=
  charsColumns_fitting left t

theorem rowStart_eq (left : Nat) (t : Text) :
    rowStart left t = columnOf t (fitting left t).length := by
  rw [columnOf, take_length_fitting, rowStart]

/-- A row begins where its window does iff a character begins there, or the line ends. -/
theorem rowStart_eq_iff {left : Nat} : rowStart left t = left ↔ ∃ k, columnOf t k = left := by
  constructor
  · intro h
    exact ⟨_, (rowStart_eq left t).symm.trans h⟩
  · rintro ⟨k, rfl⟩
    refine le_antisymm (rowStart_le _ t) ?_
    rw [rowStart_eq]
    -- the characters before `k` fit
    have hkept : min k t.length ≤ (fitting (columnOf t k) t).length := by
      rcases hk : min k t.length with _ | m
      · exact Nat.zero_le _
      · refine lt_length_fitting_iff.mpr ⟨by omega, columnOf_mono t (by omega)⟩
    have hmin : columnOf t k = columnOf t (min k t.length) := by
      rw [columnOf, columnOf, ← List.take_take, List.take_length]
    rw [hmin] at hkept ⊢
    exact columnOf_mono t hkept

/-- The line has this character at this number, and it begins and ends in a row of so many
    cells that begins with a column of the line. -/
structure InRow (first room : Nat) (t : Text) (k : Nat) (c : Char) : Prop where
  character : t[k]? = some c
  start : first ≤ columnOf t k
  stop : columnOf t (k + 1) ≤ first + room

theorem InRow.lt {first : Nat} (h : InRow first room t k c) (hpos : 0 < charColumns c) :
    columnOf t k - first < room := by
  obtain ⟨hc, hstart, hstop⟩ := h
  have hsucc := columnOf_succ hc
  omega

/-- The character in which a window starts reaches into it. -/
theorem left_lt_of_rowStart {left : Nat} (h : (fitting left t).length < t.length) :
    left < columnOf t ((fitting left t).length + 1) := by
  by_contra hle
  exact absurd (lt_length_fitting_iff.mpr ⟨h, Nat.le_of_not_lt hle⟩) (lt_irrefl _)

end Text

/-! ## What is seen of a row -/

variable {t : Text} {c : Char} {style : Style} {room used left k n : Nat}

/-- The pieces of a text of which each character is one. -/
def singles (style : Style) (t : Text) : List Piece :=
  t.map fun c => ⟨[c], style⟩

theorem columns_char (h : 0 < charColumns c) : columns [c] = charColumns c := by
  have hcontrol : ¬ ((c.toNat < 0x20 || inside 0x7F 0x9F c) = true) := by
    intro hc
    rw [charColumns, if_pos hc] at h
    exact absurd h (lt_irrefl 0)
  rw [charColumns, if_neg hcontrol]

theorem columns_single (h : 0 < charColumns c) :
    (⟨[c], style⟩ : Piece).columns = charColumns c :=
  columns_char h

theorem rowColumns_singles (h : ∀ c ∈ t, 0 < charColumns c) :
    rowColumns (singles style t) = charsColumns t := by
  induction t with
  | nil => rfl
  | cons c t ih =>
    obtain ⟨hc, ht⟩ := List.forall_mem_cons.mp h
    have hcons : singles style (c :: t) = ⟨[c], style⟩ :: singles style t := rfl
    rw [hcons, rowColumns_cons, columns_single hc, ih ht, charsColumns_cons]

/-- What is wider than the window does not matter to the rest of a row. -/
theorem visible_filter (room used skip : Nat) (pieces : List Piece) :
    visible room used skip pieces =
      visible room used skip (pieces.filter fun p => p.columns ≤ room) := by
  induction pieces generalizing used skip with
  | nil => rfl
  | cons p pieces ih =>
    by_cases hwide : room < p.columns
    · rw [visible, if_pos hwide, ih, List.filter_cons_of_neg (by simpa using hwide)]
    · rw [List.filter_cons_of_pos (by simpa using hwide), visible, visible, if_neg hwide,
        if_neg hwide]
      split_ifs
      · rfl
      · exact ih used _
      · rw [ih]

theorem visible_singles (h : ∀ c ∈ t, 0 < charColumns c ∧ charColumns c ≤ room)
    (hused : used ≤ room) :
    visible room used 0 (singles style t) = singles style (fitting (room - used) t) := by
  induction t generalizing used with
  | nil => rfl
  | cons c t ih =>
    obtain ⟨⟨hpos, hle⟩, ht⟩ := List.forall_mem_cons.mp h
    have hcons : singles style (c :: t) = ⟨[c], style⟩ :: singles style t := rfl
    rw [hcons, visible, columns_single hpos, if_neg (by omega), fitting]
    by_cases hfits : charColumns c ≤ room - used
    · rw [if_neg (by omega), if_neg (by omega), if_pos hfits, ih ht (by omega), Nat.sub_sub]
      rfl
    · rw [if_pos (by omega), if_neg hfits]
      rfl

/-- **What is seen of a row** are the characters from the one in which the window starts,
    as many as fit. -/
theorem visible_fitting (h : ∀ c ∈ t, 0 < charColumns c ∧ charColumns c ≤ room) (left : Nat) :
    visible room 0 left (singles style t) =
      singles style (fitting room (t.drop (fitting left t).length)) := by
  induction t generalizing left with
  | nil => rfl
  | cons c t ih =>
    obtain ⟨⟨hpos, hle⟩, ht⟩ := List.forall_mem_cons.mp h
    have hcons : singles style (c :: t) = ⟨[c], style⟩ :: singles style t := rfl
    by_cases hbefore : charColumns c ≤ left
    · have hfitting : fitting left (c :: t) = c :: fitting (left - charColumns c) t := by
        rw [fitting, if_pos hbefore]
      rw [hfitting, List.length_cons, List.drop_succ_cons, ← ih ht, hcons, visible,
        columns_single hpos, if_neg (by omega), if_neg (by omega), if_pos (by omega)]
    · have hfitting : fitting left (c :: t) = [] := by
        rw [fitting, if_neg hbefore]
      rw [hfitting, List.length_nil, List.drop_zero, hcons, visible, columns_single hpos,
        if_neg (by omega), if_neg (by omega), if_neg (by omega), Nat.zero_add,
        visible_singles ht hle, fitting, if_pos hle]
      rfl

/-! ## Where it is drawn -/

theorem spread_cons {p : Piece} (hpos : 0 < p.columns) (pieces : List Piece) :
    spread (p :: pieces) =
      .put p.symbol p.style :: (List.replicate (p.columns - 1) .keep ++ spread pieces) := by
  obtain ⟨covered, hcovered⟩ := Nat.exists_eq_add_of_lt hpos
  simp [spread, hcovered]

/-- A piece is marked behind the columns of the pieces before it. -/
theorem getElem?_spread {pieces : List Piece} {p : Piece} (h : pieces[k]? = some p)
    (hpos : 0 < p.columns) :
    (spread pieces)[rowColumns (pieces.take k)]? = some (.put p.symbol p.style) := by
  obtain ⟨hk, rfl⟩ := List.getElem?_eq_some_iff.mp h
  have hsplit : spread pieces = spread (pieces.take k) ++ spread (pieces.drop k) := by
    rw [← spread_append, List.take_append_drop]
  rw [hsplit, ← length_spread, List.getElem?_append_right le_rfl, Nat.sub_self,
    List.drop_eq_getElem_cons hk, spread_cons hpos]
  rfl

/-- Nothing else is marked. -/
theorem spread_cases (pieces : List Piece) (n : Nat) :
    ((spread pieces)[n]?).getD .keep = .keep ∨
      ∃ k p, pieces[k]? = some p ∧ rowColumns (pieces.take k) = n := by
  induction pieces generalizing n with
  | nil => exact .inl rfl
  | cons p pieces ih =>
    have hsplit : spread (p :: pieces) = spread [p] ++ spread pieces := spread_append [p] pieces
    have hlength : (spread [p]).length = p.columns := by
      rw [length_spread, rowColumns_cons]
      rfl
    by_cases hn : n < p.columns
    · cases n with
      | zero => exact .inr ⟨0, p, rfl, rfl⟩
      | succ n =>
        refine .inl ?_
        rw [spread_cons (Nat.zero_lt_of_lt hn), List.getElem?_cons_succ,
          List.getElem?_append_left (by rw [List.length_replicate]; omega),
          List.getElem?_replicate_of_lt (by omega)]
        rfl
    · rw [hsplit, List.getElem?_append_right (by omega), hlength]
      rcases ih (n - p.columns) with hkeep | ⟨k, q, hq, hcolumns⟩
      · exact .inl hkeep
      · refine .inr ⟨k + 1, q, hq, ?_⟩
        rw [List.take_succ_cons, rowColumns_cons]
        omega

theorem columnOf_fitting {u : Text} (h : k ≤ (fitting room u).length) :
    columnOf (fitting room u) k = columnOf u k := by
  rw [columnOf, columnOf, ← take_length_fitting room u, List.take_take, Nat.min_eq_left h]

section Seen

variable (h : ∀ c ∈ t, 0 < charColumns c ∧ charColumns c ≤ room)
include h

/-- The columns of what is seen up to a character, as columns of the whole line. -/
theorem rowColumns_seen {j : Nat} (hk : k ≤ (fitting room (t.drop j)).length) :
    rowColumns ((singles style (fitting room (t.drop j))).take k) =
      columnOf t (j + k) - columnOf t j := by
  have hpos : ∀ c ∈ (fitting room (t.drop j)).take k, 0 < charColumns c := by
    intro c hc
    have hseen := mem_of_mem_fitting (List.mem_of_mem_take hc)
    exact (h c (List.mem_of_mem_drop hseen)).1
  have htake : (singles style (fitting room (t.drop j))).take k =
      singles style ((fitting room (t.drop j)).take k) := List.map_take.symm
  rw [htake, rowColumns_singles hpos, ← columnOf, columnOf_fitting hk, columnOf_drop]

/-- A character of the row is drawn as far from its start as it begins behind the row's
    column. -/
theorem mark_of_character (hrow : InRow (rowStart left t) room t k c) :
    (spread (visible room 0 left (singles style t)))[columnOf t k - rowStart left t]? =
      some (.put [c] style) := by
  obtain ⟨hc, hstart, hstop⟩ := hrow
  have hpos := (h c (List.mem_of_getElem? hc)).1
  obtain ⟨j, hj⟩ : ∃ j, j = (fitting left t).length := ⟨_, rfl⟩
  rw [rowStart_eq, ← hj] at hstart hstop ⊢
  have hjk : j ≤ k := by
    by_contra hlt
    have hmono := columnOf_mono t (show k + 1 ≤ j by omega)
    have hsucc := columnOf_succ hc
    omega
  obtain ⟨m, rfl⟩ := Nat.exists_eq_add_of_le hjk
  have hkept : m < (fitting room (t.drop j)).length := by
    obtain ⟨hk, -⟩ := List.getElem?_eq_some_iff.mp hc
    rw [lt_length_fitting_iff, List.length_drop, columnOf_drop, ← Nat.add_assoc]
    omega
  have hpiece : (singles style (fitting room (t.drop j)))[m]? = some ⟨[c], style⟩ := by
    rw [singles, List.getElem?_map, ← take_length_fitting, List.getElem?_take_of_lt hkept,
      List.getElem?_drop, hc]
    rfl
  have hmark := getElem?_spread hpiece (by rwa [columns_single hpos])
  rw [rowColumns_seen h hkept.le] at hmark
  rw [visible_fitting h, ← hj]
  exact hmark

/-- Nothing is drawn but characters, each at its place. -/
theorem character_of_mark
    (hmark : ((spread (visible room 0 left (singles style t)))[n]?).getD .keep ≠ .keep) :
    ∃ k c, InRow (rowStart left t) room t k c ∧ columnOf t k - rowStart left t = n := by
  obtain ⟨j, hj⟩ : ∃ j, j = (fitting left t).length := ⟨_, rfl⟩
  have hrow : rowStart left t = columnOf t j := by rw [rowStart_eq, hj]
  rw [visible_fitting h, ← hj] at hmark
  obtain ⟨k, p, hp, hcolumns⟩ := (spread_cases _ n).resolve_left hmark
  have hkept : k < (fitting room (t.drop j)).length := by
    obtain ⟨hk, -⟩ := List.getElem?_eq_some_iff.mp hp
    simpa [singles] using hk
  obtain ⟨hk, hend⟩ := lt_length_fitting_iff.mp hkept
  rw [List.length_drop] at hk
  rw [columnOf_drop] at hend
  rw [rowColumns_seen h hkept.le] at hcolumns
  have hlength : j + k < t.length := by omega
  refine ⟨j + k, t[j + k], ⟨List.getElem?_eq_getElem hlength, ?_, ?_⟩, ?_⟩
  · rw [hrow]
    exact columnOf_mono t (Nat.le_add_right j k)
  · rw [hrow, Nat.add_assoc]
    omega
  · rw [hrow, hcolumns]

end Seen

end Runpad
