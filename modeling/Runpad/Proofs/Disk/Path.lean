/-
  Paths and their pieces.

  * `ofPieces_pieces` and `pieces_ofPieces`: a path and its pieces determine each
    other, as long as no piece holds a slash;
  * `EndsIn` says where in a path the last name stands, with only slashes and single
    dots after it (`Trailing`); `EndsIn.solid` and `exists_endsIn`: it is the last
    piece that counts;
  * `EndsIn.withExtension`: an extension goes right behind the last name, and
    `EndsIn.extended`: it becomes the end of it.
-/
import Mathlib
import Runpad.Disk.Path

namespace Runpad.Path

variable {p before : Path} {l above : List Text} {name tail extension : Text}

/-! ## Pieces -/

theorem pieces_eq_splitOn (p : Path) : p.pieces = p.splitOn '/' := by
  induction p with
  | nil => rfl
  | cons c rest ih =>
    simp only [pieces, split, List.splitOn] at ih ⊢
    rw [List.splitOnP_cons_eq_if_modifyHead, ← ih]
    by_cases hc : c = '/' <;> simp [hc]

/-- A path is put together from its pieces. -/
theorem ofPieces_pieces (p : Path) : ofPieces p.pieces = p := by
  rw [pieces_eq_splitOn, ofPieces, List.intercalate_splitOn]

/-- Pieces without slashes are read back. -/
theorem pieces_ofPieces (hne : l ≠ []) (h : ∀ piece ∈ l, '/' ∉ piece) :
    (ofPieces l).pieces = l := by
  rw [pieces_eq_splitOn, ofPieces, List.splitOn_intercalate '/' h hne]

theorem slash_notMem_of_mem_pieces {piece : Text} (h : piece ∈ p.pieces) : '/' ∉ piece := by
  induction p generalizing piece with
  | nil =>
    obtain rfl : piece = [] := by simpa [pieces, split] using h
    simp
  | cons c rest ih =>
    simp only [pieces, split] at ih h
    by_cases hc : c = '/'
    · rw [if_pos hc] at h
      rcases List.mem_cons.1 h with rfl | h
      · simp
      · exact ih h
    · rw [if_neg hc] at h
      rcases List.mem_cons.1 h with rfl | h
      · have hfirst : '/' ∉ (split rest).1 := ih List.mem_cons_self
        simp [Ne.symm hc, hfirst]
      · exact ih (List.mem_cons_of_mem _ h)

theorem ofPieces_append {l' : List Text} (h : l ≠ []) (h' : l' ≠ []) :
    ofPieces (l ++ l') = ofPieces l ++ '/' :: ofPieces l' := by
  obtain ⟨first, later, rfl⟩ := List.exists_cons_of_ne_nil h'
  induction l with
  | nil => exact absurd rfl h
  | cons piece l ih =>
    cases l with
    | nil => simp [ofPieces, List.intercalate_cons_cons]
    | cons next l =>
      have := ih (by simp)
      simp only [ofPieces, List.cons_append, List.intercalate_cons_cons] at this ⊢
      rw [this]
      simp

/-- What follows a path goes on in its last piece. -/
theorem ofPieces_concat_append (above : List Text) (name t : Text) :
    ofPieces (above ++ [name]) ++ t = ofPieces (above ++ [name ++ t]) := by
  cases above with
  | nil => simp [ofPieces]
  | cons piece above =>
    rw [ofPieces_append (by simp) (by simp), ofPieces_append (by simp) (by simp)]
    simp [ofPieces]

/-- Later pieces come behind their slashes. -/
theorem ofPieces_append_flatMap {l : List Text} (hne : l ≠ []) (later : List Text) :
    ofPieces (l ++ later) = ofPieces l ++ later.flatMap ('/' :: ·) := by
  induction later generalizing l with
  | nil => simp
  | cons piece later ih =>
    rw [List.append_cons, ih (by simp), ofPieces_append hne (by simp)]
    simp [ofPieces]

/-- A slash at the end starts an empty piece. -/
theorem pieces_concat_slash (p : Path) : pieces (p ++ ['/']) = pieces p ++ [[]] := by
  induction p with
  | nil => rfl
  | cons c rest ih =>
    simp only [pieces, split, List.cons_append, List.cons.injEq] at ih ⊢
    by_cases hc : c = '/' <;> simp [hc, ih]

/-! ## The last name of a path -/

/-- The pieces that do not count stand at the end. -/
theorem exists_solid_append (p : Path) :
    ∃ idle, (∀ piece ∈ idle, isIdle piece = true) ∧ p.pieces = solid p ++ idle := by
  refine ⟨(p.pieces.reverse.takeWhile isIdle).reverse, fun piece hmem => ?_, ?_⟩
  · exact List.mem_takeWhile_imp (List.mem_reverse.1 hmem)
  · rw [solid, ← List.reverse_append, List.takeWhile_append_dropWhile, List.reverse_reverse]

/-- The file name is the last piece that counts. -/
theorem fileName?_eq_some_iff :
    fileName? p = some name ↔ (∃ above, solid p = above ++ [name]) ∧ name ≠ up := by
  rw [fileName?, Option.filter_eq_some_iff, List.getLast?_eq_some_iff, decide_eq_true_iff]

/-- The last piece that counts does count. -/
theorem isIdle_of_solid (h : solid p = above ++ [name]) : isIdle name = false := by
  have hsolid : p.pieces.rdropWhile isIdle = above ++ [name] := h
  have hne : p.pieces.rdropWhile isIdle ≠ [] := by simp [hsolid]
  simpa [hsolid] using List.rdropWhile_last_not isIdle p.pieces hne

theorem isIdle_eq_true_iff {piece : Text} : isIdle piece = true ↔ piece = [] ∨ piece = ['.'] := by
  simp [isIdle]

/-- Slashes, each with or without a single dot after it. -/
inductive Trailing : Text → Prop
  | nil : Trailing []
  | slash {t : Text} : Trailing t → Trailing ('/' :: t)
  | slashDot {t : Text} : Trailing t → Trailing ('/' :: '.' :: t)

/-- The last name of the path `p` stands between `before` and `tail`. -/
structure EndsIn (p before : Path) (name tail : Text) : Prop where
  path : p = before ++ name ++ tail
  /-- The name is the first of the path, or it comes after a slash. -/
  start : before = [] ∨ before.getLast? = some '/'
  noSlash : '/' ∉ name
  /-- An empty name or a single dot would not count. -/
  counts : name ≠ [] ∧ name ≠ ['.']
  trailing : Trailing tail

theorem EndsIn.isIdle (h : EndsIn p before name tail) : isIdle name = false := by
  simpa [Path.isIdle] using h.counts

theorem EndsIn.ne_nil (h : EndsIn p before name tail) : p ≠ [] := by
  rw [h.path]
  simp [h.counts.1]

/-- What trails is a row of pieces that do not count. -/
theorem trailing_iff :
    Trailing tail ↔ ∃ idle : List Text, (∀ piece ∈ idle, isIdle piece = true) ∧
      tail = idle.flatMap ('/' :: ·) := by
  constructor
  · intro h
    induction h with
    | nil => exact ⟨[], by simp, rfl⟩
    | slash _ ih =>
      obtain ⟨idle, hidle, rfl⟩ := ih
      exact ⟨[] :: idle, by simpa [isIdle] using hidle, by simp⟩
    | slashDot _ ih =>
      obtain ⟨idle, hidle, rfl⟩ := ih
      exact ⟨['.'] :: idle, by simpa [isIdle] using hidle, by simp⟩
  · rintro ⟨idle, hidle, rfl⟩
    induction idle with
    | nil => exact .nil
    | cons piece idle ih =>
      rw [List.forall_mem_cons, isIdle_eq_true_iff] at hidle
      rcases hidle with ⟨rfl | rfl, hidle⟩
      · exact .slash (ih hidle)
      · exact .slashDot (ih hidle)

theorem Trailing.head? (h : Trailing tail) : ∀ c ∈ tail.head?, c = '/' := by
  cases h <;> simp

/-- What stands before a name ends in an empty piece, which the name fills. -/
theorem pieces_before (h : before = [] ∨ before.getLast? = some '/') :
    before.pieces = before.pieces.dropLast ++ [[]] := by
  rcases h with rfl | h
  · rfl
  · obtain ⟨directory, rfl⟩ := List.getLast?_eq_some_iff.1 h
    rw [pieces_concat_slash, List.dropLast_concat]

theorem ofPieces_before (h : before = [] ∨ before.getLast? = some '/') (name : Text) :
    ofPieces (before.pieces.dropLast ++ [name]) = before ++ name := by
  have hbefore : ofPieces (before.pieces.dropLast ++ [[]]) = before := by
    rw [← pieces_before h, ofPieces_pieces]
  rw [← List.nil_append name, ← ofPieces_concat_append, hbefore, List.nil_append]

/-- The last name is the last piece that counts, behind the pieces before it. -/
theorem EndsIn.solid (h : EndsIn p before name tail) :
    solid p = before.pieces.dropLast ++ [name] := by
  obtain ⟨idle, hidle, htail⟩ := trailing_iff.1 h.trailing
  have hpieces : p.pieces = before.pieces.dropLast ++ [name] ++ idle := by
    rw [← pieces_ofPieces (l := before.pieces.dropLast ++ [name] ++ idle) (by simp),
      ofPieces_append_flatMap (by simp), ofPieces_before h.start, h.path, htail]
    intro piece hmem
    simp only [List.mem_append, List.mem_singleton] at hmem
    rcases hmem with (hmem | rfl) | hmem
    · exact slash_notMem_of_mem_pieces (List.mem_of_mem_dropLast hmem)
    · exact h.noSlash
    · rcases isIdle_eq_true_iff.1 (hidle piece hmem) with rfl | rfl <;> simp
  have hname : ¬ Path.isIdle name = true := by simp [h.isIdle]
  rw [Path.solid, hpieces, List.reverse_append, List.reverse_append, List.reverse_singleton,
    List.dropWhile_append_of_pos fun piece hmem => hidle piece (List.mem_reverse.1 hmem),
    List.singleton_append, List.dropWhile_cons_of_neg hname, List.reverse_cons,
    List.reverse_reverse]

/-- Every path with a file name ends in it. -/
theorem exists_endsIn (h : fileName? p = some name) : ∃ before tail, EndsIn p before name tail := by
  obtain ⟨⟨above, hsolid⟩, -⟩ := fileName?_eq_some_iff.1 h
  obtain ⟨idle, hidle, hpieces⟩ := exists_solid_append p
  rw [hsolid] at hpieces
  have hp : p = ofPieces (above ++ [name]) ++ idle.flatMap ('/' :: ·) := by
    rw [← ofPieces_append_flatMap (by simp), ← hpieces, ofPieces_pieces]
  have hslash : '/' ∉ name := slash_notMem_of_mem_pieces (p := p) (by simp [hpieces])
  have hcounts : name ≠ [] ∧ name ≠ ['.'] := by simpa [isIdle] using isIdle_of_solid hsolid
  have htrailing := trailing_iff.2 ⟨idle, hidle, rfl⟩
  by_cases habove : above = []
  · subst habove
    exact ⟨[], _, by simpa [ofPieces] using hp, Or.inl rfl, hslash, hcounts, htrailing⟩
  · rw [ofPieces_append habove (by simp)] at hp
    exact ⟨ofPieces above ++ ['/'], _, by simpa [ofPieces] using hp, Or.inr (by simp), hslash,
      hcounts, htrailing⟩

theorem EndsIn.fileName? (h : EndsIn p before name tail) (hup : name ≠ up) :
    fileName? p = some name :=
  fileName?_eq_some_iff.2 ⟨⟨_, h.solid⟩, hup⟩

/-- Two paths have the same directory if the same stands before their last names. -/
theorem EndsIn.parent?_eq {p' : Path} {name' tail' : Text} (h : EndsIn p before name tail)
    (h' : EndsIn p' before name' tail') : parent? p' = parent? p := by
  -- A name does not start with a slash, so only what stands before it tells.
  have hhead : ∀ {q : Path} {n r : Text}, EndsIn q before n r →
      isAbsolute q = isAbsolute (before ++ ['.']) := by
    intro q n r hq
    have hslash : n.head? ≠ some '/' := fun hn => hq.noSlash (List.mem_of_head? hn)
    obtain ⟨c, rest, rfl⟩ := List.exists_cons_of_ne_nil hq.counts.1
    rw [hq.path]
    cases before with
    | nil => simpa [isAbsolute] using hslash
    | cons b before => rfl
  simp only [parent?, h.solid, h'.solid, hhead h, hhead h', List.reverse_append,
    List.reverse_singleton, List.singleton_append]

/-! ## Extensions -/

/-- An extension goes right behind the last name; what trails is dropped. -/
theorem EndsIn.withExtension (h : EndsIn p before name tail) (hup : name ≠ up)
    (extension : Text) :
    withExtension extension p = before ++ name ++ '.' :: extension := by
  simp only [Path.withExtension, h.fileName? hup, h.solid, ofPieces_before h.start]

/-- The extension becomes the end of the last name. -/
theorem EndsIn.extended (h : EndsIn p before name tail) (hslash : '/' ∉ extension) :
    EndsIn (before ++ name ++ '.' :: extension) before (name ++ '.' :: extension) [] where
  path := by simp
  start := h.start
  noSlash := by simp [h.noSlash, hslash]
  counts := by
    obtain ⟨c, rest, rfl⟩ := List.exists_cons_of_ne_nil h.counts.1
    simp
  trailing := .nil

theorem fileName?_withExtension (hname : fileName? p = some name) (hslash : '/' ∉ extension) :
    fileName? (withExtension extension p) = some (name ++ '.' :: extension) := by
  obtain ⟨before, tail, h⟩ := exists_endsIn hname
  rw [h.withExtension (fileName?_eq_some_iff.1 hname).2 extension]
  refine (h.extended hslash).fileName? ?_
  -- Two dots would need a name that is a single dot.
  intro hup
  obtain ⟨c, rest, rfl⟩ := List.exists_cons_of_ne_nil h.counts.1
  obtain ⟨rfl, hrest⟩ := List.cons_eq_cons.1 hup
  cases rest with
  | nil => exact h.counts.2 rfl
  | cons d rest => simp at hrest

theorem hasExtension_withExtension (hname : fileName? p = some name) (hslash : '/' ∉ extension) :
    hasExtension (withExtension extension p) = true := by
  rw [hasExtension, fileName?_withExtension hname hslash]
  obtain ⟨before, tail, h⟩ := exists_endsIn hname
  obtain ⟨c, rest, rfl⟩ := List.exists_cons_of_ne_nil h.counts.1
  simp [hasLaterDot]

end Runpad.Path
