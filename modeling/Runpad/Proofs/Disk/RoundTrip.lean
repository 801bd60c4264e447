/-
  A text that was saved is opened again.

  * `Store.target_target`: the path that a path stands for stands for itself;
  * `Disk.Wrote` is what a save leaves of a disk: the path leads to the text, and no
    other place or file has changed; `Writable.wrote` and `Writable.put`: a path that
    can be written is left so, and can be written again;
  * `saved_opened`: so a save can be repeated under the path that it reports, with any
    other text, and an opening gives the text of the last one.
-/
import Mathlib
import Runpad.Proofs.Disk.Read
import Runpad.Proofs.Disk.Target

namespace Runpad

namespace Disk

variable {d d' : Disk} {p q r : Path} {place there : List Text} {content : Bytes} {t : Text}

/-! ## What a save leaves -/

theorem read_of_locate (hl : d.locate p = .ok place) (ha : d.at? place = some (.file content)) :
    d.read p = .ok content := by
  rw [read_eq_ok_iff, node?, hl, ok_bind, ha]

theorem locate_of_read (h : d.read p = .ok content) :
    ∃ place, d.locate p = .ok place ∧ d.at? place = some (.file content) := by
  obtain ⟨place, hl, hn⟩ := bind_eq_ok_iff.1 (read_eq_ok_iff.1 h)
  refine ⟨place, hl, ?_⟩
  cases ha : d.at? place with
  | none => rw [ha] at hn; cases hn
  | some node => rw [ha] at hn; cases hn; rfl

/-- `d'` is `d` after the text was written at the place that the path leads to. -/
structure Wrote (p : Path) (t : Text) (place : List Text) (d d' : Disk) : Prop where
  located : d.locate p = .ok place
  opened : Store.open p d' = .ok t
  /-- The file holds the bytes of the text, and none of what it held before. -/
  content : d'.at? place = some (.file (Utf8.encode t))
  /-- At every other place there is what was there before. -/
  others : ∀ other, other ≠ place → d'.at? other = d.at? other
  /-- Every other file has the bytes that it had, under every path that leads to it. -/
  files : ∀ q bytes, d.locate q ≠ .ok place → d.read q = .ok bytes → d'.read q = .ok bytes

theorem Writable.wrote (h : d.Writable p place) (t : Text) :
    Wrote p t place d (d.put place (.file (Utf8.encode t))) where
  located := h.located
  opened := Store.open_eq_ok_iff.2 (read_put h _)
  content := at?_put d h.ne_nil _
  others := fun _ hne => at?_put_of_ne d hne _
  files := by
    intro q bytes hne hread
    obtain ⟨there, hl, ha⟩ := locate_of_read hread
    have hthere : there ≠ place := by
      rintro rfl
      exact hne hl
    exact read_of_locate (locate_put h.noDirectory _ hl) (by rw [at?_put_of_ne d hthere, ha])

/-- The path still leads to the file. -/
theorem Writable.put (h : d.Writable p place) (content : Bytes) :
    (d.put place (.file content)).Writable p place where
  noSlash := h.noSlash
  located := locate_put h.noDirectory _ h.located
  noDirectory := by
    rw [at?_put d h.ne_nil]
    rintro ⟨⟩

end Disk

namespace Store

variable {store : Store} {p q : Path} {place : List Text} {d d' : Disk} {t : Text}

/-! ## Saving again -/

/-- What a path stands for stands for itself. -/
theorem target_target (hslash : '/' ∉ store.extension) (h : store.target p = .ok q) :
    store.target q = .ok q := by
  have hne : p ≠ [] := by
    rintro rfl
    cases h
  by_cases hcomplete : store.Complete p
  · have hself := target_of_complete hne hcomplete
    obtain rfl : p = q := Except.ok.inj (hself.symm.trans h)
    exact hself
  · obtain ⟨name, hname, htarget⟩ := target_of_not_complete hne hcomplete
    obtain rfl := Except.ok.inj (htarget.symm.trans h)
    have hextended := Path.hasExtension_withExtension hname hslash
    refine target_of_complete (fun hnil => ?_) (Or.inr (Or.inl hextended))
    rw [hnil] at hextended
    cases hextended

theorem save_of_writable (h : store.target p = .ok q) (hw : d.Writable q place) (t : Text) :
    store.save p t d = .ok (q, d.put place (.file (Utf8.encode t))) := by
  rcases save_cases h t d with ⟨place', hw', hs⟩ | ⟨hno, -⟩
  · obtain rfl : place' = place := Except.ok.inj (hw'.located.symm.trans hw.located)
    exact hs
  · exact absurd hw (hno place)

/-- **A text that was saved is opened again.**  The save reports the path that the
    given one stands for, and that stands for itself.  An opening gives the text, and
    no other file has changed.  Any text can be saved under that path again, and then
    nothing is left of the one before. -/
theorem saved_opened (hslash : '/' ∉ store.extension) (h : store.save p t d = .ok (q, d')) :
    store.target p = .ok q ∧ store.target q = .ok q ∧
    ∃ place, Disk.Wrote q t place d d' ∧
      ∀ t', ∃ d'', store.save q t' d' = .ok (q, d'') ∧ Disk.Wrote q t' place d' d'' := by
  obtain ⟨htarget, place, hw, rfl⟩ := writable_of_save h
  have hself := target_target hslash htarget
  have hagain := hw.put (Utf8.encode t)
  refine ⟨htarget, hself, place, hw.wrote t, fun t' => ?_⟩
  exact ⟨_, save_of_writable hself hagain t', hagain.wrote t'⟩

/-- A disk with a directory and a file in it. -/
def oneNeighbour : Disk :=
  ⟨[], [([['d']], .directory), ([['d'], ['n']], .file [0x6E])]⟩

/-- A longer text and then a shorter one, in a new file beside another. -/
theorem shorterText_opened :
    '/' ∉ (⟨['t']⟩ : Store).extension ∧
    ∃ d' d'', (⟨['t']⟩ : Store).save "d/a/.".toList "long".toList oneNeighbour =
        .ok ("d/a.t".toList, d') ∧
      Store.open "d/a.t".toList d' = .ok "long".toList ∧
      (⟨['t']⟩ : Store).save "d/a.t".toList ['é'] d' = .ok ("d/a.t".toList, d'') ∧
      Store.open "d/a.t".toList d'' = .ok ['é'] ∧
      d''.read "d/n".toList = .ok [0x6E] := by
  have hslash : '/' ∉ (⟨['t']⟩ : Store).extension := by decide
  have hsave : (⟨['t']⟩ : Store).save "d/a/.".toList "long".toList oneNeighbour =
      .ok ("d/a.t".toList, oneNeighbour.put [['d'], "a.t".toList]
        (.file (Utf8.encode "long".toList))) := by
    decide
  obtain ⟨-, -, place, hwrote, hagain⟩ := saved_opened hslash hsave
  obtain ⟨d'', hsave', hwrote'⟩ := hagain ['é']
  obtain rfl : [['d'], "a.t".toList] = place :=
    Except.ok.inj (.trans (by decide) hwrote.located)
  refine ⟨hslash, _, d'', hsave, hwrote.opened, hsave', hwrote'.opened, ?_⟩
  refine hwrote'.files _ _ (by decide) (hwrote.files _ _ (by decide) (by decide))

end Store

end Runpad
