/-
  Text areas that come about by operations.

  Such an area is rows of bytes and a flat text at once: on the rows every operation goes
  through, with nothing out of range, and in the text it has one effect.

  * `builtGrid` does operations to the grid of an empty text, as long as they go through;
    `builtGrid_eq`: if their sizes are below the bound, they all do, and lead to the grid
    of the area that they build;
  * `flat_built`: every area that comes about is a flat text with an offset.
-/
import Mathlib
import Runpad.Proofs.TextArea.Grid

namespace Runpad.TextArea

/-- The grid that comes about from that of an empty text. -/
def builtGrid (ops : List Operation) : Option Grid :=
  ops.foldlM Operation.onGrid (grid {})

theorem foldlM_onGrid {ops : List Operation} (h : ∀ op ∈ ops, op.Sized) (a : TextArea) :
    ops.foldlM Operation.onGrid a.grid = some (ops.foldl Operation.apply a).grid := by
  induction ops generalizing a with
  | nil => rfl
  | cons op ops ih =>
    obtain ⟨hop, hops⟩ := List.forall_mem_cons.1 h
    rw [List.foldlM_cons, onGrid_grid a hop, Option.bind_eq_bind, Option.bind_some, ih hops]
    rfl

/-- Operations on rows of bytes build the rows of what they build. -/
theorem builtGrid_eq {ops : List Operation} (h : ∀ op ∈ ops, op.Sized) :
    builtGrid ops = some (built ops).grid :=
  foldlM_onGrid h {}

/-- **A text area is a flat text with one offset.**  Whatever operations made it, with
    sizes below the bound, they go through on its rows of bytes; its lines are those of
    the text, the places in the lines are the offsets in the text, and the cursor is at
    such a place.  Every further operation, of such a size, goes through as well and is
    one on the text and the offset. -/
theorem flat_built {ops : List Operation} (h : ∀ op ∈ ops, op.Sized) :
    builtGrid ops = some (built ops).grid ∧
    Text.lines (built ops).text = (built ops).lines ∧
    Set.BijOn (fun p : Nat × Nat => offsetOf (built ops).lines p.1 p.2)
      {p | IsPlace (built ops).lines p.1 p.2} {k | k ≤ (built ops).text.length} ∧
    IsPlace (built ops).lines (built ops).row (built ops).column ∧
    ∀ op : Operation, op.Sized →
      op.onGrid (built ops).grid = some (op.apply (built ops)).grid ∧
      op.FlatEffect (built ops) (op.apply (built ops)) := by
  have htidy := tidy_built ops
  refine ⟨builtGrid_eq h, htidy.lines_text, bijOn_offsetOf _, isPlace_cursor _, ?_⟩
  intro op hop
  exact ⟨onGrid_grid _ hop, htidy.flatEffect op⟩

/-- Two lines are pasted, the first with a character of two bytes; the cursor goes up to
    it, and the window is moved. -/
def twoRows : List Operation :=
  [.paste ['é', '\r', '\n', 'b'], .moveUp, .scroll 1 1]

/-- The largest page leads from the first line to the second and to its end. -/
theorem twoRows_flat :
    (∀ op ∈ twoRows, op.Sized) ∧ (Operation.pageDown (memoryBound - 1)).Sized ∧
    builtGrid twoRows = some ⟨[[0xC3, 0xA9], [0x62]], 0, 1, 0, 1⟩ ∧
    (Operation.pageDown (memoryBound - 1)).onGrid ⟨[[0xC3, 0xA9], [0x62]], 0, 1, 0, 1⟩ =
      some ⟨[[0xC3, 0xA9], [0x62]], 1, 1, 0, 1⟩ ∧
    ((Operation.pageDown (memoryBound - 1)).apply (built twoRows)).text = ['é', '\n', 'b'] ∧
    MovedTo 1 (built twoRows) ((Operation.pageDown (memoryBound - 1)).apply (built twoRows)) := by
  have hsized : ∀ op ∈ twoRows, op.Sized := by decide
  have hpage : (Operation.pageDown (memoryBound - 1)).Sized := by decide
  obtain ⟨hgrid, -, -, -, hfurther⟩ := flat_built hsized
  obtain ⟨hpaged, htext, hmoved⟩ := hfurther _ hpage
  have hrows : (built twoRows).grid = ⟨[[0xC3, 0xA9], [0x62]], 0, 1, 0, 1⟩ := by decide
  have hbelow : ((Operation.pageDown (memoryBound - 1)).apply (built twoRows)).grid =
      ⟨[[0xC3, 0xA9], [0x62]], 1, 1, 0, 1⟩ := by decide
  have hlast : min ((built twoRows).row + max (memoryBound - 1) 1)
      ((built twoRows).lines.length - 1) = 1 := by decide
  rw [hrows] at hgrid
  rw [hrows, hbelow] at hpaged
  rw [hlast] at hmoved
  exact ⟨hsized, hpage, hgrid, hpaged, htext.trans (by decide), hmoved⟩

end Runpad.TextArea
