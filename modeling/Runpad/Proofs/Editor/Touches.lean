/-
  What the editor does to the texts that it holds.

  * `Parts` are these texts as bytes: the two regions and the path of a prompt;
  * `Touch` is one thing that is done to them, `Touch.onParts` does it with all
    its tests; `Editor.touches` are those of an event, in order;
  * `sized_window`, `pageRows_lt`: the sizes that a window and a page have are small;
  * `perform_handle`: an event does its touches, and all of them go through;
    `Parts.Sound.perform`: touches that go through leave the texts sound.
-/
import Mathlib
import Runpad.Editor.Session
import Runpad.Proofs.Editor.PromptLine
import Runpad.Proofs.Editor.Response
import Runpad.Proofs.Screen.Panes

namespace Runpad

open TextArea (Operation)

/-! ## Touches -/

/-- The texts of an editor as bytes. -/
structure Parts where
  input : Grid
  output : Grid
  prompt : Option PromptLine
  deriving DecidableEq, Repr

/-- All of them are sound. -/
structure Parts.Sound (b : Parts) : Prop where
  input : b.input.Sound
  output : b.output.Sound
  prompt : ∀ l, b.prompt = some l → l.Sound

/-- One thing that is done to the texts. -/
inductive Touch where
  | region (focus : Focus) (op : Operation)
  | prompt (edit : Prompt.Edit)
  /-- A prompt comes up, with a path in it. -/
  | ask (path : Text)
  | close
  deriving DecidableEq, Repr

/-- Does it. -/
def Touch.onParts (b : Parts) : Touch → Option Parts
  | .region .input op => do
    let input ← op.onGrid b.input
    some { b with input }
  | .region .output op => do
    let output ← op.onGrid b.output
    some { b with output }
  | .prompt edit => do
    let l ← b.prompt
    let l ← edit.onLine l
    some { b with prompt := some l }
  | .ask path => some { b with prompt := some ⟨Utf8.encode path, path.length⟩ }
  | .close => some { b with prompt := none }

/-- Does several, one after the other. -/
def Parts.perform (touches : List Touch) (b : Parts) : Option Parts :=
  touches.foldlM Touch.onParts b

theorem Parts.perform_cons (t : Touch) (touches : List Touch) (b : Parts) :
    b.perform (t :: touches) = (t.onParts b).bind (Parts.perform touches) := rfl

/-- A touch that goes through leaves the texts sound. -/
theorem Parts.Sound.onParts {b b' : Parts} (h : b.Sound) {t : Touch} (ht : t.onParts b = some b') :
    b'.Sound := by
  cases t with
  | region focus op =>
    cases focus with
    | input =>
      obtain ⟨g, hg, ht⟩ := Option.bind_eq_some_iff.1 ht
      cases ht
      exact ⟨h.input.onGrid hg, h.output, h.prompt⟩
    | output =>
      obtain ⟨g, hg, ht⟩ := Option.bind_eq_some_iff.1 ht
      cases ht
      exact ⟨h.input, h.output.onGrid hg, h.prompt⟩
  | prompt edit =>
    obtain ⟨l, hl, ht⟩ := Option.bind_eq_some_iff.1 ht
    obtain ⟨l', hl', hsound⟩ := Prompt.sound_onLine (h.prompt l hl) edit
    simp only [hl', Option.bind_eq_bind, Option.bind_some, Option.some.injEq] at ht
    subst ht
    refine ⟨h.input, h.output, ?_⟩
    rintro _ ⟨⟩
    exact hsound
  | ask path =>
    cases ht
    refine ⟨h.input, h.output, ?_⟩
    rintro _ ⟨⟩
    exact Prompt.sound_line_iff.2 (Prompt.within_start .open path)
  | close =>
    cases ht
    exact ⟨h.input, h.output, nofun⟩

theorem Parts.Sound.perform {b b' : Parts} (h : b.Sound) {touches : List Touch}
    (hp : b.perform touches = some b') : b'.Sound := by
  induction touches generalizing b with
  | nil =>
    cases hp
    exact h
  | cons t touches ih =>
    rw [Parts.perform_cons] at hp
    obtain ⟨b₁, ht, hrest⟩ := Option.bind_eq_some_iff.1 hp
    exact ih (h.onParts ht) hrest

namespace Editor

/-! ## The touches of an event -/

/-- The move that a key stands for. -/
def moveOperation? (rows : Nat) : Key → Option Operation
  | .left => some .moveLeft
  | .right => some .moveRight
  | .up => some .moveUp
  | .down => some .moveDown
  | .home => some .toLineStart
  | .endKey => some .toLineEnd
  | .pageUp => some (.pageUp rows)
  | .pageDown => some (.pageDown rows)
  | _ => none

/-- The edit that a key stands for. -/
def editOperation? (m : Modifiers) : Key → Option Operation
  | .enter => some .breakLine
  | .backspace => some .backspace
  | .delete => some .delete
  | .tab => some .insertTab
  | .char c => if m.control || m.alt then none else some (.insert c)
  | _ => none

/-- Opening a file replaces the input, if the file has a text. -/
def openTouches (path : Option Path) (d : Disk) : List Touch :=
  match path with
  | none => []
  | some path =>
    match Store.open path d with
    | .ok t => [.region .input (.setText t)]
    | .error _ => []

/-- Drawing moves the two windows. -/
def drawTouches (regions : Regions) : List Touch :=
  [.region .input (.scroll regions.input.inner.width regions.input.inner.height),
    .region .output (.scroll regions.output.inner.width regions.output.inner.height)]

/-- A key while a prompt is shown. -/
def promptTouches (p : Prompt) (key : Key) (m : Modifiers) (d : Disk) : List Touch :=
  match key with
  | .escape => [.close]
  | .enter =>
    match p.purpose with
    | .open => .close :: openTouches p.chosen d
    | .save => [.close]
  | _ => ((Prompt.edit? m key).map Touch.prompt).toList

/-- A key that moves or edits. -/
def moveOrEditTouches (key : Key) (m : Modifiers) (e : Editor) : List Touch :=
  match moveOperation? e.pageRows key with
  | some op => [.region e.focus op]
  | none =>
    match e.focus, editOperation? m key with
    | .input, some op => [.region .input op]
    | _, _ => []

/-- A key while nothing is in front of the regions; commands touch nothing. -/
def regionTouches (key : Key) (m : Modifiers) (e : Editor) : List Touch :=
  match command? key m with
  | some _ => []
  | none =>
    if key = .char 'c' ∧ m.control then []
    else if key = .function 1 then []
    else if key = .backTab ∨ key = .tab ∧ e.focus = .output then []
    else e.moveOrEditTouches key m

/-- A move in the region at a place. -/
def scrollTouches (place : Place) (op : Operation) (e : Editor) : List Touch :=
  match e.regionAt place with
  | some focus => [.region focus op]
  | none => []

/-- What an event does to the texts. -/
def touches (e : Editor) (d : Disk) : Event → List Touch
  | .key key m =>
    match e.prompt with
    | some p => promptTouches p key m d
    | none => if e.help then [] else e.regionTouches key m
  | .mouse action place =>
    match e.prompt, action with
    | none, .scrollUp => e.scrollTouches place .moveUp
    | none, .scrollDown => e.scrollTouches place .moveDown
    | _, _ => []
  | .paste t =>
    match e.prompt, e.focus with
    | some _, _ => [.prompt (.paste t)]
    | none, .input => [.region .input (.paste t)]
    | none, .output => []
  | .resize _ _ => []

/-- The texts of an editor. -/
def parts (e : Editor) : Parts :=
  ⟨e.input.grid, e.output.grid, e.prompt.map Prompt.line⟩

/-! ## Sizes -/

theorem lastCoordinate_lt_memoryBound : Rect.lastCoordinate < memoryBound := by decide

/-- A window is as wide and as high as what is left of its part within the border. -/
theorem sized_window {r : Rect} (h : r.Fits) :
    (Operation.scroll r.inner.width r.inner.height).Sized := by
  have hbound := lastCoordinate_lt_memoryBound
  have hright := h.right
  have hbottom := h.bottom
  rw [Operation.sized_scroll]
  simp only [Rect.inner]
  omega

/-- A page has the height of a part. -/
theorem pageRows_lt {e : Editor} (h : e.regions.Fit) : e.pageRows < memoryBound := by
  have hfits : e.focusedRect.Fits := by
    unfold focusedRect
    cases e.focus with
    | input => exact h.input
    | output => exact h.output
  have hbound := lastCoordinate_lt_memoryBound
  have hbottom := hfits.bottom
  exact max_one_lt (by omega)

theorem sized_move {rows : Nat} (hrows : rows < memoryBound) {key : Key} {op : Operation}
    (h : moveOperation? rows key = some op) : op.Sized := by
  cases key with
  | pageDown =>
    cases h
    exact Operation.sized_pageDown.2 hrows
  | left | right | up | down | home | endKey | pageUp =>
    cases h
    exact Operation.sized_of_nil rfl
  | _ => cases h

theorem sized_edit {m : Modifiers} {key : Key} {op : Operation}
    (h : editOperation? m key = some op) : op.Sized := by
  cases key with
  | char c =>
    simp only [editOperation?, Option.ite_none_left_eq_some] at h
    obtain ⟨-, h⟩ := h
    cases h
    exact Operation.sized_of_nil rfl
  | enter | backspace | delete | tab =>
    cases h
    exact Operation.sized_of_nil rfl
  | _ => cases h

/-! ## All touches of an event go through -/

theorem move?_eq (rows : Nat) (key : Key) :
    move? rows key = (moveOperation? rows key).map fun op a => op.apply a := by
  cases key <;> rfl

theorem edit?_eq (m : Modifiers) (key : Key) :
    edit? m key = (editOperation? m key).map fun op a => op.apply a := by
  cases key with
  | char c =>
    simp only [edit?, editOperation?]
    split_ifs <;> rfl
  | _ => rfl

variable {e : Editor} (d : Disk)

theorem perform_nil : e.parts.perform [] = some e.parts := rfl

/-- An operation in one region. -/
theorem onParts_region {op : Operation} (hsized : op.Sized) (focus : Focus) (e : Editor) :
    (Touch.region focus op).onParts e.parts =
      some ({ e with focus }.mapFocused fun a => op.apply a).parts := by
  cases focus with
  | input =>
    simp only [Touch.onParts, parts, TextArea.onGrid_grid _ hsized, Option.bind_eq_bind,
      Option.bind_some]
    rfl
  | output =>
    simp only [Touch.onParts, parts, TextArea.onGrid_grid _ hsized, Option.bind_eq_bind,
      Option.bind_some]
    rfl

theorem perform_region {op : Operation} (hsized : op.Sized) (focus : Focus) (e : Editor) :
    e.parts.perform [.region focus op] =
      some ({ e with focus }.mapFocused fun a => op.apply a).parts := by
  rw [Parts.perform_cons, onParts_region hsized]
  rfl

theorem onParts_prompt {p : Prompt} (hp : e.prompt = some p) (hwithin : p.Within)
    (edit : Prompt.Edit) :
    (Touch.prompt edit).onParts e.parts = some { e with prompt := some (edit.apply p) }.parts := by
  simp only [Touch.onParts, parts, hp, Option.map_some, Prompt.onLine_line hwithin,
    Option.bind_eq_bind, Option.bind_some]

theorem perform_prompt {p : Prompt} (hp : e.prompt = some p) (hwithin : p.Within)
    (edit : Prompt.Edit) :
    e.parts.perform [.prompt edit] = some { e with prompt := some (edit.apply p) }.parts := by
  rw [Parts.perform_cons, onParts_prompt hp hwithin]
  rfl

theorem perform_openFile (path : Option Path) (e : Editor) :
    e.parts.perform (openTouches path d) = some (e.openFile path d).parts := by
  cases path with
  | none => rfl
  | some path =>
    simp only [openTouches, openFile]
    cases Store.open path d with
    | ok t => exact perform_region (Operation.sized_of_nil rfl) .input e
    | error fault => rfl

theorem perform_drawn (width height : Nat) (e : Editor) :
    e.parts.perform (drawTouches (layout ⟨0, 0, width, height⟩)) =
      some (e.drawn width height).parts := by
  have hfit := fit_layout width height
  unfold drawn
  generalize layout ⟨0, 0, width, height⟩ = regions at hfit
  rw [drawTouches, Parts.perform_cons, onParts_region (sized_window hfit.input),
    Option.bind_some, perform_region (sized_window hfit.output)]
  rfl

theorem perform_finishPrompt (store : Store) (p : Prompt) (path : Option Path) (e : Editor) :
    e.parts.perform
        (match p.purpose with
          | .open => .close :: openTouches path d
          | .save => [.close]) =
      some ({ e with prompt := none }.finishPrompt store p.purpose path d).1.parts := by
  cases p.purpose with
  | «open» =>
    have hclosed : Touch.close.onParts e.parts = some { e with prompt := none }.parts := rfl
    rw [Parts.perform_cons, hclosed, Option.bind_some, perform_openFile]
    rfl
  | save =>
    simp only [finishPrompt, saveFile]
    split
    · rfl
    · split <;> rfl

theorem perform_pressInPrompt (store : Store) {p : Prompt} (hp : e.prompt = some p)
    (hwithin : p.Within) (key : Key) (m : Modifiers) :
    e.parts.perform (promptTouches p key m d) =
      some (e.pressInPrompt store p key m d).1.parts := by
  have hsame : { e with prompt := some p } = e := by rw [← hp]
  have hedit : e.parts.perform ((Prompt.edit? m key).map Touch.prompt).toList =
      some { e with prompt := some (promptKey key m p) }.parts := by
    rw [Prompt.promptKey_eq]
    cases Prompt.edit? m key with
    | none => simp [hsame, perform_nil]
    | some edit => exact perform_prompt hp hwithin edit
  cases key with
  | escape =>
    simp only [promptTouches, pressInPrompt, finishPrompt_none]
    rfl
  | enter => exact perform_finishPrompt d store p p.chosen e
  | _ => exact hedit

theorem perform_moveOrEdit (hfit : e.regions.Fit) (key : Key) (m : Modifiers) :
    e.parts.perform (e.moveOrEditTouches key m) = some (e.moveOrEdit key m).parts := by
  simp only [moveOrEditTouches, moveOrEdit, move?_eq, edit?_eq]
  cases hmove : moveOperation? e.pageRows key with
  | some op => exact perform_region (sized_move (pageRows_lt hfit) hmove) e.focus e
  | none =>
    cases hfocus : e.focus with
    | input =>
      cases hedit : editOperation? m key with
      | some op => exact perform_region (sized_edit hedit) .input e
      | none => rfl
    | output => rfl

theorem parts_interrupt (now : Nat) (e : Editor) : (e.interrupt now).2.parts = e.parts := by
  unfold interrupt
  split <;> rfl

theorem perform_pressInRegion (hfit : e.regions.Fit) (now : Nat) (key : Key) (m : Modifiers) :
    e.parts.perform (e.regionTouches key m) = some (e.pressInRegion now key m).2.parts := by
  simp only [regionTouches, pressInRegion]
  cases command? key m with
  | some flow => rfl
  | none =>
    dsimp only
    by_cases hinterrupt : key = .char 'c' ∧ m.control = true
    · rw [if_pos hinterrupt, if_pos hinterrupt]
      exact congrArg some (parts_interrupt now e).symm
    · rw [if_neg hinterrupt, if_neg hinterrupt]
      split_ifs
      · rfl
      · rfl
      · exact perform_moveOrEdit hfit key m

theorem perform_scrollAt {op : Operation} (hsized : op.Sized) (place : Place) (e : Editor) :
    e.parts.perform (e.scrollTouches place op) =
      some (e.scrollAt place fun a => op.apply a).parts := by
  simp only [scrollTouches, scrollAt]
  cases e.regionAt place with
  | some focus => exact perform_region hsized focus e
  | none => rfl

theorem parts_click (place : Place) (e : Editor) : (e.click place).2.parts = e.parts := by
  unfold click
  split_ifs
  · rfl
  · split
    · rfl
    · unfold scrollAt
      split
      · rw [mapFocused_id]
        rfl
      · rfl

theorem perform_paste (t : Text) (hwithin : ∀ p, e.prompt = some p → p.Within) :
    e.parts.perform (e.touches d (.paste t)) = some (e.paste t).parts := by
  cases hp : e.prompt with
  | some p =>
    have hpaste : e.paste t = { e with prompt := some (p.paste t) } := by simp only [paste, hp]
    simp only [touches, hp, hpaste]
    exact perform_prompt hp (hwithin p hp) (.paste t)
  | none =>
    cases hfocus : e.focus with
    | input =>
      have htouches : e.touches d (.paste t) = [.region .input (.paste t)] := by
        simp only [touches, hp, hfocus]
      have hpaste : (e.paste t).parts = { e with input := e.input.paste t }.parts := by
        simp only [paste, hp, hfocus, parts]
      rw [htouches, hpaste]
      exact perform_region (Operation.sized_of_nil rfl) .input e
    | output =>
      have hpaste : e.paste t = e := by simp only [paste, hp, hfocus]
      simp only [touches, hp, hfocus, hpaste, perform_nil]

/-- **All that an event does to the texts goes through.** -/
theorem perform_handle (store : Store) (now : Nat) (event : Event) (hfit : e.regions.Fit)
    (hwithin : ∀ p, e.prompt = some p → p.Within) :
    e.parts.perform (e.touches d event) = some (e.handle store now event d).2.1.parts := by
  cases hp : e.prompt with
  | some p =>
    cases event with
    | key key m =>
      simp only [touches, handle, press, hp]
      exact perform_pressInPrompt d store hp (hwithin p hp) key m
    | mouse action place => simp [touches, handle, mouse, hp, perform_nil]
    | paste t => exact perform_paste d t hwithin
    | resize width height => rfl
  | none =>
    cases event with
    | key key m =>
      simp only [touches, handle, press, hp]
      split_ifs
      · rfl
      · exact perform_pressInRegion hfit now key m
    | mouse action place =>
      cases action with
      | press button =>
        cases button with
        | left => simp [touches, handle, mouse, hp, perform_nil, parts_click]
        | _ => simp [touches, handle, mouse, hp, perform_nil]
      | scrollUp =>
        simp only [touches, handle, mouse, hp, Option.isSome_none, Bool.false_eq_true, if_false]
        exact perform_scrollAt (Operation.sized_of_nil rfl) place e
      | scrollDown =>
        simp only [touches, handle, mouse, hp, Option.isSome_none, Bool.false_eq_true, if_false]
        exact perform_scrollAt (Operation.sized_of_nil rfl) place e
      | _ => simp [touches, handle, mouse, hp, perform_nil]
    | paste t => exact perform_paste d t hwithin
    | resize width height => rfl

end Editor

end Runpad
