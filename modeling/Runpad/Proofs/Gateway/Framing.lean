/-
  Calls read off the wire.

  * `Frame` is a call as a server finds it between the lines: its argument lines
    are still as they came, `Frame.call` is what they stand for;
  * `framesOf` reads a text from its first to its last line: an opening line, a
    target, a method, and argument lines up to the first closing line;
  * `framesOf_encode_append`: a call that was written is read back, and what
    comes after it is read as if it stood alone;
  * `framesOf_encodeAll`: so calls one after the other are read back, whatever
    texts their arguments are.
-/
import Mathlib
import Runpad.Gateway.Call
import Runpad.Text.Lines

namespace Runpad.Gateway

/-! ## The reader -/

/-- A call as it was read, with its argument lines. -/
structure Frame where
  target : Text
  method : Text
  lines : List Text
  deriving DecidableEq, Repr

/-- The call that a frame stands for: each argument was escaped, after a mark. -/
def Frame.call (f : Frame) : Call :=
  ⟨f.target, f.method, f.lines.map fun l => unescape (l.drop 1)⟩

/-- The frames that lines consist of; none if they are not whole frames. -/
def framesOfLines : List Text → Option (List Frame)
  | [] => some []
  | opening :: target :: method :: rest =>
    if opening = Call.opening then
      match _h : rest.dropWhile (· ≠ Call.closing) with
      | _ :: later =>
        (framesOfLines later).map (⟨target, method, rest.takeWhile (· ≠ Call.closing)⟩ :: ·)
      | [] => none
    else none
  | _ => none
termination_by lines => lines.length
decreasing_by
  have := (List.dropWhile_suffix (· ≠ Call.closing) (l := rest)).length_le
  simp_all only [List.length_cons]
  omega

/-- The lines of a text that ends with its last line. -/
def wholeLines (t : Text) : Option (List Text) :=
  if (Text.lines t).getLast? = some [] then some (Text.lines t).dropLast else none

/-- The frames that a text consists of. -/
def framesOf (t : Text) : Option (List Frame) :=
  (wholeLines t).bind framesOfLines

/-! ## Up to a separator -/

section Separator

variable {α : Type} [DecidableEq α] {a : α} {l : List α}

theorem dropWhile_ne_append (h : a ∉ l) (rest : List α) :
    (l ++ a :: rest).dropWhile (· ≠ a) = a :: rest := by
  rw [List.dropWhile_append_of_pos, List.dropWhile_cons_of_neg (by simp)]
  intro b hb
  simpa using ne_of_mem_of_not_mem hb h

theorem takeWhile_ne_append (h : a ∉ l) (rest : List α) :
    (l ++ a :: rest).takeWhile (· ≠ a) = l := by
  rw [List.takeWhile_append_of_pos, List.takeWhile_cons_of_neg (by simp), List.append_nil]
  intro b hb
  simpa using ne_of_mem_of_not_mem hb h

end Separator

/-! ## Lines come back -/

theorem lines_line_append {l : Text} (h : '\n' ∉ l) (t : Text) :
    Text.lines (l ++ '\n' :: t) = l :: Text.lines t := by
  simp [Text.lines, Text.cut_append_line h, Text.cut]

theorem wholeLines_append {ls : List Text} (h : ∀ l ∈ ls, '\n' ∉ l) (t : Text) :
    wholeLines (feedLines ls ++ t) = (wholeLines t).map (ls ++ ·) := by
  induction ls with
  | nil => simp [feedLines]
  | cons l ls ih =>
    have hl : Text.lines (feedLines (l :: ls) ++ t) = l :: Text.lines (feedLines ls ++ t) := by
      rw [← lines_line_append (h l (by simp))]; simp [feedLines]
    have hne : Text.lines (feedLines ls ++ t) ≠ [] := by simp [Text.lines]
    have ih := ih fun l' hl' => h l' (by simp [hl'])
    unfold wholeLines at ih ⊢
    rw [hl, List.getLast?_cons_of_ne_nil hne, List.dropLast_cons_of_ne_nil hne]
    split
    · next hlast => rw [if_pos hlast] at ih; split at ih <;> simp_all
    · next hlast => rw [if_neg hlast] at ih; split at ih <;> simp_all

/-- What follows a whole frame is read as if it stood alone. -/
theorem framesOfLines_append {f : Frame} (h : Call.closing ∉ f.lines) (ls : List Text) :
    framesOfLines (Call.opening :: f.target :: f.method :: f.lines ++ Call.closing :: ls) =
      (framesOfLines ls).map (f :: ·) := by
  have hd := dropWhile_ne_append h ls
  have ht := takeWhile_ne_append h ls
  rw [List.cons_append, List.cons_append, List.cons_append, framesOfLines, if_pos rfl]
  split
  · next h' => rw [hd] at h'; obtain ⟨-, rfl⟩ := List.cons.inj h'; rw [ht]
  · next h' => rw [hd] at h'; cases h'

/-! ## Calls come back -/

/-- The frame in which a call is sent. -/
def Call.frame (call : Call) : Frame :=
  ⟨call.target, call.method, call.arguments.map fun a => Call.textMark :: escape a⟩

@[simp] theorem call_frame (call : Call) : call.frame.call = call := by
  simp [Call.frame, Frame.call, Function.comp_def, unescape_escape]

/-- The names in a call can stand on lines of their own. -/
def Call.OneLine (call : Call) : Prop :=
  '\n' ∉ call.target ∧ '\n' ∉ call.method

/-- An argument line starts with its mark and holds no line break. -/
theorem mem_frame_lines {call : Call} {l : Text} (h : l ∈ call.frame.lines) :
    l.head? = some Call.textMark ∧ '\n' ∉ l ∧ '\r' ∉ l := by
  obtain ⟨a, -, rfl⟩ := List.mem_map.1 h
  obtain ⟨hn, hr⟩ := escape_oneLine a
  exact ⟨rfl, by simp [Call.textMark, hn], by simp [Call.textMark, hr]⟩

theorem closing_notMem_frame (call : Call) : Call.closing ∉ call.frame.lines := by
  intro h
  have := (mem_frame_lines h).1
  simp [Call.closing, Call.textMark] at this

theorem noFeed_lines {call : Call} (h : call.OneLine) : ∀ l ∈ call.lines, '\n' ∉ l := by
  intro l hl
  have hlines : call.lines = Call.opening :: call.target :: call.method ::
      call.frame.lines ++ [Call.closing] := rfl
  simp only [hlines, List.cons_append, List.mem_cons, List.mem_append, List.not_mem_nil,
    or_false] at hl
  rcases hl with rfl | rfl | rfl | hl | rfl
  · decide
  · exact h.1
  · exact h.2
  · exact (mem_frame_lines hl).2.1
  · decide

/-- **A call that was written is read back**, and no text that follows it can
    change that. -/
theorem framesOf_encode_append {call : Call} (h : call.OneLine) (t : Text) :
    framesOf (call.encode ++ t) = (framesOf t).map (call.frame :: ·) := by
  rw [framesOf, Call.encode, wholeLines_append (noFeed_lines h), framesOf]
  cases wholeLines t with
  | none => rfl
  | some ls =>
    have hlines : call.lines ++ ls = Call.opening :: call.frame.target :: call.frame.method ::
        call.frame.lines ++ Call.closing :: ls := by
      simp [Call.lines, Call.frame]
    simp only [Option.map_some, Option.bind_some, hlines]
    exact framesOfLines_append (closing_notMem_frame call) ls

@[simp] theorem framesOf_nil : framesOf [] = some [] := by
  simp [framesOf, wholeLines, Text.lines, Text.cut, framesOfLines]

theorem framesOf_encodeAll {calls : List Call} (h : ∀ call ∈ calls, call.OneLine) :
    framesOf (calls.flatMap Call.encode) = some (calls.map Call.frame) := by
  induction calls with
  | nil => exact framesOf_nil
  | cons call calls ih =>
    rw [List.flatMap_cons, framesOf_encode_append (h call (by simp)),
      ih fun call' hc => h call' (by simp [hc])]
    rfl

/-- **Framing is unambiguous.**  Calls one after the other are read back as these
    calls, and no argument line holds a line break. -/
theorem calls_read_back {calls : List Call}
    (h : ∀ call ∈ calls, '\n' ∉ call.target ∧ '\n' ∉ call.method) :
    ∃ frames, framesOf (calls.flatMap Call.encode) = some frames ∧
      frames.map Frame.call = calls ∧
      ∀ f ∈ frames, ∀ l ∈ f.lines, l.head? = some 's' ∧ '\n' ∉ l ∧ '\r' ∉ l := by
  refine ⟨calls.map Call.frame, framesOf_encodeAll h, by simp [Function.comp_def], ?_⟩
  intro f hf l hl
  obtain ⟨call, -, rfl⟩ := List.mem_map.1 hf
  exact mem_frame_lines hl

/-- Calls whose arguments look like the end of a call and the start of another
    one. -/
def lookalikes : List Call :=
  [⟨['t'], ['m'], [['e'], "\ne\nc\nt".toList, [], "\\n\r".toList]⟩, ⟨[], ['e'], []⟩]

theorem lookalikes_read_back :
    (∀ call ∈ lookalikes, '\n' ∉ call.target ∧ '\n' ∉ call.method) ∧
      ∃ frames, framesOf (lookalikes.flatMap Call.encode) = some frames ∧
        frames.map Frame.call = lookalikes ∧
        ∀ f ∈ frames, ∀ l ∈ f.lines, l.head? = some 's' ∧ '\n' ∉ l ∧ '\r' ∉ l :=
  ⟨by decide, calls_read_back (by decide)⟩

end Runpad.Gateway
