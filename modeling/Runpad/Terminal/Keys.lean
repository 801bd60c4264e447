/-
  What a terminal sends for keys, the mouse and pastes.

  A key that is no character comes as a sequence: an escape character, a bracket
  or a letter, numbers, and a character that ends it.  The escape key sends the
  escape character alone, so only the end of what has come tells them apart.

  * `Reader` is what is known in the middle of a sequence, `Reader.step` takes
    one more character;
  * `Reader.read` gives the events of what has come, and the reader for what is
    still to come.
-/
import Runpad.Editor.Event
import Runpad.Number.Integer
import Runpad.Text.Parts

namespace Runpad.Terminal

/-- The character that starts a sequence. -/
def escapeMark : Char := '\x1b'

/-- What is known of a sequence that has begun. -/
inductive Reader where
  /-- No sequence has begun. -/
  | plain
  /-- The escape character has come. -/
  | escaped
  /-- A sequence after its letter, with the characters before its end, the last
      one first. -/
  | sequence (letter : Char) (seen : Text)
  /-- A paste with its characters, the last one first. -/
  | pasting (seen : Text)
  deriving DecidableEq, Repr

/-- The sequence that ends a paste. -/
def pasteEnd : Text := escapeMark :: "[201~".toList

/-- The key of a character that stands for itself or for a key with control. -/
def plainKey (c : Char) : Event :=
  let letter := Char.ofNat (c.toNat + 96)
  if c = '\r' ∨ c = '\n' then .key .enter {}
  else if c = '\t' then .key .tab {}
  else if c = '\x7f' then .key .backspace {}
  else if 1 ≤ c.toNat ∧ c.toNat ≤ 26 then .key (.char letter) { control := true }
  else .key (.char c) {}

/-- The numbers of a sequence, with semicolons between them. -/
def numbers (t : Text) : List Nat :=
  (Text.parts ';' t).map fun part => (Number.ofDigits? part).getD 0

/-- The key that ends a sequence by its letter. -/
def letterKey? (c : Char) : Option Key :=
  match c with
  | 'A' => some .up
  | 'B' => some .down
  | 'C' => some .right
  | 'D' => some .left
  | 'H' => some .home
  | 'F' => some .endKey
  | 'Z' => some .backTab
  | 'P' => some (.function 1)
  | 'Q' => some (.function 2)
  | 'S' => some (.function 4)
  | _ => none

/-- The key that a sequence tells by its number. -/
def numberKey? (n : Nat) : Option Key :=
  match n with
  | 1 | 7 => some .home
  | 2 => some .insert
  | 3 => some .delete
  | 4 | 8 => some .endKey
  | 5 => some .pageUp
  | 6 => some .pageDown
  | _ =>
    if 11 ≤ n ∧ n ≤ 15 then some (.function (n - 10))
    else if 17 ≤ n ∧ n ≤ 21 then some (.function (n - 11))
    else if n = 23 ∨ n = 24 then some (.function (n - 12))
    else none

/-- The keys held down that a sequence tells by a number, one more than the sum
    of their weights. -/
def modifiersOf (n : Nat) : Modifiers where
  shift := (n - 1) % 2 = 1
  alt := (n - 1) / 2 % 2 = 1
  control := (n - 1) / 4 % 2 = 1

/-- What the mouse does, told by a number and by whether the button went
    down. -/
def mouseAction (n : Nat) (down : Bool) : MouseAction :=
  let button : MouseButton := if n % 4 = 0 then .left else if n % 4 = 1 then .middle else .right
  if n / 64 % 2 = 1 then
    if n % 4 = 0 then .scrollUp
    else if n % 4 = 1 then .scrollDown
    else if n % 4 = 2 then .scrollLeft
    else .scrollRight
  else if n / 32 % 2 = 1 then if n % 4 = 3 then .move else .drag button
  else if down then .press button
  else .release button

/-- The events of a whole sequence.  A report on the place of the cursor tells
    the size of the screen if the cursor was sent to its end. -/
def sequenceEvents (seen : Text) (last : Char) : List Event :=
  match seen with
  | '<' :: seen =>
    match numbers seen with
    | [n, x, y] => [.mouse (mouseAction n (last = 'M')) ⟨x - 1, y - 1⟩]
    | _ => []
  | _ =>
    let all := numbers seen
    let held := modifiersOf (all.getD 1 1)
    match last with
    | '~' => ((numberKey? (all.headD 0)).map (Event.key · held)).toList
    | 'R' => [.resize (all.getD 1 1) (all.headD 1)]
    | _ => ((letterKey? last).map (Event.key · held)).toList

/-- One more character: the reader after it, and the events that are complete
    with it. -/
def Reader.step (c : Char) : Reader → Reader × List Event
  | .plain => if c = escapeMark then (.escaped, []) else (.plain, [plainKey c])
  | .escaped =>
    if c = escapeMark then (.escaped, [.key .escape {}])
    else if c = '[' ∨ c = 'O' then (.sequence c [], [])
    else (.plain, [.key (.char c) { alt := true }])
  | .sequence letter seen =>
    if letter = '[' ∧ c.toNat < 0x40 then (.sequence letter (c :: seen), [])
    else if seen.reverse = "200".toList ∧ c = '~' then (.pasting [], [])
    else if letter = 'O' ∧ c = 'R' then (.plain, [.key (.function 3) {}])
    else (.plain, sequenceEvents seen.reverse c)
  | .pasting seen =>
    let seen := c :: seen
    if pasteEnd.reverse.isPrefixOf seen then
      (.plain, [.paste (seen.drop pasteEnd.length).reverse])
    else (.pasting seen, [])

/-- The end of what has come: an escape character alone is the escape key. -/
def Reader.pause : Reader → Reader × List Event
  | .escaped => (.plain, [.key .escape {}])
  | reader => (reader, [])

/-- The events of what has come. -/
def Reader.read (reader : Reader) (t : Text) : Reader × List Event :=
  let (reader, events) := t.foldl (fun (reader, events) c =>
    let (reader, more) := reader.step c
    (reader, events ++ more)) (reader, [])
  let (reader, more) := reader.pause
  (reader, events ++ more)

end Runpad.Terminal
