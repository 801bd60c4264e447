/-
  Reading the command line.

  A word is read in the light of those before it: an option that waits for its
  value, or two dashes after which nothing is an option any more.  A value is
  checked when the next option or file is met, or when all words are read.

  * `Arguments` is what a command line asks for;
  * `Progress` is what is known after some words, `Progress.settle` checks the
    value read last;
  * `parse` reads all words, `Refusal` says why one cannot be followed.
-/
import Runpad.CommandLine.Refusal
import Runpad.CommandLine.Similar
import Runpad.Number.Integer

namespace Runpad.CommandLine

/-- A command of the program with its own arguments. -/
inductive Task where
  | edit
  | config
  | run (file : Option Text) (raw : Bool)
  deriving DecidableEq, Repr

/-- What a command line asks for. -/
structure Arguments where
  file : Option Text := none
  host : Option Text := none
  port : Option Nat := none
  task : Task := .edit
  deriving DecidableEq, Repr

/-! ## Values -/

/-- The number of 64 bits that a text denotes.  Digits that are too many are
    found before a character that is none. -/
def readLong64 (value : Text) : Except PortFault Int :=
  let (negative, body) :=
    match value with
    | '-' :: body => (true, body)
    | '+' :: body => (false, body)
    | body => (false, body)
  let found := body.takeWhile Number.isDigit
  let size : Int := Number.valueOf found
  let n := if negative then -size else size
  if value = [] then .error .empty
  else if Number.greatest < n then .error .tooLarge
  else if n < Number.least then .error .tooSmall
  else if found = [] ∨ found ≠ body then .error .notDigits
  else .ok n

/-- The port that a text denotes. -/
def readPort (value : Text) : Except PortFault Nat :=
  readLong64 value >>= fun n =>
    if 1 ≤ n ∧ n ≤ lastPort then .ok n.toNat else .error (.outside n)

/-- The fault in the value of a slot, if there is one: a port must be a number, a
    file must have a name. -/
def misuseOf? (slot : Slot) (value : Text) : Option Misuse :=
  match slot with
  | .file => if value = [] then some (.missingValue .file) else none
  | .flag .port =>
    match readPort value with
    | .error fault => some (.invalidPort value fault)
    | .ok _ => none
  | .flag _ => none

/-! ## Progress -/

/-- What is known after some words of a level. -/
structure Progress where
  /-- The slots that are filled, in the order in which that happened. -/
  filled : List (Slot × Text) := []
  /-- The slot met last, which is not checked yet, and its value if it has one. -/
  pending : Option (Slot × Option Text) := none
  /-- Whether the next word is the value of the pending option. -/
  awaiting : Bool := false
  /-- Whether two dashes were read. -/
  literal : Bool := false
  /-- Whether the file was read. -/
  hasFile : Bool := false
  deriving DecidableEq, Repr

namespace Progress

/-- The value of a slot. -/
def value? (p : Progress) (slot : Slot) : Option Text :=
  (p.filled.find? (·.1 = slot)).map (·.2)

/-- Fills a slot, which can be done once. -/
def fill (level : Level) (slot : Slot) (value : Text) (p : Progress) : Except Misuse Progress :=
  if (p.value? slot).isSome then .error (.repeated level slot)
  else
    match misuseOf? slot value with
    | some misuse => .error misuse
    | none => .ok { p with filled := p.filled ++ [(slot, value)] }

/-- Checks the slot met last. -/
def settle (level : Level) (p : Progress) : Except Misuse Progress :=
  match p.pending with
  | none => .ok p
  | some (slot, none) => .error (.missingValue slot)
  | some (slot, some value) => fill level slot value { p with pending := none }

/-- The slots in use, for a usage line. -/
def used (p : Progress) : List Slot :=
  p.filled.map (·.1)

/-- The slots in use when a word stops the reading: the slot met last counts if
    it has a value, unless it was filled before; then neither counts. -/
def usedNow (p : Progress) : List Slot :=
  match p.pending with
  | some (slot, some _) => if slot ∈ p.used then p.used.erase slot else p.used ++ [slot]
  | _ => p.used

end Progress

/-! ## Words -/

/-- A long option: its name and its attached value. -/
def splitLong (t : Text) : Text × Option Text :=
  let name := t.takeWhile (· ≠ '=')
  match t.dropWhile (· ≠ '=') with
  | _ :: value => (name, some value)
  | [] => (name, none)

/-- The option of another level that an unknown name is like, of the command
    that comes first among the words that are left. -/
def tipOfCommand (level : Level) (name : Text) (later : List Text) : Option Tip :=
  let found := level.commands.filterMap fun c => do
    let best ← (similar name (c.flags.map (·.name))).getLast?
    let flag ← c.flag? best
    let place ← later.findIdx? (· = c.word)
    some (place, c, flag)
  let first := found.foldl (fun best next =>
    match best with
    | some (place, _, _) => if next.1 < place then some next else best
    | none => some next) none
  first.map fun (_, c, flag) => .optionOf c flag

/-- The fault of an unknown long option, with the best tip there is. -/
def unknownLong (level : Level) (name : Text) (later : List Text) (p : Progress) : Misuse :=
  let word := "--".toList ++ name
  match (similar name (level.flags.map (·.name))).getLast? >>= level.flag? with
  | some flag =>
    let used := p.usedNow
    let used := if .flag flag ∈ used then used else used ++ [.flag flag]
    .unknownArgument level word (some (.option flag)) used
  | none =>
    let tip := match tipOfCommand level name later with
      | some tip => some tip
      | none => if level.file?.isSome then some .asValue else none
    .unknownArgument level word tip p.usedNow

/-- Reads an option that is known. -/
def readFlag (level : Level) (flag : Flag) (attached : Option Text) (p : Progress) :
    Except Refusal Progress :=
  let settled := (p.settle level).mapError Refusal.misuse
  match flag.valueName, attached with
  | some _, none => settled.map fun p =>
    { p with pending := some (.flag flag, none), awaiting := true }
  | some _, some value => settled >>= fun p =>
    (p.fill level (.flag flag) value).mapError Refusal.misuse
  | none, some value =>
    .error (.misuse (.unneededValue level value flag (p.used ++ [.flag flag])))
  | none, none => settled >>= fun p =>
    match flag with
    | .help => .error (.help level)
    | .version => .error .version
    | _ => (p.fill level (.flag flag) []).mapError Refusal.misuse

/-- Reads a word that starts with two dashes, without them. -/
def readLong (level : Level) (t : Text) (later : List Text) (p : Progress) :
    Except Refusal Progress :=
  let (name, attached) := splitLong t
  match level.flag? name with
  | some flag => readFlag level flag attached { p with awaiting := false }
  | none => .error (.misuse (unknownLong level name later p))

/-- Reads a word that starts with one dash: its first letter asks for help or the
    version, or is unknown. -/
def readShort (level : Level) (letter : Char) (p : Progress) : Except Refusal Progress :=
  match level.letter? letter with
  | some flag => readFlag level flag none { p with awaiting := false }
  | none =>
    let tip := if level.file?.isSome then some .asValue else none
    .error (.misuse (.unknownArgument level ['-', letter] tip []))

/-- The fault of a word for which there is no place. -/
def noPlace (level : Level) (word : Text) (p : Progress) : Misuse :=
  if p.literal ∧ (level.command? word).isSome then .unknownArgument level word (some .command) []
  else
    match similar word (level.commands.map (·.word)) with
    | [] => .unknownArgument level word none []
    | words => .unknownCommand level word words

/-- Reads a word that is no option: the file, if there is none yet. -/
def readWord (level : Level) (word : Text) (p : Progress) : Except Refusal Progress :=
  if level.file?.isSome ∧ !p.hasFile then
    ((p.settle level).mapError Refusal.misuse).map fun p =>
      { p with pending := some (.file, some word), hasFile := true }
  else .error (.misuse (noPlace level word p))

/-- Reads a word that names no command. -/
def readArgument (level : Level) (word : Text) (later : List Text) (p : Progress) :
    Except Refusal Progress :=
  if p.literal then readWord level word p
  else
    match word with
    | ['-', '-'] => .ok { p with literal := true, awaiting := false }
    | '-' :: '-' :: t => readLong level t later p
    | '-' :: letter :: _ => readShort level letter p
    | _ =>
      match p.pending, p.awaiting with
      | some (slot, _), true =>
        .ok { p with pending := some (slot, some word), awaiting := false }
      | _, _ => readWord level word p

/-- The command that a word names, where one may stand. -/
def commandAt (level : Level) (word : Text) (p : Progress) : Option Level :=
  if p.literal || p.awaiting then none else level.command? word

/-- Reads the words of a level up to the first command; the rest follows it. -/
def readLevel (level : Level) : List Text → Progress →
    Except Refusal (Progress × Option (Level × List Text))
  | [], p => .ok (p, none)
  | word :: later, p =>
    match commandAt level word p with
    | some command => .ok (p, some (command, later))
    | none => readArgument level word later p >>= readLevel level later

/-- Reads all words of a command, which has no commands of its own. -/
def readCommand (level : Level) (words : List Text) : Except Refusal Progress :=
  readLevel level words {} >>= fun (p, _) => (p.settle level).mapError Refusal.misuse

/-! ## Whole command lines -/

/-- The page that a question for help asks for: the one of the last of the
    commands named. -/
def helpFor (level : Level) : List Text → Refusal
  | [] => .help level
  | word :: later =>
    match level.command? word with
    | some command => helpFor command later
    | none => .misuse (.unknownCommand level word [])

/-- What a command and the words after it ask for, and its own options. -/
def readTask (command : Level) (words : List Text) : Except Refusal (Task × Progress) :=
  match command with
  | .run => (readCommand .run words).map fun p =>
    (.run (p.value? .file) (p.value? (.flag .raw)).isSome, p)
  | .config => (readCommand .config words).map fun p => (.config, p)
  | .help | .editor => .error (helpFor .editor words)

/-- The port of a value that was checked. -/
def portOf (value : Text) : Option Nat :=
  (readPort value).toOption

/-- What the words after the name of the program ask for.  An option that is
    given before and after a command counts as given after it. -/
def parse (words : List Text) : Except Refusal Arguments := do
  let (p, command) ← readLevel .editor words {}
  let (task, inner) ← match command with
    | some (command, later) => readTask command later
    | none => .ok (.edit, {})
  let p ← (p.settle .editor).mapError Refusal.misuse
  let pick flag := (inner.value? (.flag flag)).orElse fun _ => p.value? (.flag flag)
  return { file := p.value? .file, host := pick .host, port := pick .port >>= portOf, task }

end Runpad.CommandLine
