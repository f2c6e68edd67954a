/-!
# Printable text: what a terminal without controls shows

Text that came from a user may hold control characters and terminal control sequences. Where it is
shown they are left out, and of the control characters only the blanks stay:

* `Control` is where a reader stands among controls, and `Control.next` is one step: a control
  sequence goes from its escape character to its final character, a control string to its
  terminator, which is a byte and may be part of a character;
* `pieces` cuts a text into what is shown and what is not, and `printable` is what is shown;
* `emphasised` sets a text off by control sequences around it. Since an escape ends every control
  that it meets, no control reaches into such a text or out of it.
-/

namespace ThresholdCheck.Text

/-! ## 1. Reading controls -/

/-- Where a reader stands among terminal controls. -/
inductive Control where
  /-- outside all controls -/
  | ground
  /-- after an escape character -/
  | escape
  /-- after an escape character and intermediate characters -/
  | intermediate
  /-- in a control sequence, which a character from `@` to `~` ends -/
  | sequence
  /-- in a system command, which a bell ends -/
  | command
  /-- at the head of a device control string -/
  | device
  /-- among the parameters of a device control string -/
  | deviceParameters
  /-- after the intermediate characters of a device control string -/
  | deviceIntermediate
  /-- in a control string, which its terminator ends -/
  | string
deriving DecidableEq

/-- The blanks among the ASCII controls that stay in printed text, and the space. -/
def isPlainBlank (c : Char) : Bool :=
  c == ' ' || c == '\t' || c == '\n' || c == '\x0C' || c == '\r'

/-- Whether a character is a control of ASCII. -/
def isControl (c : Char) : Bool := c.toNat < 0x20 || c == '\x7F'

/-- Whether a byte of a character terminates control strings. -/
def holdsTerminator (c : Char) : Bool := (String.utf8EncodeChar c).any fun b => b == 0x9C

/-- How the reader stands after a character right after an escape. -/
def atEscape (c : Char) : Control :=
  if isControl c || 0x80 ≤ c.toNat then .escape
  else if c.toNat < 0x30 then .intermediate
  else if c = '[' then .sequence
  else if c = ']' then .command
  else if c = 'P' then .device
  else if c = 'X' || c = '^' || c = '_' then .string
  else .ground

/-- How the reader stands after a character before the data of a device control string; in the
    string itself if it is from `data` on. -/
def atDevice (here : Control) (data : Nat) (c : Char) : Control :=
  if isControl c || 0x80 ≤ c.toNat then here
  else if c.toNat < 0x30 then .deviceIntermediate
  else if data ≤ c.toNat then .string
  else here

/-- How the reader stands after a character met in a control, which is neither an escape nor a
    cancellation. -/
def Control.after (here : Control) (c : Char) : Control :=
  match here with
  | .ground => .ground
  | .escape => atEscape c
  | .intermediate => if 0x30 ≤ c.toNat && c.toNat < 0x7F then .ground else .intermediate
  | .sequence => if 0x40 ≤ c.toNat && c.toNat < 0x7F then .ground else .sequence
  | .command => if c = '\x07' then .ground else .command
  | .device =>
    if 0x30 ≤ c.toNat && c.toNat < 0x40 then .deviceParameters else atDevice .device 0x40 c
  | .deviceParameters => atDevice .deviceParameters 0x3C c
  | .deviceIntermediate => atDevice .deviceIntermediate 0x30 c
  | .string => if holdsTerminator c then .ground else .string

/-- Whether a plain blank is shown though it is met in a control, which it breaks off then. -/
def Control.yieldsToBlank : Control → Bool
  | .ground | .escape | .intermediate | .sequence => true
  | .command | .device | .deviceParameters | .deviceIntermediate | .string => false

/-- One character more: whether it is shown, and how the reader stands after it. -/
def Control.next (here : Control) (c : Char) : Bool × Control :=
  if c = '\x1B' then (false, .escape)
  else if c = '\x18' || c = '\x1A' then (false, .ground)
  else if isControl c && isPlainBlank c && here.yieldsToBlank then (true, .ground)
  else if here = .ground then (!isControl c, .ground)
  else (false, here.after c)

/-! ## 2. What is shown -/

/-- The characters of a text, each with whether it is shown, read from a standing. -/
def markedFrom : Control → List Char → List (Bool × Char)
  | _, [] => []
  | here, c :: cs =>
    let (shown, next) := here.next c
    (shown, c) :: markedFrom next cs

/-- A run of characters of a text that are shown, or are not. -/
structure Piece where
  shown : Bool
  chars : List Char

/-- The text cut into the longest runs that are shown, or are not. -/
def pieces (cs : List Char) : List Piece :=
  ((markedFrom .ground cs).splitBy fun a b => a.1 == b.1).map fun run =>
    ⟨run.any Prod.fst, run.map Prod.snd⟩

/-- The characters of a text that are shown. -/
def printableChars (cs : List Char) : List Char :=
  ((markedFrom .ground cs).filter Prod.fst).map Prod.snd

/-- The text as it is shown. -/
def printable (s : String) : String := String.ofList (printableChars s.toList)

/-! ## 3. Emphasis -/

/-- The text set off from what is around it. -/
def emphasised (s : String) : String := "\x1B[1m" ++ s ++ "\x1B[0m"

end ThresholdCheck.Text
