/-!
# Words: the arguments of a command line

An argument comes as bytes and mostly is text, but need not be. A *word* keeps its characters in
order, with one mark for each stretch of bytes that is no UTF-8.

* `Word.ofBytes` decodes; a stretch that cannot be decoded is as long as a started character goes;
* `Word.text?` is the text, if all of the word is text (`Word.text?_ofString`);
* `Word.lossy` shows each undecodable stretch as the replacement character;
* `Word.shape` tells options from other words by the hyphens at their heads.
-/

namespace ThresholdCheck.CommandLine

/-- One argument: its characters, and `none` for each stretch of undecodable bytes. -/
abbrev Word := List (Option Char)

namespace Word

/-! ## 1. Text in words -/

/-- The word that is a text. -/
def ofString (s : String) : Word := s.toList.map some

/-- The characters of a word that holds nothing undecodable. -/
def chars? : Word → Option (List Char)
  | [] => some []
  | none :: _ => none
  | some c :: w => (chars? w).map (c :: ·)

/-- The text of a word that holds nothing undecodable. -/
def text? (w : Word) : Option String := w.chars?.map String.ofList

/-- The text of a word, with a replacement character for each undecodable stretch. -/
def lossy (w : Word) : String := String.ofList (w.map fun c => c.getD '\uFFFD')

@[simp] theorem chars?_map_some (cs : List Char) : chars? (cs.map some) = some cs := by
  induction cs with
  | nil => rfl
  | cons c cs ih => simp [chars?, ih]

/-- A text is read back from its word. -/
@[simp] theorem text?_ofString (s : String) : text? (ofString s) = some s := by
  simp [text?, ofString]

/-! ## 2. Decoding -/

/-- The bytes that may follow a lead byte, as the range of the second byte and the count of all. -/
def tailOf? (lead : Nat) : Option (Nat × Nat × Nat) :=
  if 0xC2 ≤ lead ∧ lead ≤ 0xDF then some (0x80, 0xBF, 1)
  else if lead = 0xE0 then some (0xA0, 0xBF, 2)
  else if lead = 0xED then some (0x80, 0x9F, 2)
  else if 0xE1 ≤ lead ∧ lead ≤ 0xEF then some (0x80, 0xBF, 2)
  else if lead = 0xF0 then some (0x90, 0xBF, 3)
  else if 0xF1 ≤ lead ∧ lead ≤ 0xF3 then some (0x80, 0xBF, 3)
  else if lead = 0xF4 then some (0x80, 0x8F, 3)
  else none

/-- How a decoder stands between two bytes. -/
inductive Reading where
  /-- at the start of a character -/
  | ready
  /-- inside a character: its bits so far, the next byte's range, and the count of bytes to come -/
  | inside (bits low high more : Nat)

/-- A byte at the start of a character: what it completes, and how the decoder stands after it. -/
def begin (byte : Nat) : Word × Reading :=
  if byte < 0x80 then ([some (Char.ofNat byte)], .ready)
  else
    match tailOf? byte with
    | none => ([none], .ready)
    | some (low, high, 1) => ([], .inside (byte - 0xC0) low high 1)
    | some (low, high, 2) => ([], .inside (byte - 0xE0) low high 2)
    | some (low, high, more) => ([], .inside (byte - 0xF0) low high more)

/-- The characters of a row of bytes, read from a standing. A character that breaks off is one
    undecodable stretch, and the byte that breaks it starts anew. -/
def decodeFrom : Reading → List UInt8 → Word
  | .ready, [] => []
  | .inside .., [] => [none]
  | .ready, b :: bs =>
    let (done, next) := begin b.toNat
    done ++ decodeFrom next bs
  | .inside bits low high more, b :: bs =>
    let byte := b.toNat
    if low ≤ byte ∧ byte ≤ high then
      let bits := bits * 64 + (byte - 0x80)
      if more ≤ 1 then some (Char.ofNat bits) :: decodeFrom .ready bs
      else decodeFrom (.inside bits 0x80 0xBF (more - 1)) bs
    else
      let (done, next) := begin byte
      none :: (done ++ decodeFrom next bs)

/-- The word of a row of bytes. -/
def ofBytes (bytes : List UInt8) : Word := decodeFrom .ready bytes

/-! ## 3. Shapes -/

/-- What the hyphens at the head of a word make of it. -/
inductive Shape where
  /-- only free arguments follow -/
  | divider
  /-- a long option with its attached value -/
  | long (name : Word) (value? : Option Word)
  /-- a row of short options -/
  | short (flags : Word)
  /-- no option -/
  | plain

/-- The part of a word before its first `=` and the part after it, if there is one. -/
def cutAtEquals : Word → Word × Option Word
  | [] => ([], none)
  | some '=' :: w => ([], some w)
  | c :: w =>
    let (name, value?) := cutAtEquals w
    (c :: name, value?)

/-- The shape of a word. -/
def shape : Word → Shape
  | [some '-', some '-'] => .divider
  | some '-' :: some '-' :: w =>
    let (name, value?) := cutAtEquals w
    .long name value?
  | [some '-'] => .plain
  | some '-' :: w => .short w
  | _ => .plain

end Word

end ThresholdCheck.CommandLine
