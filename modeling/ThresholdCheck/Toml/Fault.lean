import ThresholdCheck.Text.Basic

/-!
# TOML: where a document is wrong, and how that is shown

A fault of a document is a message and, mostly, the part of the document it is about. Places are
counted in bytes. The fault is shown with the line it begins on and marks below the part, one mark
at least (`Fault.render`).
-/

namespace ThresholdCheck.Toml

open Text (byteSize)

/-! ## 1. Spans and faults -/

/-- A part of a document, from a byte to before another. -/
structure Span where
  start : Nat
  stop : Nat
deriving DecidableEq

namespace Span

/-- The empty part before a part. -/
def before (s : Span) : Span := ⟨s.start, s.start⟩

/-- The empty part after a part. -/
def after (s : Span) : Span := ⟨s.stop, s.stop⟩

/-- The part from the start of one to the end of another. -/
def through (s t : Span) : Span := ⟨s.start, t.stop⟩

end Span

/-- What is wrong with a document, and where. -/
structure Fault where
  message : String
  span : Option Span
deriving DecidableEq

/-- A fault in a part of the document. -/
def faultAt (span : Span) (message : String) : Fault := ⟨message, some span⟩

/-! ## 2. Places in a text -/

/-- The line and the column of a byte, counted from 0, given those of the head of the text. A column
    counts characters, but a byte that is not the last of its character has its bytes counted. -/
def placeFrom (line column bytes : Nat) : (index : Nat) → List Char → Nat × Nat
  | _, [] => (line, column)
  | index, c :: cs =>
    let size := c.utf8Size
    if index < size then (line, if index + 1 = size then column else bytes + index)
    else if c = '\n' then placeFrom (line + 1) 0 0 (index - size) cs
    else placeFrom line (column + 1) (bytes + size) (index - size) cs

/-- The line and the column of a byte of a text. A byte past the end stands as many columns after
    the last one. -/
def place (text : List Char) (index : Nat) : Nat × Nat :=
  let last := byteSize text - 1
  let (line, column) := placeFrom 0 0 0 (min index last) text
  (line, column + (index - min index last))

/-! ## 3. Showing a fault -/

/-- The line a part begins on, with marks below as much of the part as is on it. -/
def excerpt (text : List Char) (span : Span) : List Char :=
  let (line, column) := place text span.start
  let content := ((text.splitOn '\n')[line]?).getD []
  let number := (toString (line + 1)).toList
  let margin := List.replicate (number.length + 1) ' '
  let marks := min (span.stop - span.start) (byteSize content - column)
  "TOML parse error at line ".toList ++ number ++ ", column ".toList ++
    (toString (column + 1)).toList ++ '\n' :: margin ++ '|' :: '\n' ::
    number ++ [' ', '|', ' '] ++ content ++ '\n' ::
    margin ++ '|' :: List.replicate (column + 1) ' ' ++ List.replicate (max 1 marks) '^' ++ ['\n']

/-- The fault as it is shown to whoever wrote the document. -/
def Fault.render (text : List Char) (f : Fault) : String :=
  let head := match f.span with
    | some span => excerpt text span
    | none => []
  String.ofList head ++ f.message ++ "\n"

end ThresholdCheck.Toml
