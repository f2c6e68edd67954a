import ThresholdCheck.Text.Basic
import ThresholdCheck.Text.Printable

/-!
# Wrapping: text in columns

A text is broken between words, at spaces, so that its lines fit a width (`wrapped`).

* Only what is shown of the text counts and is broken; controls stay where they are. Each character
  is one column wide; a tab or a line feed is none, nor is anything from there to the next `m`
  (`width`).
* A word keeps the blanks after it. They count with it, and a blank that takes a line past its width
  is a reason to break before the next word, even before a line feed. The blanks before a break are
  dropped.
* A line that begins with blanks begins with them again after each break, but is not broken right
  after them: the first word that has columns stays where it is. A word that is too long stands
  alone on its line.
-/

namespace ThresholdCheck.Text

/-! ## 1. Width -/

/-- The columns of a text, read inside or outside a control. -/
def widthFrom : Bool → List Char → Nat
  | _, [] => 0
  | inside, c :: cs =>
    if isControl c then widthFrom true cs
    else if inside then widthFrom (c != 'm') cs
    else widthFrom false cs + 1

/-- The columns of a text. -/
def width (cs : List Char) : Nat := widthFrom false cs

/-- The columns of what is shown of a text. -/
def shownWidth (cs : List Char) : Nat :=
  ((pieces cs).filter Piece.shown).foldl (fun n p => n + width p.chars) 0

/-! ## 2. Words -/

/-- The words of a line, each with the spaces after it; spaces at its head are a word. -/
def wordsOf (line : List Char) : List (List Char) :=
  line.splitBy fun a b => a != ' ' || b == ' '

/-- The lines of a text, each with the line feed that ends it. -/
def linesOf (cs : List Char) : List (List Char) := cs.splitBy fun a _ => a != '\n'

/-! ## 3. Breaking -/

/-- Lays out words after the word `before`, which loses its blanks to a break. The line has `column`
    columns so far, and one after a break begins with `indent`. Before the first word that has
    columns there is no break if the line is `fresh`. Gives the columns of the last line too. -/
def layOut (limit : Nat) (indent : List Char) :
    (fresh : Bool) → (before : List Char) → (column : Nat) → List (List Char) → List Char × Nat
  | _, before, column, [] => (before, column)
  | fresh, before, column, word :: words =>
    let letters := trimEnd word
    let wide := width letters
    let taken := wide + (byteSize word - byteSize letters)
    let kept := fresh && 0 < wide
    if !kept && limit < column + wide then
      let (text, last) := layOut limit indent fresh word (byteSize indent + taken) words
      (trimEnd before ++ '\n' :: indent ++ text, last)
    else
      let (text, last) := layOut limit indent (fresh && !kept) word (column + taken) words
      (before ++ text, last)

/-- Where the layout of a line stands: the columns it has, and what a line after a break begins
    with, which the first word decides. -/
structure Layout where
  column : Nat
  indent : Option (List Char)

/-- The layout before the first word. -/
def Layout.start : Layout := ⟨0, none⟩

/-- What lines after a break begin with if the first line begins with the given words. -/
def indentOf : List (List Char) → List Char
  | [] => []
  | word :: _ => if isBlankText word then word else []

/-- A line, or a part of it, laid out after what is there. -/
def Layout.add (limit : Nat) (l : Layout) (line : List Char) : List Char × Layout :=
  let words := wordsOf line
  let indent := l.indent.getD (indentOf words)
  let (text, column) := layOut limit indent l.indent.isNone [] l.column words
  (text, ⟨column, some indent⟩)

/-- Lines laid out one below the other, the first of them after what is there. -/
def Layout.addLines (limit : Nat) : Layout → List (List Char) → List Char × Layout
  | l, [] => ([], l)
  | l, [line] => l.add limit line
  | l, line :: lines =>
    let (text, _) := l.add limit line
    let (more, last) := addLines limit .start lines
    (text ++ more, last)

/-- The pieces of a text laid out one after the other. -/
def Layout.addPieces (limit : Nat) : Layout → List Piece → List Char
  | _, [] => []
  | l, p :: ps =>
    if p.shown then
      let (text, l) := l.addLines limit (linesOf p.chars)
      text ++ l.addPieces limit ps
    else p.chars ++ l.addPieces limit ps

/-- The text with its lines broken to a width where its words allow, without the blanks at its
    end. -/
def wrapped (limit : Nat) (cs : List Char) : List Char :=
  trimEnd (Layout.start.addPieces limit (pieces cs))

end ThresholdCheck.Text
