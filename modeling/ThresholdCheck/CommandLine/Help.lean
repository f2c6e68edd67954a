import ThresholdCheck.CommandLine.Usage
import ThresholdCheck.Text.Quoted
import ThresholdCheck.Text.Wrapping

/-!
# The help page

The help page has the description, the usage line, the free arguments and the options, one entry
each (`helpPage`). It is laid out for a hundred columns:

* the texts of a section begin in one column, past its longest entry, and are wrapped there;
* where entries are wide and a text would not fit beside them, each text of the section begins on a
  line of its own instead (`textsBelow`);
* `\x7bn\x7d` in a text is a line feed.
-/

namespace ThresholdCheck.CommandLine

open Text

/-! ## 1. Texts of the page -/

/-- The columns of the page. -/
def pageWidth : Nat := 100

/-- The text with each `\x7bn\x7d` made a line feed. -/
def withLineFeeds : List Char → List Char
  | '\x7b' :: 'n' :: '\x7d' :: cs => '\n' :: withLineFeeds cs
  | c :: cs => c :: withLineFeeds cs
  | [] => []

/-- The remark on the value that stands in for a missing one. A value with blanks, or none at all,
    is quoted. -/
def fallbackRemark (value : String) : List Char :=
  let cs := value.toList
  let shown := if cs.isEmpty || cs.any isBlank then quoted cs else cs
  "[default: ".toList ++ shown ++ [']']

/-! ## 2. Sections -/

/-- One entry of a section: its head, the width it counts for, its text and a remark behind it. -/
structure Entry where
  head : List Char
  headWidth : Nat
  text : List Char
  remark : List Char

/-- The entry of an option. One without a short flag leaves the room for it. -/
def optionEntry (o : Opt) : Entry where
  head :=
    ((match o.short with
      | some c => emphasised ("-" ++ c.toString) ++ ", "
      | none => "    ") ++ o.styled).toList
  headWidth := width o.display.toList + 4
  text := o.help.toList
  remark := (o.fallback?.map fallbackRemark).getD []

/-- The entry of the free arguments. -/
def argumentsEntry (d : Definition) : Entry where
  head := d.argumentsStyled.toList
  headWidth := width (printableChars d.argumentsStyled.toList)
  text := d.argumentsHelp.toList
  remark := []

/-- The width of the longest head. -/
def longestHead (entries : List Entry) : Nat := entries.foldl (fun w e => max w e.headWidth) 2

/-- Whether the texts of a section stand below their heads: the heads take more than two fifths of
    the page, and some text is longer than what they leave. -/
def textsBelow (entries : List Entry) : Bool :=
  let taken := longestHead entries + 4
  taken ≤ pageWidth && pageWidth * 2 < taken * 5 &&
    entries.any fun e => pageWidth - taken < shownWidth e.text + width e.remark

/-- An entry as it is written, its text beginning after `longest` columns of head or below. -/
def Entry.chars (below : Bool) (longest : Nat) (e : Entry) : List Char :=
  let column := if below then 10 else longest + 4
  let text := withLineFeeds e.text
  let separator := if e.text.isEmpty || e.remark.isEmpty then [] else [' ']
  let body := wrapped (pageWidth - column) (text ++ separator ++ e.remark)
  let indent := List.replicate column ' '
  let gap := if below then '\n' :: indent else List.replicate (longest + 2 - e.headWidth) ' '
  [' ', ' '] ++ e.head ++ gap ++
    body.flatMap fun c => if c = '\n' then '\n' :: indent else [c]

/-- A section with its heading. -/
def sectionChars (heading : String) (entries : List Entry) : List Char :=
  let below := textsBelow entries
  let longest := longestHead entries
  (emphasised (heading ++ ":")).toList ++ '\n' ::
    (['\n']).intercalate (entries.map (Entry.chars below longest))

/-! ## 3. The page -/

/-- The text without its first line if that is blank. -/
def withoutBlankHead (cs : List Char) : List Char :=
  match cut '\n' cs with
  | some (first, rest) => if isBlankText first then rest else cs
  | none => cs

/-- The help page of a command that was called as `program`, with its headings and names set off. -/
def helpPage (d : Definition) (program : String) : String :=
  let about := wrapped pageWidth (withLineFeeds d.about.toList)
  let page :=
    about ++ '\n' :: '\n' :: trimEnd (usageLine d program []).toList ++ '\n' :: '\n' ::
      sectionChars "Arguments" [argumentsEntry d] ++ '\n' :: '\n' ::
      sectionChars "Options" ((d.optionsFor .strict).map optionEntry)
  String.ofList (trimEnd (withoutBlankHead page) ++ ['\n'])

end ThresholdCheck.CommandLine
