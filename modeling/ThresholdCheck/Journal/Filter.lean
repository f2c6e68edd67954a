import ThresholdCheck.Journal.Note
import ThresholdCheck.Text.Basic

/-!
# Filters: which notes are written

A filter is read from a text such as `info`, `place=debug,warn` or `trace/word`:

* before a `/` stand directives with commas between them, each a depth, a place or both with `=`
  between; a place alone admits everything;
* after the `/` stands a text that a note must contain.

A note is written if the directive with the longest place that begins its place admits its level.
Without any directive only errors are written. What cannot be read is passed over with a warning.
-/

namespace ThresholdCheck.Journal

open Text

/-- What one directive admits: for places that begin so (all, if none is named), levels up to a
    depth. -/
structure Directive where
  place : Option String
  depth : Nat
deriving DecidableEq

/-- Which notes are written, and what could not be read of the filter's text. -/
structure Filter where
  directives : List Directive
  needle : Option String
  warnings : List String
deriving DecidableEq

/-! ## 1. Directives -/

/-- The depths by name, in letters of either case. -/
def depthOf? (name : List Char) : Option Nat :=
  match String.ofList (name.map Char.toLower) with
  | "off" => some 0
  | "error" => some 1
  | "warn" => some 2
  | "info" => some 3
  | "debug" => some 4
  | "trace" => some 5
  | _ => none

/-- The depth that admits everything. -/
def deepest : Nat := 5

/-- The directive a text stands for; what is wrong with it otherwise. -/
def readDirective (text : List Char) : Except String Directive :=
  match text.splitOn '=' with
  | [one] =>
    match depthOf? one with
    | some depth => .ok ⟨none, depth⟩
    | none => .ok ⟨some (String.ofList one), deepest⟩
  | [place, depth] =>
    let depth := trim depth
    if depth.isEmpty then .ok ⟨some (String.ofList place), deepest⟩
    else
      match depthOf? depth with
      | some depth => .ok ⟨some (String.ofList place), depth⟩
      | none => .error ("invalid logging spec '" ++ String.ofList depth ++ "'")
  | _ => .error ("invalid logging spec '" ++ String.ofList text ++ "'")

/-- Adds a directive; it takes the place of an earlier one for the same place. -/
def addDirective (d : Directive) : List Directive → List Directive
  | [] => [d]
  | e :: es => if e.place = d.place then d :: es else e :: addDirective d es

/-- Adds what a text stands for to a filter. -/
def Filter.add (f : Filter) (text : List Char) : Filter :=
  let text := trim text
  if text.isEmpty then f
  else
    match readDirective text with
    | .ok d => { f with directives := addDirective d f.directives }
    | .error warning => { f with warnings := f.warnings ++ [warning] }

/-! ## 2. Filters -/

/-- A filter without directives. -/
def Filter.empty : Filter := ⟨[], none, []⟩

/-- The filter a text stands for. -/
def Filter.ofText (text : String) : Filter :=
  match text.toList.splitOn '/' with
  | [] => .empty
  | [directives] => (directives.splitOn ',').foldl Filter.add .empty
  | [directives, needle] =>
    let f := (directives.splitOn ',').foldl Filter.add .empty
    { f with needle := some (String.ofList needle) }
  | _ => { Filter.empty with warnings := ["invalid logging spec '" ++ text ++ "' (too many '/'s)"] }

/-- The length of the place a directive names. -/
def Directive.reach (d : Directive) : Nat := (d.place.map String.utf8ByteSize).getD 0

/-- Whether a directive is about a place. -/
def Directive.covers (place : String) (d : Directive) : Bool :=
  match d.place with
  | none => true
  | some start => start.toList.isPrefixOf place.toList

/-- The directive that decides on a place: the last of those with the longest reach. -/
def deciding? (place : String) (directives : List Directive) : Option Directive :=
  (directives.filter (Directive.covers place)).foldl
    (fun best d =>
      match best with
      | some b => if b.reach ≤ d.reach then some d else best
      | none => some d)
    none

/-- Whether a text contains another. -/
def contains (needle : List Char) : List Char → Bool
  | [] => needle.isEmpty
  | c :: cs => needle.isPrefixOf (c :: cs) || contains needle cs

/-- Whether a note is written. -/
def Filter.passes (f : Filter) (n : Note) : Bool :=
  let admitted :=
    match f.directives with
    | [] => n.level.depth ≤ Level.error.depth
    | ds =>
      match deciding? n.place ds with
      | some d => n.level.depth ≤ d.depth
      | none => false
  let found := match f.needle with
    | some needle => contains needle.toList n.text.toList
    | none => true
  admitted && found

/-- The name of the depth that a verbosity asks for. -/
def depthName : (verbosity : Nat) → String
  | 0 => "warn"
  | 1 => "info"
  | 2 => "debug"
  | _ => "trace"

/-- The warnings on what could not be read, one on a line. -/
def Filter.warningLines (f : Filter) : String :=
  String.join (f.warnings.map fun w => "warning: " ++ w ++ ", ignoring it\n")

end ThresholdCheck.Journal
