/-!
# Notes: what a check tells about its work

A note has a level, a place it comes from, and a text. It is written on one line,
`[LEVEL place] text`, with the place left out where it is not asked for; where the text has several
lines, those after the first are set in by four columns (`Note.line`).
-/

namespace ThresholdCheck.Journal

/-- How much a note matters. -/
inductive Level where
  | error
  | warn
  | info
  | debug
  | trace
deriving DecidableEq

namespace Level

/-- The depth of the level: a deeper one matters less. -/
def depth : Level → Nat
  | error => 1
  | warn => 2
  | info => 3
  | debug => 4
  | trace => 5

/-- The name of the level, five columns wide. -/
def label : Level → String
  | error => "ERROR"
  | warn => "WARN "
  | info => "INFO "
  | debug => "DEBUG"
  | trace => "TRACE"

end Level

/-- One thing told. -/
structure Note where
  level : Level
  place : String
  text : String
deriving DecidableEq

/-- The note as it is written, without its last line feed. -/
def Note.line (withPlace : Bool) (n : Note) : String :=
  let place := if withPlace then " " ++ n.place else ""
  let text := n.text.toList.flatMap fun c => if c = '\n' then "\n    ".toList else [c]
  "[" ++ n.level.label ++ place ++ "] " ++ String.ofList text

end ThresholdCheck.Journal
