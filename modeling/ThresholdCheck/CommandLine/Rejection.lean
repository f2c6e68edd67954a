import ThresholdCheck.Text.Printable

/-!
# Rejections: why a command line is not run

A command line that does not fit its definition is rejected for a cause, and so is one that only
asks for the help page or the version (`Rejection.isAnswer`). The message of a rejection is one
paragraph on the cause, perhaps a tip, perhaps the usage line, and the way to the help page. What it
quotes is set off, so that a control in one part does not reach into another; only the reason for
which a value is refused is not.
-/

namespace ThresholdCheck.CommandLine

open Text (emphasised printable)

/-- Why a command line is not run. Options are named as messages show them. -/
inductive Cause where
  /-- the help page is asked for -/
  | help (page : String)
  /-- the version is asked for -/
  | version (line : String)
  /-- an option that is not defined, with a similar one -/
  | unknown (word : String) (similar : Option String)
  /-- an option without its value -/
  | missingValue (option : String)
  /-- a value for an option that takes none -/
  | surplusValue (value option : String)
  /-- an option given twice that chooses one value -/
  | repeated (option : String)
  /-- required options that are not given -/
  | missingOptions (options : List String)
  /-- a value that the option refuses -/
  | refusedValue (value option reason : String)
  /-- a value that is no text -/
  | undecodable

/-- A cause together with the usage line to show, if one helps. -/
structure Rejection where
  cause : Cause
  usage : Option String

namespace Rejection

/-- Whether the command line asked for a text and got it: no fault. -/
def isAnswer (r : Rejection) : Bool :=
  match r.cause with
  | .help _ | .version _ => true
  | _ => false

/-- A text set off between quotes. -/
def inQuotes (s : String) : String := "'" ++ emphasised s ++ "'"

/-- The first paragraph of a message. -/
def headline : Cause → String
  | .help page => page
  | .version line => line
  | .unknown word _ => "unexpected argument " ++ inQuotes word ++ " found"
  | .missingValue option =>
    "a value is required for " ++ inQuotes option ++ " but none was supplied"
  | .surplusValue value option =>
    "unexpected value " ++ inQuotes value ++ " for " ++ inQuotes option ++
      " found; no more were expected"
  | .repeated option => "the argument " ++ inQuotes option ++ " cannot be used multiple times"
  | .missingOptions options =>
    "the following required arguments were not provided:" ++
      String.join (options.map fun o => "\n  " ++ emphasised o)
  | .refusedValue value option reason =>
    "invalid value " ++ inQuotes value ++ " for " ++ inQuotes option ++ ": " ++ reason
  | .undecodable => "invalid UTF-8 was detected in one or more arguments"

/-- Advice on how to go on. -/
def tip? : Cause → Option String
  | .unknown _ (some similar) => some ("a similar argument exists: " ++ inQuotes similar)
  | .unknown word none =>
    some ("to pass " ++ inQuotes word ++ " as a value, use " ++ inQuotes ("-- " ++ word))
  | _ => none

/-- The whole text of the rejection, with its final line feed. -/
def message (r : Rejection) : String :=
  match r.cause with
  | .help text | .version text => printable text
  | cause =>
    let tip := match tip? cause with
      | some tip => "\n  " ++ emphasised "tip:" ++ " " ++ tip ++ "\n"
      | none => ""
    let usage := match r.usage with
      | some line => "\n" ++ line ++ "\n"
      | none => ""
    printable
      (emphasised "error:" ++ " " ++ headline cause ++ "\n" ++ tip ++ usage ++
        "\nFor more information, try " ++ inQuotes "--help" ++ ".\n")

end Rejection

end ThresholdCheck.CommandLine
