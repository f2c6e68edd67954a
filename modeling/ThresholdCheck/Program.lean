import ThresholdCheck.Journal.Check
import ThresholdCheck.Journal.Filter
import ThresholdCheck.Run

/-!
# The program

The program runs the check with its streams open and writes the journal of the check to the output
before the status line. Which notes are written is said by a filter from the environment, or else by
how often `-v` is given; the place of a note is written from two times on. Nothing is told if the
configuration is not loaded (`Program.respond`).
-/

namespace ThresholdCheck.Program

open CommandLine (Word)

/-- What the program is started with. The first word names it. -/
structure Setting where
  config : ConfigSource
  filter : Option String
  words : List Word

/-- What the program writes to its streams, and the code it exits with. -/
structure Response where
  output : String
  error : String
  exitCode : Nat
deriving DecidableEq

/-- A host that takes all that is written. -/
def openHost : Host := ⟨.accepting, .accepting⟩

/-- The filter for notes at a verbosity. -/
def filterOf (text : Option String) (verbosity : Nat) : Journal.Filter :=
  .ofText (text.getD (Journal.depthName verbosity))

/-- The journal of the check as it is written, and warnings on its filter. -/
def journal (filter : Option String) (config : Config) (words : List Word) : String × String :=
  let verbosity := (Check.plugin config).requestedVerbosity words
  let filter := filterOf filter verbosity
  let notes := (Journal.ofCheck config words).filter filter.passes
  (String.join (notes.map fun n => n.line (2 ≤ verbosity) ++ "\n"), filter.warningLines)

/-- What the program does. -/
def respond (s : Setting) : Response :=
  let outcome := run openHost s.config s.words
  let (notes, warnings) :=
    match Config.load s.config with
    | .ok config => journal s.filter config s.words
    | .error _ => ("", "")
  ⟨notes ++ outcome.output, warnings ++ outcome.error, outcome.exits.head?.getD 1⟩

end ThresholdCheck.Program
