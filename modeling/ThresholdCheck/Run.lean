import ThresholdCheck.Check
import ThresholdCheck.Config.Loading

/-!
# Running the check

A run loads the configuration, makes the check and tells its outcome to the monitoring supervisor:
one status line on the output and an exit code. A configuration that is not loaded and a check that
fails have the status unknown; the whole of their text goes to the error stream, its first
paragraph into the status line. A text that the command line asked for, such as the help page, goes
to the output as it is, with exit code 0.

Either stream of the host may refuse to be written to. Refused output ends the run without an exit
code; a refused error text is given up.
-/

namespace ThresholdCheck

open CommandLine (Word)

/-! ## 1. The host -/

/-- A stream of the host, which takes all that is written or nothing. -/
inductive Stream where
  | accepting
  | refusing (reason : String)
deriving DecidableEq

/-- What a run writes to. -/
structure Host where
  output : Stream
  error : Stream
deriving DecidableEq

/-- What was to be written to the output. -/
inductive Purpose where
  | statusLine
  | helpPage
deriving DecidableEq

/-- The purpose as a reader is told. -/
def Purpose.name : Purpose → String
  | statusLine => "writing status line"
  | helpPage => "writing help output"

/-- The output was refused. -/
structure WriteFault where
  reason : String
  purpose : Purpose
deriving DecidableEq

/-- What the fault says to a reader. -/
def WriteFault.message (f : WriteFault) : String := whileDoing f.reason f.purpose.name

/-- What a run leaves: what was written to either stream, the codes that the process was told to
    exit with, and why the run ended early if it did. -/
structure Outcome where
  output : String
  error : String
  exits : List Nat
  fault : Option WriteFault
deriving DecidableEq

/-! ## 2. Telling the outcome -/

/-- What a stream takes of a text. -/
def Stream.taken : Stream → String → String
  | accepting, text => text
  | refusing _, _ => ""

namespace Run

/-- Writes a text to the output and exits, after something was written to the error stream. -/
def deliver (host : Host) (purpose : Purpose) (error text : String) (exitCode : Nat) : Outcome :=
  match host.output with
  | .accepting => ⟨text, error, [exitCode], none⟩
  | .refusing reason => ⟨"", error, [], some ⟨reason, purpose⟩⟩

/-- Tells a report. -/
def tell (host : Host) (error : String) (report : Report) : Outcome :=
  deliver host .statusLine error (report.line ++ "\n") report.exitCode

/-- The first paragraph of a text on one line: the lines before the first blank one, which blank
    lines may precede, without the blanks around each, and with a space between two. -/
def summary (text : String) : String :=
  let lines := (Text.lines text.toList).map Text.trim
  let paragraph := (lines.dropWhile List.isEmpty).takeWhile fun line => !line.isEmpty
  String.ofList ([' '].intercalate paragraph)

/-- The text of a failure as it goes to the error stream. -/
def errorText (message : String) : String :=
  String.ofList (Text.trimEnd message.toList) ++ "\n"

/-- Tells a failure. -/
def fail (host : Host) (message : String) : Outcome :=
  tell host (host.error.taken (errorText message)) (Report.unknown (summary message))

/-- Tells what a check has come to. -/
def conclude (host : Host) : Except Fault Report → Outcome
  | .ok report => tell host "" report
  | .error fault =>
    if fault.isAnswer then deliver host .helpPage "" fault.message 0
    else fail host fault.message

end Run

/-! ## 3. The run -/

/-- Runs the check with a command line, of which the first word names the program. -/
def run (host : Host) (source : ConfigSource) (words : List Word) : Outcome :=
  match Config.load source with
  | .error fault => Run.fail host fault.message
  | .ok config => Run.conclude host (check config words)

end ThresholdCheck
