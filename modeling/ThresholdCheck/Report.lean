import ThresholdCheck.Record

/-!
# Reports: the status line

A report is a status and the line that tells it:
`Status <word>[, <message>]`, and if there are records, `|` and their tokens with a space between
two. A message holds no `|`, for the first `|` of the line ends it (`sanitize`).
-/

namespace ThresholdCheck

/-- A status and the line that tells it. -/
structure Report where
  status : Status
  line : String
deriving DecidableEq

namespace Report

/-- The code that the process exits with. -/
def exitCode (r : Report) : Nat := r.status.exitCode

/-- The message with a space for each `|`. -/
def sanitize (message : String) : String :=
  String.ofList (message.toList.map fun c => if c = '|' then ' ' else c)

/-- The line up to the performance data. -/
def headline (status : Status) (message : Option String) : String :=
  "Status " ++ status.word ++
    match message with
    | some m => ", " ++ sanitize m
    | none => ""

/-- The performance data of the records, with the `|` before it. -/
def performance : List Record → String
  | [] => ""
  | r :: rs => "|" ++ " ".intercalate ((r :: rs).map Record.token)

/-- The worst state of the records. -/
def overall (records : List Record) : Status := Status.worst (records.map Record.state)

/-- The report of a finished check. -/
def ofRecords (records : List Record) (message : Option String) : Report :=
  let status := overall records
  ⟨status, headline status message ++ performance records⟩

/-- The report of a check that cannot go on. -/
def unknown (message : String) : Report :=
  ⟨.unknown, headline .unknown (if message = "" then none else some message)⟩

end Report

end ThresholdCheck
