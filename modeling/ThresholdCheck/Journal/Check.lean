import ThresholdCheck.Check
import ThresholdCheck.Journal.Note

/-!
# The journal of a check

What a check tells about its work, in order: each range that was read, the count of ranges of each
severity, the mode, what each measurement violates or is not tested against, and the failure if
there is one (`Journal.ofCheck`). Each list of notes ends where the work it tells of ends.
-/

namespace ThresholdCheck.Journal

open CommandLine (Word Given)

/-! ## 1. Ranges -/

/-- A range was read. -/
def rangeNote (r : Range) : Note :=
  ⟨.trace, "     range",
    "Parsed '" ++ r.raw ++ "' as bottom=" ++ r.bottom.text ++ " top=" ++ r.top.text ++
      " inverted=" ++ toString r.inverted⟩

/-- The ranges of the segments of a list up to the first that is none. -/
def readable (mode : Mode) (whole : String) : List String → List Range
  | [] => []
  | segment :: rest =>
    match Range.parseSegment mode whole segment with
    | .ok range => range :: readable mode whole rest
    | .error _ => []

/-- The notes on a list of ranges. -/
def listNotes (mode : Mode) (text : String) : List Note :=
  if Text.isBlankText text.toList then []
  else (readable mode text (Range.segments text)).map rangeNote

/-- The notes on several lists of ranges, up to the first that is none. -/
def listsNotes (mode : Mode) : List String → List Note
  | [] => []
  | text :: rest =>
    listNotes mode text ++
      match Range.parseList mode text with
      | .ok _ => listsNotes mode rest
      | .error _ => []

/-- The ranges of a severity are in force. -/
def severityNote (severity : Severity) (ranges : ThresholdSet) (required : Bool) : Note :=
  ⟨.debug, "    plugin",
    toString ranges.size ++ " " ++ severity.name ++ " range(s), required: " ++ toString required⟩

/-- The notes on the ranges that were given. -/
def givenNotes (mode : Mode) (given : Given) : List (Severity × Bool) → List Note
  | [] => []
  | (severity, required) :: rest =>
    let texts := given.valuesOf severity.name
    listsNotes mode texts ++
      match Plugin.collectRanges mode texts with
      | .ok ranges => severityNote severity ranges required :: givenNotes mode given rest
      | .error _ => []

/-! ## 2. Measurements -/

/-- The notes on a measurement and the ranges of a severity. -/
def thresholdNotes (severity : Severity) (m : Measurement) : Option Threshold → List Note
  | none => []
  | some t =>
    match t.ranges.get? m.slot with
    | none =>
      if t.required then []
      else
        [⟨.debug, "      eval",
          "No " ++ severity.name ++ " range at slot " ++ toString m.slot ++ " for '" ++ m.name ++
            "', skipping"⟩]
    | some range =>
      if range.violatedBy m.value then
        [⟨.info, "      eval",
          "'" ++ m.name ++ "' = " ++ m.value.text ++ " is " ++ severity.name ++ " (range '" ++
            range.raw ++ "')"⟩]
      else []

/-- The notes on a measurement. Critical is looked at if warning is no fault. -/
def measurementNotes (e : Evaluator) (m : Measurement) : List Note :=
  if m.slot = 0 || m.value.isNaN then []
  else
    match Evaluator.readScale m.scale with
    | .error _ => []
    | .ok _ =>
      thresholdNotes .warning m e.warning ++
        match Threshold.matched .warning m.slot m.value e.warning with
        | .error _ => []
        | .ok _ => thresholdNotes .critical m e.critical

/-- The notes on the measurements that arguments stand for, up to the first fault. -/
def argumentNotes (config : Config) (e : Evaluator) : List String → List Note
  | [] => []
  | text :: rest =>
    match Argument.parse text with
    | .error _ => []
    | .ok argument =>
      measurementNotes e (argument.measurement config) ++
        match Check.evaluate config e text with
        | .error _ => []
        | .ok e => argumentNotes config e rest

/-! ## 3. The check -/

/-- The mode of the ranges. -/
def modeNote (mode : Mode) : Note :=
  ⟨.debug, "  nagrange", "Checking with " ++ mode.name ++ " ranges"⟩

/-- The notes on what a command line gave. -/
def verdictNotes (config : Config) (given : Given) : List Note :=
  let plugin := Check.plugin config
  givenNotes plugin.mode given plugin.enabled ++
    match plugin.openSession given with
    | .error _ => []
    | .ok session =>
      modeNote config.mode :: argumentNotes config session.evaluator session.arguments

/-- The note on a check that failed. -/
def failureNotes : Except Fault Report → List Note
  | .ok _ => []
  | .error fault =>
    if fault.isAnswer then []
    else [⟨.debug, "  nagrange", "Check failed: " ++ fault.message⟩]

/-- The notes on a check. -/
def ofCheck (config : Config) (words : List Word) : List Note :=
  let noted :=
    match (Check.plugin config).definition.parse words with
    | .error _ => []
    | .ok given => verdictNotes config given
  noted ++ failureNotes (check config words)

end ThresholdCheck.Journal
