import ThresholdCheck.Config.Basic
import ThresholdCheck.Fault
import ThresholdCheck.Toml.Reading

/-!
# Reading a configuration

A configuration is written in TOML. Each of its fields may be left out, and so may each of a
declaration but its name (`Config.ofText`). A declaration is a table; a row of values is one too,
in the order name, unit, least value, largest value, slot.
-/

namespace ThresholdCheck.Config

open Toml (Value Key faultAt)

/-! ## 1. Modes and units -/

/-- The mode that a name at some place stands for. -/
def modeNamed (span : Toml.Span) (name : String) : Except Toml.Fault Mode :=
  match Mode.ofName? name with
  | some mode => .ok mode
  | none =>
    .error (faultAt span
      ("unknown variant `" ++ name ++ "`, expected `" ++ Mode.zeroFloor.name ++ "` or `" ++
        Mode.simpleRange.name ++ "`"))

/-- Checks that what is written after the name of a mode says nothing. -/
def saysNothing : Value → Except Toml.Fault Unit
  | .array span _ items =>
    if items.isEmpty then .ok () else .error (faultAt span "expected empty array")
  | .table span _ entries =>
    if entries.isEmpty then .ok () else .error (faultAt span "expected empty table")
  | .scalar span s =>
    .error (faultAt span ("expected table, found " ++ (Value.scalar span s).sort))

/-- A mode, as a text or as the one key of a table that says nothing else. -/
def readMode : Value → Except Toml.Fault Mode
  | .scalar span (.text name) => modeNamed span name
  | .table _ _ [(key, value)] => do
    let mode ← modeNamed key.span key.text
    saysNothing value
    return mode
  | .table span _ [] => .error (faultAt span "wanted exactly 1 element, found 0 elements")
  | .table span _ _ => .error (faultAt span "wanted exactly 1 element, more than 1 element")
  | v => .error (faultAt v.span "wanted string or table")

/-- A unit. -/
def readScale (v : Value) : Except Toml.Fault Scale := do
  let text ← v.readText
  match Scale.ofText? text with
  | some scale => return scale
  | none => throw (faultAt v.span (Fault.unknownScale text).message)

/-! ## 2. Declarations -/

/-- The fields of a declaration in the order of their declaration. -/
def metricFields : List String := ["name", "scale", "min", "max", "slot"]

/-- Reads a field of a declaration. -/
def readMetricField (d : Declaration) (field : String) (v : Value) :
    Except Toml.Fault Declaration :=
  match field with
  | "name" => v.readText.map fun name => { d with name }
  | "scale" => (readScale v).map fun scale => { d with scale := some scale }
  | "min" => v.readNumber.map fun min => { d with min := some min }
  | "max" => v.readNumber.map fun max => { d with max := some max }
  | "slot" => v.readCount.map fun slot => { d with slot }
  | _ => .ok d

/-- Reads an entry of a declaration. -/
def readMetricEntry (d : Declaration) (entry : Key × Value) : Except Toml.Fault Declaration :=
  if entry.1.text ∈ metricFields then readMetricField d entry.1.text entry.2
  else .error (Toml.unknownField entry.1 metricFields)

/-- The field that a moment has where a declaration is wanted. -/
def momentField : String := "$__toml_private_datetime"

/-- Reads a declaration. -/
def readMetric : Value → Except Toml.Fault Declaration
  | .table span _ entries => do
    let d ← (Toml.inKeyOrder entries).foldlM readMetricEntry (Declaration.plain "")
    if entries.any fun e => e.1.text == "name" then return d
    else throw (faultAt span "missing field `name`")
  | .array span _ items =>
    if items.isEmpty then
      .error (faultAt span "invalid length 0, expected struct MetricDecl with 5 elements")
    else
      (metricFields.zip items).foldlM (fun d (field, v) => readMetricField d field v)
        (Declaration.plain "")
  | .scalar span .moment => .error (Toml.unknownField ⟨momentField, span⟩ metricFields)
  | v => .error (v.unexpected "struct MetricDecl")

/-! ## 3. Configurations -/

/-- The fields of a configuration. -/
def fields : List String := ["range_mode", "warning_required", "critical_required", "metrics"]

/-- Reads an entry of a configuration. -/
def readEntry (c : Config) (entry : Key × Value) : Except Toml.Fault Config :=
  let (key, v) := entry
  match key.text with
  | "range_mode" => (readMode v).map fun mode => { c with mode }
  | "warning_required" => v.readBool.map fun warningRequired => { c with warningRequired }
  | "critical_required" => v.readBool.map fun criticalRequired => { c with criticalRequired }
  | "metrics" => do
    let items ← v.readItems
    return { c with metrics := ← items.mapM readMetric }
  | _ => .error (Toml.unknownField key fields)

/-- The configuration that a text stands for, consistent or not. -/
def ofText (text : String) : Except Toml.Fault Config := do
  let entries ← Toml.document text.toList
  (Toml.inKeyOrder entries).foldlM readEntry Config.default

end ThresholdCheck.Config
