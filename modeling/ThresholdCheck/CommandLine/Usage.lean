import ThresholdCheck.CommandLine.Definition

/-!
# The usage line

The usage line names the program, if it has a name, its options and its free arguments. Without
options in view it has `[OPTIONS]` for all that may be left out; with some in view it shows those
instead. Required options are always shown, before the others, and no option is shown twice.
-/

namespace ThresholdCheck.CommandLine

/-- A list without the repetitions of its elements, each at its first place. -/
def withoutRepetitions (xs : List String) : List String :=
  xs.foldl (fun seen x => if x ∈ seen then seen else seen ++ [x]) []

/-- The usage line with the options in view, by their names. The `program` is the name under which
    the command was called. -/
def usageLine (d : Definition) (program : String) (inView : List String) : String :=
  let required := (d.options.filter Opt.isRequired).map Opt.styled
  let viewed := inView.filterMap fun name => (d.long? .strict name).map Opt.styled
  let named := if program = "" then [] else [Text.emphasised program]
  let general := if inView.isEmpty then ["[OPTIONS]"] else []
  " ".intercalate
    (Text.emphasised "Usage:" :: named ++ general ++ withoutRepetitions (required ++ viewed) ++
      [d.argumentsStyled])

end ThresholdCheck.CommandLine
