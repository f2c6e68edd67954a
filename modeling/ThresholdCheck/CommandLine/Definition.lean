import ThresholdCheck.Text.Printable

/-!
# Command-line definitions

A command line has named options and a row of free arguments.

* `Opt` is one option; its `Behaviour` says what an occurrence means: it is counted, it asks for
  the help page or the version, its values are collected, or it chooses one value;
* `Definition` is a whole command: the options in the order of the help page, and how the free
  arguments are called there;
* the options for help and version come last, in a strict reading only (`Definition.optionsFor`).
-/

namespace ThresholdCheck.CommandLine

/-! ## 1. Options -/

/-- How one chosen value is treated: whether it must be given, what stands in for it, and its
    conversion, which may refuse it with a reason. -/
structure Choice where
  required : Bool
  fallback : Option String
  convert : String → Except String String

/-- What an occurrence of an option means. -/
inductive Behaviour where
  | counted
  | help
  | version
  | collected
  | chosen (choice : Choice)

/-- One named option. Its name is its long form. -/
structure Opt where
  name : String
  short : Option Char
  valueName : String
  help : String
  behaviour : Behaviour

namespace Opt

/-- Whether a value belongs to each occurrence. -/
def takesValue (o : Opt) : Bool :=
  match o.behaviour with
  | .counted | .help | .version => false
  | .collected | .chosen _ => true

/-- Whether the value may begin with a hyphen though it stands in a word of its own. -/
def takesHyphens (o : Opt) : Bool :=
  match o.behaviour with
  | .collected => true
  | _ => false

/-- Whether a command line without the option is refused. -/
def isRequired (o : Opt) : Bool :=
  match o.behaviour with
  | .chosen choice => choice.required
  | _ => false

/-- What stands in for a value that is not given. -/
def fallback? (o : Opt) : Option String :=
  match o.behaviour with
  | .chosen choice => choice.fallback
  | _ => none

/-- What follows the name of the option where it is shown. -/
def suffix (o : Opt) : String :=
  match o.behaviour with
  | .counted => "..."
  | .help | .version => ""
  | .collected | .chosen _ => " <" ++ o.valueName ++ ">"

/-- The option as messages name it: what is shown of it as a whole. -/
def display (o : Opt) : String := Text.printable ("--" ++ o.name ++ o.suffix)

/-- The option as usage lines show it, with its name set off. -/
def styled (o : Opt) : String := Text.emphasised ("--" ++ o.name) ++ o.suffix

end Opt

/-- The option that asks for the help page. -/
def helpOption : Opt where
  name := "help"
  short := some 'h'
  valueName := ""
  help := "Print help"
  behaviour := .help

/-- The option that asks for the version. -/
def versionOption : Opt where
  name := "version"
  short := some 'V'
  valueName := ""
  help := "Print version"
  behaviour := .version

/-! ## 2. Commands -/

/-- How a command line is read: a strict reading refuses what does not fit; a tolerant one knows no
    help and no version, lets an option go without its value, and keeps what it has read when it
    has to stop. -/
inductive Manner where
  | strict
  | tolerant
deriving DecidableEq

/-- A command: its name, its description, its version, its options and its free arguments. -/
structure Definition where
  name : String
  about : String
  version : String
  options : List Opt
  argumentsName : String
  argumentsHelp : String

namespace Definition

/-- The name by which the free arguments go among the options given. -/
def argumentsId : String := "arguments"

/-- The options that a reading knows. -/
def optionsFor (d : Definition) : Manner → List Opt
  | .strict => d.options ++ [helpOption, versionOption]
  | .tolerant => d.options

/-- The option with a long name. -/
def long? (d : Definition) (manner : Manner) (name : String) : Option Opt :=
  (d.optionsFor manner).find? fun o => o.name == name

/-- The option with a short flag. -/
def short? (d : Definition) (manner : Manner) (flag : Char) : Option Opt :=
  (d.optionsFor manner).find? fun o => o.short == some flag

/-- The free arguments as usage lines show them. -/
def argumentsStyled (d : Definition) : String := "[" ++ d.argumentsName ++ "]..."

end Definition

end ThresholdCheck.CommandLine
