import ThresholdCheck.Config.Reading

/-!
# Loading a configuration

A configuration is loaded from a file, or is the default one if no file is named. What goes wrong
is told with the path of the file, but for declarations that are not consistent
(`LoadFault.message`).
-/

namespace ThresholdCheck

/-- Why a file has no text. -/
inductive FileFault where
  | absent
  | notText
  | other (message : String)
deriving DecidableEq

/-- What the fault says to a reader. -/
def FileFault.message : FileFault → String
  | absent => "No such file or directory (os error 2)"
  | notText => "stream did not contain valid UTF-8"
  | other message => message

/-- The text of a file that holds some bytes. -/
def FileFault.textOf (bytes : ByteArray) : Except FileFault String :=
  match String.fromUTF8? bytes with
  | some text => .ok text
  | none => .error .notText

/-- A message with what was being done when it came up. -/
def whileDoing (message doing : String) : String := message ++ "\n> " ++ doing

/-- Where a configuration comes from. -/
inductive ConfigSource where
  | unset
  | file (path : String) (contents : Except FileFault String)

/-- Why a configuration is not loaded. -/
inductive LoadFault where
  | unreadable (path : String) (cause : FileFault)
  | malformed (path text : String) (cause : Toml.Fault)
  | inconsistent (cause : DeclarationFault)
deriving DecidableEq

/-- What the fault says to a reader. -/
def LoadFault.message : LoadFault → String
  | unreadable path cause =>
    whileDoing cause.message ("reading nagrange configuration file '" ++ path ++ "'")
  | malformed path text cause =>
    whileDoing (cause.render text.toList) ("parsing configuration file '" ++ path ++ "'")
  | inconsistent cause => cause.message

/-- The configuration, if it is consistent. -/
def Config.validated (c : Config) : Except LoadFault Config :=
  match c.fault? with
  | none => .ok c
  | some cause => .error (.inconsistent cause)

/-- Loads a configuration. -/
def Config.load : ConfigSource → Except LoadFault Config
  | .unset => .ok .default
  | .file path (.error cause) => .error (.unreadable path cause)
  | .file path (.ok text) =>
    match Config.ofText text with
    | .error cause => .error (.malformed path text cause)
    | .ok c => c.validated

end ThresholdCheck
