import ThresholdCheck.Program

/-!
# The command line

Reads the environment, the configuration file that `NAGRANGE_CONFIG` names and the command line, and
does what `Program.respond` says. An empty variable names no file.
-/

namespace ThresholdCheck

/-- The configuration in a file. -/
def configAt (path : String) : IO ConfigSource := do
  try
    let bytes ← IO.FS.readBinFile path
    return .file path (FileFault.textOf bytes)
  catch
    | .noFileOrDirectory _ _ _ => return .file path (.error .absent)
    | fault => return .file path (.error (.other (toString fault)))

/-- The configuration that the environment names. -/
def configFromEnvironment : IO ConfigSource := do
  match ← IO.getEnv "NAGRANGE_CONFIG" with
  | some path => if path = "" then return .unset else configAt path
  | none => return .unset

end ThresholdCheck

open ThresholdCheck in
/-- The program: one check. -/
def main (arguments : List String) : IO UInt32 := do
  let setting : Program.Setting := {
    config := ← configFromEnvironment
    filter := ← IO.getEnv "RUST_LOG"
    words := CommandLine.Word.ofString "nagrange" :: arguments.map CommandLine.Word.ofString }
  let response := Program.respond setting
  let output ← IO.getStdout
  let error ← IO.getStderr
  error.putStr response.error
  output.putStr response.output
  output.flush
  return UInt32.ofNat response.exitCode
