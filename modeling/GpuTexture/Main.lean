import GpuTexture.Cli.Run
import GpuTexture.Json.Printer

/-!
# The command line program

Reads the arguments, the environment and one file, and prints what the run yields.
-/

namespace GpuTexture.Cli

/-- The number of a system error, which some calls report negated. -/
def errorNumber (code : UInt32) : UInt32 :=
  if code.toInt32 < 0 then -code else code

def fileErrorOf : IO.Error → FileError
  | .noFileOrDirectory .. => .missing
  | .inappropriateType _ code _ => if errorNumber code = 20 then .notDirectory else .isDirectory
  | fault@(.invalidArgument _ code _) =>
    if errorNumber code = 36 then .nameTooLong else .other (toString fault)
  | fault => .other (toString fault)

def readWholeFile (path : String) : IO (Except FileError Bytes) := do
  try
    return .ok (← IO.FS.readBinFile path)
  catch fault =>
    return .error (fileErrorOf fault)

end GpuTexture.Cli

open GpuTexture GpuTexture.Cli in
def main (arguments : List String) : IO UInt32 := do
  let environment ← IO.getEnv "TEXLOAD_INPUT"
  let file ← match readCommand environment arguments .empty with
    | .ok command => readWholeFile command.input
    | .error _ => pure (.error .missing)
  let printJson := fun json => .ok json.pretty
  let outcome := run RgbaImage.decode printJson (fun _ => file) environment arguments
  IO.print outcome.output
  match outcome with
  | .printed _ => pure ()
  | .helped => IO.print usageText
  | .failed failure => IO.eprint failure.text
  | .refused error => IO.eprintln (error.message ++ "\n\n" ++ usageText)
  return outcome.exitCode.toUInt32
