import GpuTexture.Cli.Arguments
import GpuTexture.Cli.Report
import GpuTexture.Load

/-!
# Running a command

A command reads one file and reports on it. `info` looks at the leading bytes itself; `plan` loads
the file and plans its upload. A failure names what was being done and the chain of its causes. The
decoder of pictures and the printer of JSON are parameters.
-/

namespace GpuTexture.Cli

/-- What was being done, and the causes of its failure, the outermost first. -/
structure Failure where
  context : String
  causes : List String
deriving DecidableEq, Repr

def containerCauses (error : ContainerError) : List String :=
  error.message ::
    match error with
    | .file inner => [inner.message]
    | _ => []

def imageCauses (error : ImageError) : List String :=
  error.message ::
    match error with
    | .file inner => [inner.message]
    | .decode fault => fault.causes
    | _ => []

def loadCauses (error : LoadError) : List String :=
  error.message ::
    match error with
    | .file inner => [inner.message]
    | .container inner => containerCauses inner
    | .image inner => imageCauses inner

def infoReport (decodePicture : PictureDecoder) (path : String) (file : Except FileError Bytes) :
    Except Failure String := do
  let bytes ← file.mapError fun error => ⟨"Failed to read input file", [error.message]⟩
  if isKtx2 bytes then
    let container ← (Container.decode bytes).mapError fun error =>
      ⟨"Failed to parse KTX2 container", containerCauses error⟩
    return containerReport path container
  else
    let source ← (loadWith decodePicture bytes).mapError fun error =>
      ⟨"Failed to decode image", loadCauses error⟩
    return pictureReport path source

/-- The last part of a path, unless it leads upwards or there is none. -/
def fileName? (path : String) : Option String :=
  match ((path.splitOn "/").filter fun part => part ≠ "" ∧ part ≠ ".").getLast? with
  | some ".." => none
  | part => part

/-- The plan of an upload for sampling, labelled with the name of the file. -/
def planFile (decodePicture : PictureDecoder) (path : String) (file : Except FileError Bytes)
    (mipCount : Option UInt32) : Except Failure (UploadPlan × TextureSource) := do
  let source ← (openWith decodePicture file).mapError fun error =>
    ⟨"Failed to load texture", loadCauses error⟩
  let options : UploadOptions := ⟨fileName? path, mipCount, .textureBinding⟩
  let plan ← (UploadPlan.build source options).mapError fun error =>
    ⟨"Failed to plan upload", [error.message]⟩
  return (plan, source)

def planReport (decodePicture : PictureDecoder) (printJson : JsonPrinter) (path : String)
    (file : Except FileError Bytes) (mipCount : Option UInt32) (json : Bool) :
    Except Failure String := do
  let (plan, source) ← planFile decodePicture path file mipCount
  if json then
    let text ← (printJson (planJson plan)).mapError fun message => ⟨message, []⟩
    return text ++ "\n"
  else return planTable plan source.levelCount

def Command.run (decodePicture : PictureDecoder) (printJson : JsonPrinter)
    (readFile : String → Except FileError Bytes) : Command → Except Failure String
  | .info input => infoReport decodePicture input (readFile input)
  | .plan input mipCount json =>
    planReport decodePicture printJson input (readFile input) mipCount json

def versionText : String := "texload 0.1.0\n"

def usageText : String :=
  unlines
    [ "Usage: texload [-v] <COMMAND>",
      "",
      "Commands:",
      "  info -i <INPUT>                          header, shape and level index of a texture",
      "  plan -i <INPUT> [-m <COUNT>] [--json]    upload layout of each level"]

/-- The text of a failure: a single cause stands alone, several are numbered. -/
def Failure.text (failure : Failure) : String :=
  let causes :=
    match failure.causes with
    | [] => []
    | [cause] => ["", "Caused by:", "    " ++ cause]
    | causes => "" :: "Caused by:" ::
      causes.mapIdx fun number cause => alignRight 5 (toString number) ++ ": " ++ cause
  unlines (("Error: " ++ failure.context) :: causes)

inductive Outcome where
  | printed (output : String)
  | helped
  | failed (failure : Failure)
  | refused (error : ArgumentError)
deriving DecidableEq, Repr

namespace Outcome

/-- The status that a run ends with: one for a failure, two for refused arguments. -/
def exitCode : Outcome → UInt8
  | .printed _ | .helped => 0
  | .failed _ => 1
  | .refused _ => 2

def output : Outcome → String
  | .printed output => output
  | _ => ""

def complaint? : Outcome → Option String
  | .failed failure => some failure.text
  | _ => none

end Outcome

def run (decodePicture : PictureDecoder) (printJson : JsonPrinter)
    (readFile : String → Except FileError Bytes) (environment : Option String)
    (arguments : List String) : Outcome :=
  match readCommand environment arguments .empty with
  | .ok command =>
    match command.run decodePicture printJson readFile with
    | .ok output => .printed output
    | .error failure => .failed failure
  | .error .help => .helped
  | .error .version => .printed versionText
  | .error (.refused error) => .refused error

end GpuTexture.Cli
