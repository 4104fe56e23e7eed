/-!
# File faults

The ways in which reading a whole file fails that callers tell apart, and their wording.
-/

namespace GpuTexture

inductive FileError where
  | missing
  | notDirectory
  | isDirectory
  | nameTooLong
  | other (message : String)
deriving DecidableEq, Repr

def FileError.message : FileError → String
  | .missing => "No such file or directory (os error 2)"
  | .notDirectory => "Not a directory (os error 20)"
  | .isDirectory => "Is a directory (os error 21)"
  | .nameTooLong => "File name too long (os error 36)"
  | .other message => message

end GpuTexture
