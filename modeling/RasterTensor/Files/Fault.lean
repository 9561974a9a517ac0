import RasterTensor.Text.Quoted

/-!
# Why a file operation fails

Each reason has the number and the words of the operating system; the path is shown as it was
given to the operation.
-/

namespace RasterTensor.Files

inductive Fault where
  | notFound
  | alreadyExists
  | notDirectory
  | isDirectory
  | nameTooLong
  deriving DecidableEq

def Fault.number : Fault → Nat
  | .notFound => 2
  | .alreadyExists => 17
  | .notDirectory => 20
  | .isDirectory => 21
  | .nameTooLong => 36

def Fault.words : Fault → String
  | .notFound => "No such file or directory"
  | .alreadyExists => "File exists"
  | .notDirectory => "Not a directory"
  | .isDirectory => "Is a directory"
  | .nameTooLong => "File name too long"

/-- A path that cannot be named, or an operation on a path that the file system refuses. -/
inductive Error where
  | embeddedNul
  | refused (fault : Fault) (path : String)
  deriving DecidableEq

def Error.message : Error → String
  | .embeddedNul => "embedded null byte"
  | .refused fault path =>
    "[Errno " ++ Text.naturalText fault.number ++ "] " ++ fault.words ++ ": " ++ Text.quoted path

end RasterTensor.Files
