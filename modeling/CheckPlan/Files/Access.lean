import CheckPlan.Text.Basic

namespace CheckPlan

/-- A path to a file, with slashes between its parts. -/
abbrev Path := Text

/-- Why a file cannot be read or written. -/
inductive FileError
  | notFound
  | notADirectory
  | isADirectory
  | nameTooLong
  | nulInPath
  | notText
  | other (reason : String)
  deriving DecidableEq, Repr

/-- What is said about the error. -/
def FileError.message : FileError → String
  | .notFound => "No such file or directory (os error 2)"
  | .notADirectory => "Not a directory (os error 20)"
  | .isADirectory => "Is a directory (os error 21)"
  | .nameTooLong => "File name too long (os error 36)"
  | .nulInPath => "file name contained an unexpected NUL byte"
  | .notText => "stream did not contain valid UTF-8"
  | .other reason => reason

/-- Reading and writing of whole files of text. Programs that go through it run on
    a file tree that is a value as well as on real files. -/
class FileAccess (m : Type → Type) where
  read : Path → m (Except FileError Text)
  write : Path → Text → m (Except FileError Unit)

end CheckPlan
