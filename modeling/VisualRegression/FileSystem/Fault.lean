/-!
# Failed file operations

Why an operation on a file or a directory fails.
-/

namespace VisualRegression

/-- Why a file operation fails. -/
inductive FileFault where
  /-- There is no such file or directory. -/
  | notFound
  /-- The name is taken. -/
  | alreadyExists
  /-- A file is where a directory is needed. -/
  | notDirectory
  /-- A directory is where a file is needed. -/
  | isDirectory
  /-- A name, or a whole path, is too long. -/
  | nameTooLong
  /-- The path holds a null character. -/
  | nullCharacter
deriving DecidableEq, Inhabited, Repr

namespace FileFault

/-- The fault in words. -/
def message : FileFault → String
  | notFound => "No such file or directory (os error 2)"
  | alreadyExists => "File exists (os error 17)"
  | notDirectory => "Not a directory (os error 20)"
  | isDirectory => "Is a directory (os error 21)"
  | nameTooLong => "File name too long (os error 36)"
  | nullCharacter => "file name contained an unexpected NUL byte"

end FileFault

end VisualRegression
