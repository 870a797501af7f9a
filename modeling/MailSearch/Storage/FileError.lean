/-!
# Failures of files

Why a file could not be read or written.
-/

namespace MailSearch
namespace Storage

/-- Why a file could not be read or written. -/
inductive FileError where
  /-- There is no such file. -/
  | missing
  /-- Something stands in its place already. -/
  | alreadyThere
  /-- A directory stands in its place. -/
  | isDirectory
  /-- A file stands in the place of a directory. -/
  | notDirectory
  /-- A name in the path is too long. -/
  | nameTooLong
  /-- The path contains a null character. -/
  | nullInPath
  /-- The file is not in UTF-8. -/
  | notText
  /-- Another reason. -/
  | other (reason : String)
  deriving DecidableEq, Repr

/-- The wording of the reason. -/
def FileError.message : FileError -> String
  | .missing => "No such file or directory (os error 2)"
  | .alreadyThere => "File exists (os error 17)"
  | .isDirectory => "Is a directory (os error 21)"
  | .notDirectory => "Not a directory (os error 20)"
  | .nameTooLong => "File name too long (os error 36)"
  | .nullInPath => "file name contained an unexpected NUL byte"
  | .notText => "stream did not contain valid UTF-8"
  | .other reason => reason

end Storage
end MailSearch
