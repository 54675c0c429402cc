/-!
# Files — why one cannot be used
-/

namespace TurnTaking

/-- Why a file cannot be read, or a folder cannot be made. -/
inductive FileFault where
  | notFound
  | alreadyThere
  /-- The path leads through something that is no folder. -/
  | notFolder
  | isFolder
  | nameTooLong
  /-- The path holds a zero character. -/
  | zeroInName
  | notText
  /-- For a reason of the system's own. -/
  | system (reason : String)
deriving DecidableEq, Repr, Inhabited

def FileFault.message : FileFault → String
  | .notFound => "No such file or directory (os error 2)"
  | .alreadyThere => "File exists (os error 17)"
  | .notFolder => "Not a directory (os error 20)"
  | .isFolder => "Is a directory (os error 21)"
  | .nameTooLong => "File name too long (os error 36)"
  | .zeroInName => "file name contained an unexpected NUL byte"
  | .notText => "stream did not contain valid UTF-8"
  | .system reason => reason

end TurnTaking
