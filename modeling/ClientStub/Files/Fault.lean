/-!
# Faults of files

Why a file could not be read or written.
-/

namespace ClientStub

inductive FileFault where
  | notFound
  | notADirectory
  | isADirectory
  | alreadyExists
  | notText
  | nulInPath
  | nameTooLong
  | other (text : String)
  deriving DecidableEq, Repr

/-- What the operating system says of a fault, with its number if it has one. -/
def FileFault.message : FileFault → String
  | notFound => "No such file or directory (os error 2)"
  | notADirectory => "Not a directory (os error 20)"
  | isADirectory => "Is a directory (os error 21)"
  | alreadyExists => "File exists (os error 17)"
  | notText => "stream did not contain valid UTF-8"
  | nulInPath => "file name contained an unexpected NUL byte"
  | nameTooLong => "File name too long (os error 36)"
  | other text => text

/-- The kind of a fault. -/
def FileFault.kind : FileFault → String
  | notFound => "NotFound"
  | notADirectory => "NotADirectory"
  | isADirectory => "IsADirectory"
  | alreadyExists => "AlreadyExists"
  | notText => "InvalidData"
  | nulInPath => "InvalidInput"
  | nameTooLong => "InvalidFilename"
  | other _ => "Other"

end ClientStub
