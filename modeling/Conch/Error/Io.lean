import Conch.Text.Numeral

/-!
Failures of the file system and of descriptors, with the texts and the numbers by
which the operating system knows them.
-/

namespace Conch

/-- A failure that the operating system reports. -/
inductive OsError where
  | noSuchFile
  | argumentsTooLong
  | badDescriptor
  | permissionDenied
  | notADirectory
  | isADirectory
  | noSpace
  | brokenPipe
  | nameTooLong
  deriving DecidableEq, Repr

/-- The number of a failure. -/
def OsError.number : OsError → Nat
  | .noSuchFile => 2
  | .argumentsTooLong => 7
  | .badDescriptor => 9
  | .permissionDenied => 13
  | .notADirectory => 20
  | .isADirectory => 21
  | .noSpace => 28
  | .brokenPipe => 32
  | .nameTooLong => 36

/-- The text of a failure without its number. -/
def OsError.name : OsError → Text
  | .noSuchFile => "No such file or directory"
  | .argumentsTooLong => "Argument list too long"
  | .badDescriptor => "Bad file descriptor"
  | .permissionDenied => "Permission denied"
  | .notADirectory => "Not a directory"
  | .isADirectory => "Is a directory"
  | .noSpace => "No space left on device"
  | .brokenPipe => "Broken pipe"
  | .nameTooLong => "File name too long"

/-- The text of a failure with its number. -/
def OsError.message (error : OsError) : Text :=
  error.name ++ " (os error " ++ Text.ofNat error.number ++ ")"

/-- A failure to read, to write or to open. -/
inductive IoError where
  | os (error : OsError)
  /-- A path holds the character with code zero. -/
  | nulInPath
  /-- A file that should be text is not. -/
  | notText
  /-- A failure at the file or directory of the given path. -/
  | at (path : Text) (error : IoError)
  deriving DecidableEq, Repr

/-- The text of a failure. -/
def IoError.message : IoError → Text
  | .os error => error.message
  | .nulInPath => "file name contained an unexpected NUL byte"
  | .notText => "stream did not contain valid UTF-8"
  | .at path error => path ++ ": " ++ error.message

end Conch
