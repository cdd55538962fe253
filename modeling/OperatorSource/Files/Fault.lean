/-!
# Failures of file access

The operating system refuses to read or write a file for a few reasons, each with a fixed message.
-/

namespace OperatorSource

/-- Why a file cannot be read or written. -/
inductive FileFault where
  /-- The file, or a directory on the way to it, does not exist. -/
  | notFound
  /-- Something on the way to the file is no directory. -/
  | notDirectory
  /-- The file is a directory. -/
  | isDirectory
  /-- A name on the way, or the whole path, is too long. -/
  | nameTooLong
  /-- The path holds a zero character. -/
  | zeroCharacter
  /-- Anything else, with the words of the system. -/
  | other (message : String)
  deriving DecidableEq

def FileFault.message : FileFault → String
  | .notFound => "No such file or directory (os error 2)"
  | .notDirectory => "Not a directory (os error 20)"
  | .isDirectory => "Is a directory (os error 21)"
  | .nameTooLong => "File name too long (os error 36)"
  | .zeroCharacter => "file name contained an unexpected NUL byte"
  | .other message => message

end OperatorSource
