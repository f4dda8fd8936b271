/-!
# Failures of reading and writing

The reasons for which a file cannot be read or written, and their wording.
-/

namespace GrammarLayout

inductive FileError
  | notFound
  | isDirectory
  | notDirectory
  | nameTooLong
  /-- There is no room for what is written. -/
  | noSpace
  /-- Nothing stands behind a device. -/
  | noDevice
  /-- The contents are larger than what can be held. -/
  | outOfMemory
  /-- A path has a zero byte. -/
  | zeroByte
  /-- The bytes are not the UTF-8 form of any text. -/
  | notText
  /-- Any other reason, in the words of the system. -/
  | other (reason : String)
  deriving DecidableEq

def FileError.message : FileError → String
  | notFound => "No such file or directory (os error 2)"
  | isDirectory => "Is a directory (os error 21)"
  | notDirectory => "Not a directory (os error 20)"
  | nameTooLong => "File name too long (os error 36)"
  | noSpace => "No space left on device (os error 28)"
  | noDevice => "No such device or address (os error 6)"
  | outOfMemory => "out of memory"
  | zeroByte => "file name contained an unexpected NUL byte"
  | notText => "stream did not contain valid UTF-8"
  | other reason => reason

end GrammarLayout
