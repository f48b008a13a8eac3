/-
**What can go wrong with a file.**

* `FileError` names the causes that callers tell apart;
* `FileError.text` is how the operating system describes each.
-/

namespace Provision

/-- Why an operation on a file failed. -/
inductive FileError where
  | notFound
  | alreadyExists
  | isDirectory
  | notDirectory
  | notEmpty
  | denied
  | nameTooLong
  /-- Symbolic links lead in a circle, or through too many others. -/
  | linkLoop
  /-- Only a regular file can be copied. -/
  | notRegular
  /-- A path holds the character that ends paths. -/
  | badPath
  /-- What was to be read as text is none. -/
  | notText
  | timedOut
  | other (text : String)
  deriving DecidableEq, Repr

/-- The description of an error. -/
def FileError.text : FileError → String
  | notFound => "No such file or directory (os error 2)"
  | alreadyExists => "File exists (os error 17)"
  | isDirectory => "Is a directory (os error 21)"
  | notDirectory => "Not a directory (os error 20)"
  | notEmpty => "Directory not empty (os error 39)"
  | denied => "Permission denied (os error 13)"
  | nameTooLong => "File name too long (os error 36)"
  | linkLoop => "Too many levels of symbolic links (os error 40)"
  | notRegular => "the source path is neither a regular file nor a symlink to a regular file"
  | badPath => "file name contained an unexpected NUL byte"
  | notText => "stream did not contain valid UTF-8"
  | timedOut => "timed out"
  | other text => text

end Provision
