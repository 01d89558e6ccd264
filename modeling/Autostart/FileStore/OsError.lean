/-!
# Failures of file operations

The reasons for which an operation on files can fail, and the texts that report them.
-/

namespace Autostart

/-- Why an operation on files failed. -/
inductive OsError where
  /-- A file or a directory on the way does not exist. -/
  | notFound
  /-- The path names a directory by a dot or by the root, which cannot be replaced. -/
  | busy
  /-- The name is taken. -/
  | alreadyExists
  /-- A file stands where a directory is needed. -/
  | notDirectory
  /-- A directory stands where a file is needed. -/
  | isDirectory
  /-- A name has more than 255 bytes, or a path more than 4095. -/
  | nameTooLong
  /-- A name holds the null character. -/
  | nullInName
  /-- The new name of a file holds the null character. -/
  | invalidArgument
  /-- The file is not a text. -/
  | notText
  /-- What should be copied is not a file. -/
  | notRegular
deriving DecidableEq, Repr

namespace OsError

/-- The text that reports a failure. -/
def message : OsError → String
  | notFound => "No such file or directory (os error 2)"
  | busy => "Device or resource busy (os error 16)"
  | alreadyExists => "File exists (os error 17)"
  | notDirectory => "Not a directory (os error 20)"
  | isDirectory => "Is a directory (os error 21)"
  | invalidArgument => "Invalid argument (os error 22)"
  | nameTooLong => "File name too long (os error 36)"
  | nullInName => "file name contained an unexpected NUL byte"
  | notText => "stream did not contain valid UTF-8"
  | notRegular => "the source path is neither a regular file nor a symlink to a regular file"

end OsError

/-! ## Operations after others -/

/-- An operation after another one succeeds when both do. -/
theorem bind_eq_ok_iff {ε α β : Type} {x : Except ε α} {f : α → Except ε β} {b : β} :
    (x >>= f) = .ok b ↔ ∃ a, x = .ok a ∧ f a = .ok b := by
  cases x <;> simp [bind, Except.bind]

end Autostart
