import NodeLaunch.Path

/-!
# What the file system answers

Everything that a launch reads from disk goes through three questions about a
path. A `Snapshot` is their answers at one moment, so each result that depends
on files is a function of it.
-/

namespace NodeLaunch

inductive FileError
  | notFound
  | notADirectory
  | isADirectory
  | nameTooLong
  | nulInName
  | notText
  | system (code : Nat) (description : String)
  deriving DecidableEq, Repr

namespace FileError

def systemText (code : Nat) (description : String) : String :=
  s!"{description} (os error {code})"

def message : FileError → String
  | .notFound => systemText 2 "No such file or directory"
  | .notADirectory => systemText 20 "Not a directory"
  | .isADirectory => systemText 21 "Is a directory"
  | .nameTooLong => systemText 36 "File name too long"
  | .nulInName => "file name contained an unexpected NUL byte"
  | .notText => "stream did not contain valid UTF-8"
  | .system code description => systemText code description

end FileError

structure Snapshot where
  /-- The path names a regular file. -/
  isFile : Path → Bool
  isDirectory : Path → Bool
  read : Path → Except FileError String

end NodeLaunch
