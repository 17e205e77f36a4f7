import AppConfig.Files.Path

/-! # The machine a document is read on

* `IoFault`: why the system refuses a file or a directory.
* `Host`: all that reading asks of a machine: the home directory if there is one, which paths exist,
  and the octets of a file.
-/

namespace AppConfig
set_option autoImplicit false

/-- Why the system refuses an operation. -/
inductive IoFault where
  | notFound
  | alreadyExists
  | notADirectory
  | isADirectory
  | nameTooLong
  | nulInName
  | other (text : String)
  deriving DecidableEq, Repr

def IoFault.message : IoFault → String
  | notFound => "No such file or directory (os error 2)"
  | alreadyExists => "File exists (os error 17)"
  | notADirectory => "Not a directory (os error 20)"
  | isADirectory => "Is a directory (os error 21)"
  | nameTooLong => "File name too long (os error 36)"
  | nulInName => "file name contained an unexpected NUL byte"
  | other text => text

/-- What reading asks of a machine. -/
structure Host where
  home : Option Path
  isPresent : Path → Bool
  read : Path → Except IoFault (List UInt8)

end AppConfig
