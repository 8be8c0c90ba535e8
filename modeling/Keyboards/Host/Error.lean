/-! What goes wrong between this library and a host. -/

namespace Keyboards

/-- Failures of reading a file or starting a program. -/
inductive IoError where
  | notFound
  | permissionDenied
  | isDirectory
  | notDirectory
  | nameTooLong
  /-- The content of a file is not UTF-8. -/
  | invalidText
  | nulInPath
  | nulInArgument
  | other (message : String)
deriving DecidableEq, Repr

def IoError.message : IoError → String
  | notFound => "No such file or directory (os error 2)"
  | permissionDenied => "Permission denied (os error 13)"
  | isDirectory => "Is a directory (os error 21)"
  | notDirectory => "Not a directory (os error 20)"
  | nameTooLong => "File name too long (os error 36)"
  | invalidText => "stream did not contain valid UTF-8"
  | nulInPath => "file name contained an unexpected NUL byte"
  | nulInArgument => "nul byte found in provided data"
  | other message => message

/-- Failures of an adaptor, in terms that every subsystem shares. -/
inductive AdaptorError where
  | unavailable (subsystem : String)
  | commandFailed (program status errors : String)
  | unknownKeyboard (name : String)
  | unexpectedOutput (detail : String)
  | io (error : IoError)
deriving DecidableEq, Repr

def AdaptorError.message : AdaptorError → String
  | unavailable s => s ++ " is not available on this host"
  | commandFailed program status errors =>
    "\x60" ++ program ++ "\x60 failed (" ++ status ++ "): " ++ errors
  | unknownKeyboard name => "unknown keyboard '" ++ name ++ "'"
  | unexpectedOutput detail => "unexpected output: " ++ detail
  | io e => e.message

end Keyboards
