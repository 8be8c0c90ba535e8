import Keyboards.CommandLine.Program

/-! The command line program on the machine that it runs on. -/

namespace Keyboards.CommandLine

def ioError : IO.Error → IoError
  | .noFileOrDirectory .. => .notFound
  | .permissionDenied .. => .permissionDenied
  | .inappropriateType .. => .isDirectory
  | e => .other e.toString

/-- Files are read from disk. Other programs are out of reach and count as missing. -/
def localMachine : Machine IO where
  run _ _ := pure (.error .notFound)
  readFile path := do
    try return .ok (← IO.FS.readBinFile path).toList
    catch e => return .error (ioError e)
  fileExists path := do
    try
      let _ ← IO.FS.readBinFile path
      return true
    catch _ => return false
  hasDisplay := do return (← IO.getEnv "DISPLAY").isSome

end Keyboards.CommandLine

open Keyboards.CommandLine in
def main (args : List String) : IO UInt32 := do
  let outcome ← run localMachine args
  IO.print outcome.output
  IO.eprint outcome.errors
  return outcome.code.toUInt32
