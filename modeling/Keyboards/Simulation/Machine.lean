import Keyboards.Host.Machine
import Keyboards.Text.Basic

/-! A simulated machine: programs and files in one directory, and little around it. -/

namespace Keyboards.Simulation

/-- A program by the results it has for calls of each kind: `""` without arguments, the argument
if there is one, and otherwise the first argument and a star. -/
abbrev Program := List (String × ProgramResult)

structure MachineState where
  programs : List (String × Program) := []
  files : List (String × List UInt8) := []
  /-- Whether programs of the directory are found by name alone. -/
  searched : Bool := true
  hasDisplay : Bool := false
  /-- The programs called so far with their arguments. -/
  calls : List (List String) := []

/-- A directory on a path. -/
inductive Directory where
  /-- The directory of the programs and files, where paths start. -/
  | home
  | root
  | devices
  /-- Any other directory. Nothing in it is known but the way up. -/
  | elsewhere
deriving DecidableEq, Repr

/-- What a path leads to. -/
inductive Place where
  | directory
  | program (name : String) (p : Program)
  | file (content : List UInt8)
  /-- The path goes on behind a file. -/
  | behindFile
  | tooLong
  | nowhere

namespace MachineState

/-- The kind of a call. -/
def callKind : List String → String
  | [] => ""
  | [a] => a
  | a :: _ => a ++ " *"

def hasNul (s : String) : Bool := s.toList.contains '\x00'

/-- The directories that the root holds. -/
def systemDirectories : List String := ["bin", "etc", "tmp", "usr", "var"]

/-- The directory that a name leads to from another. -/
def subdirectory? : Directory → String → Option Directory
  | d, "." | d, "" => some d
  | .root, ".." => some .root
  | _, ".." => some .elsewhere
  | .root, "dev" => some .devices
  | .root, name => if systemDirectories.contains name then some .elsewhere else none
  | _, _ => none

variable (s : MachineState)

/-- What else a name stands for in a directory. -/
def entry (d : Directory) (name : String) : Place :=
  match d with
  | .home =>
    match s.programs.lookup name, s.files.lookup name with
    | some p, _ => .program name p
    | none, some content => .file content
    | none, none => .nowhere
  | .devices => if name = "null" then .file [] else .nowhere
  | _ => .nowhere

/-- Follows the names on a path from a directory. -/
def follow (d : Directory) : List String → Place
  | [] => .directory
  | name :: rest =>
    if 255 < name.utf8ByteSize then .tooLong
    else match subdirectory? d name with
      | some d => follow d rest
      | none =>
        match s.entry d name with
        | .nowhere => .nowhere
        | p => if rest.isEmpty then p else .behindFile

def place (path : String) : Place :=
  if path = "" then .nowhere
  else if 4096 ≤ path.utf8ByteSize then .tooLong
  else match Text.split '/' path with
    | "" :: names => s.follow .root names
    | names => s.follow .home names

/-- Starts a program. A file that is no program cannot be started. -/
def start (program : String) (arguments : List String) :
    Except IoError ProgramResult × MachineState :=
  if hasNul program || arguments.any hasNul then (.error .nulInArgument, s)
  else
    let hidden := !s.searched && !program.toList.contains '/'
    match s.place program with
    | .program name p =>
      if hidden then (.error .notFound, s)
      else (.ok ((p.lookup (callKind arguments)).getD {}),
        { s with calls := s.calls ++ [name :: arguments] })
    | .file _ => (.error (if hidden then .notFound else .permissionDenied), s)
    | .directory => (.error .permissionDenied, s)
    | .behindFile => (.error .notDirectory, s)
    | .tooLong => (.error .nameTooLong, s)
    | .nowhere => (.error .notFound, s)

/-- What is found in the file of a program. -/
def scriptText : List UInt8 := "#!/bin/sh\nexit 0\n".toUTF8.toList

def read (path : String) : Except IoError (List UInt8) :=
  if hasNul path then .error .nulInPath
  else match s.place path with
    | .file content => .ok content
    | .program _ _ => .ok scriptText
    | .directory => .error .isDirectory
    | .behindFile => .error .notDirectory
    | .tooLong => .error .nameTooLong
    | .nowhere => .error .notFound

/-- Whether a path leads to anything. -/
def leadsSomewhere (path : String) : Bool :=
  match s.place path with
  | .behindFile | .tooLong | .nowhere => false
  | _ => !hasNul path

def machine : Machine (StateM MachineState) where
  run program arguments := modifyGet fun s => s.start program arguments
  readFile path := do return (← get).read path
  fileExists path := do return (← get).leadsSomewhere path
  hasDisplay := do return (← get).hasDisplay

end MachineState

end Keyboards.Simulation
