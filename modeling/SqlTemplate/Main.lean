import SqlTemplate.CommandLine.Run

/-! # The command line program -/

namespace SqlTemplate.CommandLine

def missing : String := "No such file or directory (os error 2)"

def directory : String := "Is a directory (os error 21)"

def reasonOf : IO.Error → String
  | .noFileOrDirectory .. => missing
  | .inappropriateType .. => directory
  | .permissionDenied .. => "Permission denied (os error 13)"
  | .userError _ => "stream did not contain valid UTF-8"
  | e => toString e

def readDisk (path : String) : IO (Except String String) := do
  try
    let text ← IO.FS.readFile path
    return .ok text
  catch e => return .error (reasonOf e)

def disk : Files IO where
  isFile path := do
    match ← readDisk path with
    | .ok _ => return true
    | .error reason => return reason != missing && reason != directory
  read := readDisk

/-- The directory of the user's configuration files, by the usual variables. Only an absolute one counts. -/
def configHome : IO (Option String) := do
  match (← IO.getEnv "XDG_CONFIG_HOME").filter (·.startsWith "/") with
  | some home => return some home
  | none => return (← IO.getEnv "HOME").map (· ++ "/.config")

end SqlTemplate.CommandLine

open SqlTemplate.CommandLine in
def main (words : List String) : IO UInt32 := do
  let environment : Environment := ⟨← IO.getEnv "SQLSCRIPT_CONFIG", ← configHome⟩
  let outcome ← run disk environment words
  IO.print outcome.output
  IO.eprint outcome.errors
  return outcome.exit.toUInt32
