import CLexicon.CommandLine.Run

/-!
# The program

Reads the files that a command names, and writes what the command answers.
-/

namespace CLexicon

open CommandLine

/-- Why reading a file failed. -/
def fileError : IO.Error → FileError
  | .noFileOrDirectory .. => .notFound
  | .inappropriateType .. => .isDirectory
  | error => .other (toString error)

/-- The bytes of the file at a path. -/
def readBytes (path : String) : IO (Except FileError (List UInt8)) := do
  try
    let content ← IO.FS.readBinFile path
    return .ok content.data.toList
  catch error => return .error (fileError error)

/-- The paths that a command names. -/
def namedPaths (arguments : List String) : List String :=
  match Arguments.parse arguments with
  | .error _ => []
  | .ok arguments =>
    let sources :=
      match arguments.command with
      | .classify file .. => [file]
      | _ => []
    sources ++ arguments.catalogue.toList

/-- Reads the files that the arguments name, and answers from them. -/
def answer (arguments : List String) (isTerminal : Bool) : IO Outcome := do
  let paths := namedPaths arguments
  let contents ← paths.mapM fun path => return (path, ← readBytes path)
  let files : Files := fun path =>
    (contents.lookup path).getD (.error .notFound)
  return run files isTerminal arguments

end CLexicon

/-- The entry point of the program. -/
def main (arguments : List String) : IO UInt32 := do
  let stderr ← IO.getStderr
  let outcome ← CLexicon.answer arguments (← stderr.isTty)
  (← IO.getStdout).putStr outcome.stdout
  stderr.putStr outcome.stderr
  return outcome.exitCode.toUInt32
