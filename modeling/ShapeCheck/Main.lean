import ShapeCheck.Command.Run

/-!
# The program

Takes its arguments, the log filter from the environment and the input from a file or the standard
input, and writes what running the program comes to.
-/

open ShapeCheck.Command

/-- The reason of a failure of the system, with its number if it has one. -/
def systemReason : IO.Error → String
  | .noFileOrDirectory _ code details => details ++ " (os error " ++ toString code ++ ")"
  | .permissionDenied _ code details => details ++ " (os error " ++ toString code ++ ")"
  | .inappropriateType _ code details => details ++ " (os error " ++ toString code ++ ")"
  | .invalidArgument _ code details => details ++ " (os error " ++ toString code ++ ")"
  | .otherError code details => details ++ " (os error " ++ toString code ++ ")"
  | e => toString e

/-- Reads all of a stream. -/
partial def readAll (h : IO.FS.Stream) (before : ByteArray) : IO ByteArray := do
  let chunk ← h.read 65536
  if chunk.isEmpty then return before else readAll h (before ++ chunk)

/-- Reads the file of a path. -/
def readFile (path : String) : IO Supply := do
  match ← (IO.FS.Handle.mk path .read).toBaseIO with
  | .error e => return .unopened (systemReason e)
  | .ok handle =>
    match ← (readAll (.ofHandle handle) .empty).toBaseIO with
    | .error e => return .unreadable (systemReason e)
    | .ok bytes => return .bytes bytes.toList

/-- The input that a request looks for. -/
def findSupply (path : Option String) : IO Supply := do
  match path with
  | some path => readFile path
  | none =>
    match ← (readAll (← IO.getStdin) .empty).toBaseIO with
    | .error e => return .unreadable (systemReason e)
    | .ok bytes => return .bytes bytes.toList

/-- Runs the program. -/
def main (arguments : List String) : IO UInt32 := do
  let filter ← IO.getEnv filterVariable
  let supply ← match Request.ofArguments arguments with
    | .ok (.check q) => findSupply q.path
    | _ => pure (.bytes [])
  let result := run arguments filter fun _ => supply
  for notice in result.notices do
    IO.eprintln notice.output.line
  IO.print result.output
  return result.exitCode.toUInt32
