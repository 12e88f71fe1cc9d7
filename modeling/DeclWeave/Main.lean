import DeclWeave.CommandLine.Program

/-!
# The Command

Reads what the arguments name and hands it to `Program.execute`.
-/

namespace DeclWeave.Command

/-- Everything that a stream still holds. -/
partial def readToEnd (stream : IO.FS.Stream) : IO ByteArray := do
  let rec loop (read : ByteArray) : IO ByteArray := do
    let chunk ← stream.read 65536
    if chunk.isEmpty then return read else loop (read ++ chunk)
  loop .empty

/-- The content of a file. -/
def readFile (path : String) : IO (Except InputFault ByteArray) := do
  try
    return .ok (← IO.FS.readBinFile path)
  catch
    | .noFileOrDirectory .. => return .error .missing
    | e => return .error (.system (toString e))

/-- What the arguments name. -/
def readInputs (args : List String) : IO Inputs := do
  let paths := ((CommandLine.ofArgs args).toOption.map (·.files)).getD []
  let standard ←
    if paths.contains CommandLine.standardInput then readToEnd (← IO.getStdin) else pure .empty
  let files ← (paths.filter (· != CommandLine.standardInput)).mapM fun path => do
    return (path, ← readFile path)
  return { file := fun path => (files.lookup path).getD (.error .missing), standard }

end DeclWeave.Command

def main (args : List String) : IO UInt32 := do
  let outcome := DeclWeave.Program.execute args (← DeclWeave.Command.readInputs args)
  IO.print outcome.output
  IO.eprint outcome.errors
  return outcome.code.toUInt32
