import Pipewright.CommandLine.Program

/-!
# The command line

The program runs on the files of the machine, seen from the current directory.
-/

namespace Pipewright

namespace Machine

/-- Why the machine refused an operation. -/
def faultOf (error : IO.Error) : FileFault :=
  match error with
  | .noFileOrDirectory .. => .notFound
  | .alreadyExists .. => .alreadyExists
  | .permissionDenied .. => .denied
  | .inappropriateType .. => .isDirectory
  | other => .other (toString other)

/-- Run an operation and keep its fault. -/
def attempt {α : Type} (operation : IO α) : IO (Except FileFault α) := do
  match ← operation.toBaseIO with
  | .ok value => return .ok value
  | .error error => return .error (faultOf error)

/-- The operations on the files of the machine. -/
def access : FileAccess IO where
  readText path := do
    let here ← IO.currentDir
    if ← (here / path).isDir then return .error .isDirectory
    attempt do
      let octets ← IO.FS.readBinFile path
      match String.fromUTF8? octets with
      | some text => return text
      | none => throw (IO.userError FileFault.notText.message)
  isPresent path := do
    let here ← IO.currentDir
    (here / path).pathExists
  isDirectory path := do
    let here ← IO.currentDir
    (here / path).isDir
  names path := do
    let here ← IO.currentDir
    match ← attempt (here / path).readDir with
    | .ok entries => return entries.toList.map (·.fileName)
    | .error _ => return []
  createDirectories path := attempt (IO.FS.createDirAll path)
  writeText path text := attempt (IO.FS.writeFile path text)

end Machine

end Pipewright

/-- Run the program. -/
def main (arguments : List String) : IO UInt32 := do
  let outcome ← Pipewright.Program.run Pipewright.Machine.access arguments
  IO.print outcome.output
  for report in outcome.reports do
    IO.eprintln report
  return outcome.status.toUInt32
