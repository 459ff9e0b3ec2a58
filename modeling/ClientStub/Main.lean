import ClientStub.CommandLine

/-!
# The program

The command line on the files of the operating system.
-/

namespace ClientStub

/-- The fault that an error of the operating system is. -/
def FileFault.ofIO : IO.Error → FileFault
  | .noFileOrDirectory _ _ _ => .notFound
  | .alreadyExists _ _ _ => .alreadyExists
  | .inappropriateType _ code details =>
    if code = 21 then .isADirectory else if code = 20 then .notADirectory else .other details
  | .invalidArgument _ code details => if code = 36 then .nameTooLong else .other details
  | error => .other (toString error)

private def caught {α : Type} (action : IO α) : IO (Except FileFault α) := do
  try
    pure (.ok (← action))
  catch error => pure (.error (.ofIO error))

/-- The disk of the operating system. -/
def systemDisk : Disk IO where
  readText path := do
    match ← caught (IO.FS.readBinFile path) with
    | .error fault => pure (.error fault)
    | .ok bytes =>
      match String.fromUTF8? bytes with
      | some text => pure (.ok text)
      | none => pure (.error .notText)
  createDirectories path := if path = "" then pure (.ok ()) else caught (IO.FS.createDirAll path)
  writeText path text := caught (IO.FS.writeFile path text)

end ClientStub

/-- Runs the program and exits with its code. -/
def main (arguments : List String) : IO UInt32 := do
  let outcome ← ClientStub.CommandLine.run ClientStub.systemDisk arguments
  (← IO.getStdout).putStr outcome.stdout
  (← IO.getStderr).putStr outcome.stderr
  pure outcome.code.toUInt32
