import MailMerge.Command.Run

/-!
# The program

Reads the command line, the environment and the files, and prints the outcome.
-/

open MailMerge

/-- The variables that are set, of those that mean something. -/
def readEnvironment : IO (List (String × String)) := do
  let found ← (Program.configVariable :: Settings.variableNames).mapM fun name => do
    return (← IO.getEnv name).map fun value => (name, value)
  return found.filterMap fun v => v

/-- The text of a file, or why there is none. -/
def readText (path : String) : IO (Except FileError String) := do
  try
    return .ok (← IO.FS.readFile path)
  catch
    | .noFileOrDirectory .. => return .error .missing
    | e => return .error (.other (toString e))

def main (args : List String) : IO UInt32 := do
  let environment ← readEnvironment
  let outcome ← match Program.invocation environment args with
    | .error s => pure (Program.stopped s)
    | .ok i => do
      let texts ← i.paths.mapM fun path => return (path, ← readText path)
      let files : Files := fun path => (List.lookup path texts).getD (.error .missing)
      pure (Program.outcome files environment i)
  IO.print outcome.stdout
  IO.eprint outcome.stderr
  return outcome.code.toUInt32
