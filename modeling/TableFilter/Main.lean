import TableFilter.CommandLine.Run

/-!
# The program

Reads what a run needs, runs it, and prints what it says.
-/

namespace TableFilter.Main

def environmentKeys : List String :=
  CommandLine.configVariable :: Config.Override.all.map Config.Override.key

def readEnvironment : IO Config.Environment := do
  let mut values : List (String × String) := []
  for key in environmentKeys do
    if let some value ← IO.getEnv key then
      values := Entries.put key value values
  return fun key => Entries.get? key values

def readState (path : String) : IO FileState := do
  try
    return .text (← IO.FS.readFile path)
  catch e =>
    match e with
    | .noFileOrDirectory _ _ _ => return .absent
    | .inappropriateType _ _ _ => return .unreadable "Is a directory (os error 21)"
    | e => return .unreadable (toString e)

def readFiles (paths : List String) : IO Files := do
  let mut states : List (String × FileState) := []
  for path in paths do
    states := Entries.put path (← readState path) states
  return fun path => (Entries.get? path states).getD .absent

def readStdin : IO CommandLine.Stdin := do
  try
    return .text (← (← IO.getStdin).readToEnd)
  catch e =>
    match e with
    | .inappropriateType _ _ _ => return .unreadable "Is a directory (os error 21)"
    | e => return .unreadable (toString e)

/-- The files and the standard input, as far as a run reads them. -/
def readInputs (env : Config.Environment) (words : List String) :
    IO (Files × CommandLine.Stdin) := do
  match CommandLine.Invocation.ofWords env words with
  | .error _ => return (fun _ => .absent, .text "")
  | .ok invocation =>
    let files ← readFiles invocation.files
    let stdin ← if invocation.readsStdin then readStdin else pure (.text "")
    return (files, stdin)

def usage : String :=
  "usage: filterql [--config FILES] COMMAND [OPTIONS]\n" ++
    "commands: " ++ Text.joined ", " CommandLine.commandNames

/-- Prints what is to be told besides what a command prints. -/
def report : CommandLine.Ending → IO Unit
  | .stopped .help => IO.println usage
  | .stopped .version => IO.println "filterql 0.3.2"
  | .stopped _ => IO.eprintln usage
  | .finished (.error e) _ => IO.eprintln ("Error: " ++ e.message)
  | .finished (.ok _) _ => pure ()

/-- Runs the command that the words name, and gives the exit code. -/
def runWords (words : List String) : IO UInt32 := do
  let env ← readEnvironment
  let (files, stdin) ← readInputs env words
  let ending := CommandLine.run words files stdin env
  IO.print ending.stdout
  report ending
  return ending.exitCode

end TableFilter.Main

def main (words : List String) : IO UInt32 :=
  TableFilter.Main.runWords words
