import TableFilter.CommandLine.Option
import TableFilter.Config.Environment

/-!
# Invocations

The commands of the program, the options of each, and how the words of a command line and the
environment name one of them.
-/

namespace TableFilter.CommandLine

/-- What is asked of a `SELECT` statement. -/
structure SelectRequest where
  table : String
  columns : List String
  predicates : Option String
  orderBy : Option String
  limit : Option UInt64
  offset : Option UInt64
  descriptor : Bool
  deriving DecidableEq, Repr

/-- What the program is to do. Inputs are the paths of files, and a dash stands for the standard
input. -/
inductive Command where
  | compile (predicates : String)
  | condition (predicates : String)
  | select (request : SelectRequest)
  | count (table : String) (predicates : Option String)
  | preview (rows predicates : String)
  | validate (filters : String)
  | extract (sql : String)
  deriving DecidableEq, Repr

/-- A command and the configuration files it is to be run with. -/
structure Invocation where
  config : List String
  command : Command
  deriving DecidableEq, Repr

/-- The options of a command, and the command that they make. -/
structure CommandForm where
  name : String
  options : List Opt
  build : Given → Except Stop Command

/-- The option for configuration files, which may stand before and after the command. -/
def configOption : Opt :=
  ⟨"config", some 'c', .paths⟩

def helpOption : Opt :=
  ⟨"help", some 'h', .helpRequest⟩

def versionOption : Opt :=
  ⟨"version", some 'V', .versionRequest⟩

def predicatesOption : Opt :=
  ⟨"predicates", some 'p', .text⟩

def tableOption : Opt :=
  ⟨"table", some 't', .text⟩

def commandForms : List CommandForm := [
  { name := "compile"
    options := [predicatesOption]
    build := fun given => return .compile (← given.value "predicates") },
  { name := "where"
    options := [predicatesOption]
    build := fun given => return .condition (← given.value "predicates") },
  { name := "select"
    options := [tableOption, ⟨"columns", none, .texts⟩, predicatesOption,
      ⟨"order-by", none, .text⟩, ⟨"limit", none, .number⟩, ⟨"offset", none, .number⟩,
      ⟨"descriptor", none, .nothing⟩]
    build := fun given => return .select {
      table := ← given.value "table"
      columns := given.values "columns"
      predicates := given.value? "predicates"
      orderBy := given.value? "order-by"
      limit := given.word? "limit"
      offset := given.word? "offset"
      descriptor := given.has "descriptor" } },
  { name := "count"
    options := [tableOption, predicatesOption]
    build := fun given => return .count (← given.value "table") (given.value? "predicates") },
  { name := "preview"
    options := [⟨"rows", some 'r', .text⟩, predicatesOption]
    build := fun given => return .preview (← given.value "rows") (← given.value "predicates") },
  { name := "validate"
    options := [⟨"filters", some 'f', .text⟩]
    build := fun given => return .validate (← given.value "filters") },
  { name := "extract"
    options := [⟨"sql", some 's', .text⟩]
    build := fun given => return .extract (← given.value "sql") }]

def helpCommand : String := "help"

/-- The names that the first plain word may have. -/
def commandNames : List String :=
  commandForms.map CommandForm.name ++ [helpCommand]

/-- Whether a request for help names a command, or none. -/
def helpStop : List String → Stop
  | [] => .help
  | [name] => if commandNames.contains name then .help else .unknownCommand
  | _ => .unknownCommand

/-- The variable with paths of configuration files. -/
def configVariable : String := "FILTERQL_CONFIG"

/-- The configuration files that the environment names. It is looked at only where the words name
none. -/
def environmentConfig (env : Config.Environment) (given : Given) : Except Stop (List String) :=
  if given.has configOption.long then .ok []
  else match env configVariable with
    | none => .ok []
    | some value => pathsOf value

/-- What the words at one level give and, where no configuration files are among it, those that
the environment names. -/
def finishLevel (env : Config.Environment) (p : Progress) : Except Stop (Given × List String) := do
  let p ← p.settle
  let paths ← environmentConfig env p.given
  return (p.given, paths)

/-- The command that the words behind its name make, and what has been given. -/
def readCommand (env : Config.Environment) (form : CommandForm) (words : List String) :
    Except Stop (Command × Given) := do
  let options := form.options ++ [configOption, helpOption]
  let (p, _) ← Progress.start.readWords options [] words
  let (given, _) ← finishLevel env p
  let command ← form.build given
  return (command, given)

/-- The configuration files of a run: those named behind the command, or else those named before
it, or else those of the environment. -/
def configPaths (inner outer : Given) (environment : List String) : List String :=
  if inner.has configOption.long then inner.values configOption.long
  else if outer.has configOption.long then outer.values configOption.long
  else environment

/-- What the words of a command line and the environment ask for. -/
def Invocation.ofWords (env : Config.Environment) (words : List String) :
    Except Stop Invocation := do
  let (p, rest) ←
    Progress.start.readWords [configOption, helpOption, versionOption] commandNames words
  match rest with
  | none =>
    let (given, environment) ← finishLevel env p
    throw (if given.isEmpty && environment.isEmpty then .nothing else .noCommand)
  | some (name, rest) =>
    match commandForms.find? (·.name == name) with
    | none => throw (helpStop rest)
    | some form =>
      let (command, inner) ← readCommand env form rest
      let (outer, environment) ← finishLevel env p
      return ⟨configPaths inner outer environment, command⟩

end TableFilter.CommandLine
