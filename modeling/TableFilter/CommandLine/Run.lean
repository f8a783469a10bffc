import TableFilter.CommandLine.Invocation
import TableFilter.Config.Load
import TableFilter.Sql.Extract
import TableFilter.Sql.Query

/-!
# Running commands

What a command reads and prints, given the files, the settings and the environment. What has been
printed stays printed when a command fails later on.
-/

namespace TableFilter.CommandLine

open Config (Settings)
open Json (Value)

/-- The cause for which a run fails. -/
inductive RunError where
  | config (e : Config.ConfigError)
  | unreadable (source reason : String)
  | unreadableStdin (reason : String)
  | badName (e : FilterError)
  | badPredicates (source : String) (e : FilterError)
  | badRows (e : Json.ReadError)
  | badFilters (e : Json.ReadError)
  deriving DecidableEq, Repr

/-- The words that name a cause to programs. -/
def RunError.code : RunError → String
  | .badName e | .badPredicates _ e => e.code
  | .config _ | .unreadable _ _ | .unreadableStdin _ | .badRows _ | .badFilters _ => "ERROR"

/-- The words that tell a cause, from the outermost to the innermost, in parts that a colon
joins. -/
def RunError.parts : RunError → List String
  | .config e => e.parts
  | .unreadable source reason => ["Failed to read " ++ source, reason]
  | .unreadableStdin reason => ["Failed to read stdin", reason]
  | .badName e => e.parts
  | .badPredicates source e => ("Invalid predicates in " ++ source) :: e.parts
  | .badRows e => "Rows must be a JSON array of objects" :: e.message?.toList
  | .badFilters e => "Filters must be valid JSON" :: e.message?.toList

def RunError.message (e : RunError) : String :=
  Text.joined ": " e.parts

/-- What reading the standard input to its end comes to. -/
inductive Stdin where
  | text (content : String)
  | unreadable (reason : String)
  deriving DecidableEq, Repr

instance : Coe String Stdin :=
  ⟨.text⟩

/-- The two ends of a run: what is left of the standard input, and what has been printed. -/
structure Console where
  stdin : Stdin
  stdout : String
  deriving DecidableEq, Repr

/-- A part of a run. -/
abbrev Action (α : Type) : Type :=
  ExceptT RunError (StateM Console) α

namespace Action

/-- Goes on with a result, or fails with the cause that `f` makes of an error. -/
def check {ε α : Type} (f : ε → RunError) : Except ε α → Action α
  | .ok a => return a
  | .error e => throw (f e)

/-- Takes what is left of the standard input, if it can be read. -/
def takeStdin : Action String := do
  let console ← get
  match console.stdin with
  | .text content =>
    set { console with stdin := .text "" }
    return content
  | .unreadable reason => throw (.unreadableStdin reason)

def printLine (line : String) : Action Unit :=
  modify fun console => { console with stdout := console.stdout ++ line ++ "\n" }

def printValue (v : Value) : Action Unit :=
  printLine v.pretty

def readInput (files : Files) (source : String) : Action String :=
  if source = "-" then takeStdin
  else match files source with
    | .text content => return content
    | .unreadable reason => throw (.unreadable source reason)
    | .absent => throw (.unreadable source "No such file or directory (os error 2)")

end Action

open TableFilter.CommandLine.Action

def loadPredicates (files : Files) (settings : Settings) (source : String) :
    Action (List Predicate) := do
  let text ← readInput files source
  check (.badPredicates source) (readPredicates settings.limits text)

/-- The filter set of the predicates of an input, if there is one and it holds any. -/
def loadFilters (files : Files) (settings : Settings) :
    Option String → Action (Option FilterSet)
  | none => return none
  | some source => do
    let ps ← loadPredicates files settings source
    return FilterSet.compile? ps

def buildQuery (files : Files) (settings : Settings) (request : SelectRequest) :
    Action Query := do
  let table ← check .badName (Identifier.ofString request.table)
  let columns ← check .badName (Columns.ofNames request.columns)
  let filters ← loadFilters files settings request.predicates
  return ⟨table, filters, columns, request.limit, request.offset, request.orderBy⟩

/-- The parts of a statement that could be recovered. -/
def extracted (sql : String) : Value :=
  .object [
    ("where", .ofOption .string (Sql.extractWhere? sql)),
    ("order_by", .ofOption .string (Sql.extractOrderBy? sql))]

/-- How a command ends that does not fail: it may have rejected its input. -/
inductive Outcome where
  | success
  | rejected
  deriving DecidableEq, Repr

/-- Does what a command asks for. -/
def execute (files : Files) (settings : Settings) : Command → Action Outcome
  | .compile source => do
    let ps ← loadPredicates files settings source
    printValue (.ofOption FilterSet.toValue (FilterSet.compile? ps))
    return .success
  | .condition source => do
    let ps ← loadPredicates files settings source
    -- Without a condition not even an empty line is printed.
    match (FilterSet.compile? ps).bind (Sql.condition? settings.sql) with
    | some condition => printLine condition
    | none => pure ()
    return .success
  | .select request => do
    let q ← buildQuery files settings request
    if request.descriptor then printValue q.toValue
    else printLine (Sql.select settings.sql q)
    return .success
  | .count name source => do
    let table ← check .badName (Identifier.ofString name)
    let filters ← loadFilters files settings source
    printLine (Sql.count settings.sql table filters)
    return .success
  | .preview rowsSource source => do
    -- The rows come first: of two inputs from `-` they get the text and the predicates nothing.
    let text ← readInput files rowsSource
    let rows ← check .badRows (Json.read (.list .members) text)
    let ps ← loadPredicates files settings source
    printValue (.array ((Preview.kept settings.preview ps rows).map .object))
    return .success
  | .validate source => do
    let text ← readInput files source
    let v ← check .badFilters (Json.read .value text)
    if KeywordScan.accepts settings.scan v then
      printLine "true"
      return .success
    else
      printLine "false"
      return .rejected
  | .extract sql => do
    let sql ← if sql = "-" then takeStdin else pure sql
    printValue (extracted sql)
    return .success

def Invocation.action (invocation : Invocation) (files : Files) (env : Config.Environment) :
    Action Outcome := do
  let (settings, _) ← check .config (Config.load files env invocation.config)
  execute files settings invocation.command

/-- How a run ends: its words make no command, or the command has been run and has printed
something. -/
inductive Ending where
  | stopped (stop : Stop)
  | finished (result : Except RunError Outcome) (stdout : String)

/-- Runs what the words of a command line ask for. -/
def run (words : List String) (files : Files) (stdin : Stdin) (env : Config.Environment) :
    Ending :=
  match Invocation.ofWords env words with
  | .error stop => .stopped stop
  | .ok invocation =>
    let (result, console) := (invocation.action files env).run.run ⟨stdin, ""⟩
    .finished result console.stdout

namespace Ending

def stdout : Ending → String
  | .stopped _ => ""
  | .finished _ stdout => stdout

/-- The exit code: a request for help or the version succeeds, and a rejected input or words that
make no command have a code of their own. -/
def exitCode : Ending → UInt32
  | .stopped .help | .stopped .version => 0
  | .stopped _ => 2
  | .finished (.ok .success) _ => 0
  | .finished (.ok .rejected) _ => 2
  | .finished (.error _) _ => 1

end Ending

def Command.sources : Command → List String
  | .compile source | .condition source | .validate source => [source]
  | .select request => request.predicates.toList
  | .count _ source => source.toList
  | .preview rows source => [rows, source]
  | .extract sql => if sql = "-" then [sql] else []

/-- All files that a run may read. -/
def Invocation.files (invocation : Invocation) : List String :=
  Config.defaultFile :: invocation.config ++ invocation.command.sources.filter (· != "-")

def Invocation.readsStdin (invocation : Invocation) : Bool :=
  invocation.command.sources.contains "-"

end TableFilter.CommandLine
