import IndexPlanner.CommandLine.Arguments
import IndexPlanner.CommandLine.LogFilter
import IndexPlanner.Config
import IndexPlanner.Engine.Explanation
import IndexPlanner.Filter.Written
import IndexPlanner.Index.Info
import IndexPlanner.Index.Written
import IndexPlanner.Qualifier.Written
import IndexPlanner.Store.Memory

/-! The commands. Indexes and records come from files, which are read in a fixed order, so that
the first file with a fault is the one that is reported. -/
namespace IndexPlanner.CommandLine

open Json (Document Value)

/-- Why a command has no result. -/
inductive Failure where
  | unreadable (path : String)
  | malformed (path : String)
  | config (error : ConfigError)
  | logFilter (filter : String)
  | info (error : InfoError)
  | query (error : QueryError)
  deriving DecidableEq, Repr

namespace Failure

/-- The text of the error. -/
def message : Failure → String
  | unreadable path => s!"failed to read {path}"
  | malformed path => s!"invalid JSON in {path}"
  | config e => e.message
  | logFilter filter => s!"invalid log filter '{filter}'"
  | info e => e.message
  | query e => e.message

/-- The name by which callers tell errors apart. -/
def code : Failure → String
  | unreadable _ => "AERO_CLI_IO_ERROR"
  | malformed _ => "AERO_CLI_INVALID_INPUT"
  | config e => e.code
  | logFilter _ => "AERO_LOG_INVALID_FILTER"
  | info e => e.code
  | query e => e.code

end Failure

/-- The end of a run: what is printed, or why nothing is. A run is broken off when a log filter
is cut inside a character. -/
inductive Outcome where
  | printed (text : String)
  | failed (failure : Failure)
  | misused
  | brokenOff
  deriving DecidableEq, Repr

namespace Outcome

/-- The exit code of the program. -/
def exitCode : Outcome → Nat
  | printed _ => 0
  | failed _ => 1
  | misused => 2
  | brokenOff => 101

/-- The end of a run by its result. -/
def ofResult : Except Failure String → Outcome
  | .ok text => printed text
  | .error e => failed e

end Outcome

/-- The options that say what is queried. -/
def targetUsage : String :=
  "--info <INFO> --namespace <NAMESPACE> [--set <SET>] [--qualifiers <QUALIFIERS>]" ++
    " [--filter <FILTER>]"

/-- How the program is called. -/
def usage : String :=
  "Usage: aeroquery [--config <CONFIG>] <COMMAND>\n\nCommands:\n" ++
    "  indexes --info <INFO> [--namespace <NAMESPACE>]\n" ++
    "  explain " ++ targetUsage ++ " [--json]\n" ++
    "  query " ++ targetUsage ++ " --records <RECORDS>\n"

/-- The name and version of the program. -/
def version : String := "aeroquery 0.1.0\n"

/-- The record of an entry in a file of records. -/
def recordOfFields? : List (Option Document) → Option Record
  | [some space, set, some key, bins] => do
    let space ← space.string?
    let set ← Document.orDefault none (Document.optional? Document.string?) set
    let userKey ← key.value?
    let bins ← Document.orDefault [] (fun d => d.value?.bind Value.object?) bins
    return { key := { space, set, userKey }, bins }
  | _ => none

/-- The records of a file of records. -/
def records? (text : String) : Option (List Record) :=
  match Document.read text with
  | (.array items, false) =>
    items.mapM fun d => (d.fields? ["namespace", "set", "key", "bins"]).bind recordOfFields?
  | _ => none

section

variable {m : Type → Type} [Monad m] (readFile : String → m (Option String))

/-- The text of a file. -/
def text (path : String) : ExceptT Failure m String := do
  match ← readFile path with
  | some s => return s
  | none => throw (.unreadable path)

/-- What a file holds in a certain form. -/
def content {α : Type} (read : String → Option α) (path : String) : ExceptT Failure m α := do
  match read (← text readFile path) with
  | some a => return a
  | none => throw (.malformed path)

/-- The indexes of a file. -/
def snapshot (path : String) : ExceptT Failure m Snapshot := do
  match Snapshot.ofInfo (← text readFile path) with
  | .ok s => return s
  | .error e => throw (.info e)

/-- The filter and the qualifiers of a query. -/
def conditions (target : Target) : ExceptT Failure m (Option IndexFilter × List Qualifier) := do
  let filter ← target.filter.mapM (content readFile IndexFilter.read?)
  let qualifiers ← match target.qualifiers with
    | some path => content readFile (fun s => (Qualifier.readList s).toOption) path
    | none => pure []
  return (filter, qualifiers)

/-- The scope of a query. -/
def Target.scope (target : Target) : Scope := ⟨target.space, target.set⟩

/-- Lists indexes. -/
def indexes (info : String) (space : Option String) : ExceptT Failure m String := do
  let s ← snapshot readFile info
  let shown := match space with
    | some space => s.inNamespace space
    | none => s.indexes
  return (Document.array (shown.map Index.document)).pretty ++ "\n"

/-- Explains a query. -/
def explain (config : Config) (target : Target) (json : Bool) : ExceptT Failure m String := do
  let snapshot ← snapshot readFile target.info
  let (filter, qualifiers) ← conditions readFile target
  let engine : Engine := { snapshot, scansEnabled := config.scansEnabled }
  let e := engine.explain target.scope filter qualifiers
  return if json then e.document.pretty ++ "\n" else e.text

/-- The items, unless one is a failure. -/
def allRecords : List (Except StoreError Record) → Except Failure (List Record)
  | [] => .ok []
  | .ok r :: rest => (allRecords rest).map (r :: ·)
  | .error e :: _ => .error (.query (.store e))

/-- Prints the records that a query finds among those of a file. -/
def query (config : Config) (target : Target) (records : String) : ExceptT Failure m String := do
  let records ← content readFile records? records
  let snapshot ← snapshot readFile target.info
  let (filter, qualifiers) ← conditions readFile target
  let engine : Engine := { snapshot, scansEnabled := config.scansEnabled }
  let store := records.foldl MemoryStore.put {}
  match (engine.select MemoryStore.recordStore target.scope filter qualifiers store).1 with
  | .error e => throw (.query e)
  | .ok results =>
    match allRecords results.drain.1 with
    | .error e => throw e
    | .ok found => return String.join (found.map fun r => r.document.text ++ "\n")

/-- The settings; without a file they are the defaults. -/
def settings (config : Option String) : ExceptT Failure m Config :=
  match config with
  | none => return {}
  | some path => do
    match Config.load path (← readFile path) with
    | .ok c => return c
    | .error e => throw (.config e)

/-- Runs a command with settings. -/
def perform (config : Config) (command : Command) : ExceptT Failure m String :=
  match command with
  | .indexes info space => indexes readFile info space
  | .explain target json => explain readFile config target json
  | .query target records => query readFile config target records

/-- Runs a command, if there are settings and their log filter is one. -/
def runCommand (config : Option String) (command : Command) : m Outcome := do
  match ← (settings readFile config).run with
  | .error e => return .failed e
  | .ok config =>
    match LogFilter.check config.logFilter with
    | .error .invalid => return .failed (.logFilter config.logFilter)
    | .error .cutInside => return .brokenOff
    | .ok () => return .ofResult (← (perform readFile config command).run)

/-- Runs the program with the given arguments. -/
def run (args : List String) : m Outcome := do
  match Request.ofArguments args with
  | none => return .misused
  | some .help => return .printed usage
  | some .version => return .printed version
  | some (.run config command) => runCommand readFile config command

end

end IndexPlanner.CommandLine
