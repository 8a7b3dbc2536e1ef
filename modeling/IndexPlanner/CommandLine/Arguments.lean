import IndexPlanner.Text.Pieces

/-! The arguments of the program. Options come before or after the command that they belong to;
those that take a value take the next argument, or what follows an equality sign. The first fault
from left to right counts, so that a request for help before it is still answered. -/
namespace IndexPlanner.CommandLine

/-- What is queried: the file of the indexes, the scope, and the files of qualifiers and filter. -/
structure Target where
  info : String
  space : String
  set : Option String
  qualifiers : Option String
  filter : Option String
  deriving DecidableEq, Repr

/-- A command with its options. -/
inductive Command where
  | indexes (info : String) (space : Option String)
  | explain (target : Target) (json : Bool)
  | query (target : Target) (records : String)
  deriving DecidableEq, Repr

/-- What the program is asked to do. -/
inductive Request where
  | run (config : Option String) (command : Command)
  | help
  | version
  deriving DecidableEq, Repr

/-- The commands. -/
inductive Verb where
  | indexes
  | explain
  | query
  deriving DecidableEq, Repr

/-- The command with the given name. -/
def Verb.ofName? : String → Option Verb
  | "indexes" => some .indexes
  | "explain" => some .explain
  | "query" => some .query
  | _ => none

/-- The options. -/
inductive Opt where
  | config
  | info
  | namespaceName
  | set
  | qualifiers
  | filter
  | records
  | json
  deriving DecidableEq, Repr

namespace Opt

/-- The option with the given name. -/
def ofName? : String → Option Opt
  | "config" => some config
  | "info" => some info
  | "namespace" => some namespaceName
  | "set" => some set
  | "qualifiers" => some qualifiers
  | "filter" => some filter
  | "records" => some records
  | "json" => some json
  | _ => none

/-- A switch takes no value. -/
def isSwitch : Opt → Bool
  | json => true
  | _ => false

/-- Whether the option takes the value; a path is not empty. -/
def admits (o : Opt) (value : String) : Bool :=
  match o with
  | namespaceName => true
  | set => true
  | _ => value ≠ ""

/-- Whether the option belongs to the command, or without a command before all of them. -/
def isFor : Option Verb → Opt → Bool
  | _, config => true
  | none, _ => false
  | some .indexes, o => o ∈ [info, namespaceName]
  | some .explain, o => o ∈ [info, namespaceName, set, qualifiers, filter, json]
  | some .query, o => o ∈ [info, namespaceName, set, qualifiers, filter, records]

end Opt

/-- Options with their values; a switch has the empty value. -/
abbrev Given := List (Opt × String)

/-- The value of an option. -/
def Given.value? (given : Given) (o : Opt) : Option String :=
  (given.find? (·.1 == o)).map (·.2)

/-- An argument by its form. -/
inductive Argument where
  | help
  | version
  | separator
  | option (name : String) (value : Option String)
  | other
  | plain (text : String)
  deriving DecidableEq, Repr

/-- Tells the forms of arguments apart. A lone hyphen is a plain argument. -/
def Argument.ofText (s : String) : Argument :=
  match s.toList with
  | ['-', '-'] => separator
  | '-' :: '-' :: rest =>
    match Text.cutAt '=' rest with
    | some (name, value) => option (.ofList name) (some (.ofList value))
    | none =>
      match String.ofList rest with
      | "help" => help
      | "version" => version
      | name => option name none
  | '-' :: 'h' :: _ => help
  | '-' :: 'V' :: _ => version
  | ['-'] => plain s
  | '-' :: _ => other
  | _ => plain s

/-- How far the arguments have been read: the options before the command, the command and the
options behind it. -/
structure Progress where
  outer : Given := []
  verb : Option Verb := none
  inner : Given := []

namespace Progress

/-- Adds an option that belongs here, takes the value, and has not been given yet. -/
def add (p : Progress) (o : Opt) (value : String) : Option Progress :=
  let given := if p.verb.isNone then p.outer else p.inner
  if !(o.isFor p.verb && (o.isSwitch || o.admits value) && given.all (·.1 != o)) then none
  else if p.verb.isNone then some { p with outer := (o, value) :: given }
  else some { p with inner := (o, value) :: given }

/-- What is queried, if all that is needed is given. -/
def target? (p : Progress) : Option Target := do
  let info ← p.inner.value? .info
  let space ← p.inner.value? .namespaceName
  return { info, space, set := p.inner.value? .set, qualifiers := p.inner.value? .qualifiers,
           filter := p.inner.value? .filter }

/-- The command, if all that it needs is given. -/
def command? (p : Progress) : Verb → Option Command
  | .indexes => (p.inner.value? .info).map (.indexes · (p.inner.value? .namespaceName))
  | .explain => p.target?.map (.explain · (p.inner.value? .json).isSome)
  | .query => do
    let target ← p.target?
    let records ← p.inner.value? .records
    return .query target records

/-- The request when all arguments have been read. The settings named behind the command win. -/
def request? (p : Progress) : Option Request :=
  (p.verb.bind p.command?).map
    (.run ((p.inner.value? .config).or (p.outer.value? .config)))

end Progress

/-- The arguments behind the word `help` name at most one command. -/
def isHelpTopic : List String → Bool
  | [] => true
  | [name] => name = "help" || (Verb.ofName? name).isSome
  | _ => false

/-- Reads the arguments; nothing is returned when the program cannot be called in this way. -/
def read (p : Progress) : List String → Option Request
  | [] => p.request?
  | arg :: rest =>
    match Argument.ofText arg with
    | .help => some .help
    | .version => if p.verb.isNone then some .version else none
    | .separator => if rest.isEmpty then p.request? else none
    | .other => none
    | .plain text =>
      match p.verb, Verb.ofName? text with
      | none, some verb => read { p with verb := some verb } rest
      | none, none => if text = "help" ∧ isHelpTopic rest then some .help else none
      | some _, _ => none
    | .option name value =>
      match Opt.ofName? name, value, rest with
      | none, _, _ => none
      | some o, some value, rest =>
        if o.isSwitch then none else (p.add o value).bind (read · rest)
      | some o, none, rest =>
        if o.isSwitch then (p.add o "").bind (read · rest)
        else match rest with
          | [] => none
          | value :: rest =>
            match Argument.ofText value with
            | .plain _ => (p.add o value).bind (read · rest)
            | _ => none

/-- The request that the arguments make. -/
def Request.ofArguments (args : List String) : Option Request := read {} args

end IndexPlanner.CommandLine
