import IndexPlanner.Json.Reader
import IndexPlanner.Json.Record
import IndexPlanner.Text.Blank

/-! Settings. All of them may be left out of a file; what a file holds beside them is an error. -/
namespace IndexPlanner

open Json (Document)

/-- Whether scans are allowed, the command that lists indexes, how many seconds lie between two
refreshes, which messages are logged and in which form. -/
structure Config where
  scansEnabled : Bool := false
  infoCommand : String := "sindex-list:"
  refreshSeconds : Option Nat := none
  logFilter : String := "info"
  logJson : Bool := false
  deriving DecidableEq, Repr

/-- A setting with an impossible value. -/
inductive Config.Fault where
  | blankCommand
  | zeroInterval
  deriving DecidableEq, Repr

/-- Why a file gives no settings. -/
inductive ConfigError where
  | unreadable (path : String)
  | malformed (path : String)
  | invalid (fault : Config.Fault)
  deriving DecidableEq, Repr

namespace ConfigError

/-- The text of the error. -/
def message : ConfigError → String
  | unreadable path => s!"failed to read config file {path}"
  | malformed path => s!"invalid config file {path}"
  | invalid .blankCommand => "invalid config: info_command must not be empty"
  | invalid .zeroInterval =>
    "invalid config: index_refresh_interval_secs must be greater than zero"

/-- The name by which callers tell errors apart. -/
def code : ConfigError → String
  | unreadable _ => "AERO_CONFIG_READ"
  | malformed _ => "AERO_CONFIG_PARSE"
  | invalid _ => "AERO_CONFIG_INVALID"

end ConfigError

namespace Config

/-- The names of the settings in their order. -/
def fieldNames : List String :=
  ["scans_enabled", "info_command", "index_refresh_interval_secs", "log_filter", "log_json"]

/-- The settings from the contents of their fields. -/
def ofFields? : List (Option Document) → Option Config
  | [scans, command, interval, filter, json] => do
    let d : Config := {}
    return {
      scansEnabled := ← Document.orDefault d.scansEnabled Document.bool? scans
      infoCommand := ← Document.orDefault d.infoCommand Document.string? command
      refreshSeconds := ← Document.orDefault d.refreshSeconds
        (Document.optional? fun v => v.number?.bind Json.Number.word64?) interval
      logFilter := ← Document.orDefault d.logFilter Document.string? filter
      logJson := ← Document.orDefault d.logJson Document.bool? json }
  | _ => none

/-- Whether a tree has members that are no settings. -/
def hasUnknown : Document → Bool
  | .object members => members.any fun m => m.1.all (!fieldNames.contains ·)
  | _ => false

/-- The settings of a tree. -/
def decode? (d : Document) : Option Config :=
  if hasUnknown d then none else (d.fields? fieldNames).bind ofFields?

/-- The settings of a text. -/
def read? (text : String) : Option Config :=
  if (Document.read text).2 then none else decode? (Document.read text).1

/-- The first setting with an impossible value. -/
def fault? (c : Config) : Option Fault :=
  if Text.isBlankText c.infoCommand then some .blankCommand
  else if c.refreshSeconds = some 0 then some .zeroInterval
  else none

/-- The settings of a file, if the file has a text. -/
def load (path : String) (text : Option String) : Except ConfigError Config :=
  match text with
  | none => .error (.unreadable path)
  | some text =>
    match read? text with
    | none => .error (.malformed path)
    | some c =>
      match c.fault? with
      | some f => .error (.invalid f)
      | none => .ok c

end Config

end IndexPlanner
