/-
What a run logs. Each event has a level, the target under which it is filed, and a
text.
-/
import Retag.Text.Quoted

namespace Retag.Log

inductive Level where
  | error
  | warn
  | info
  | debug
  | trace
  deriving DecidableEq, Repr

namespace Level

/-- The levels in their order, the most severe first. -/
def rank : Level → Nat
  | error => 1
  | warn => 2
  | info => 3
  | debug => 4
  | trace => 5

def name : Level → String
  | error => "ERROR"
  | warn => "WARN"
  | info => "INFO"
  | debug => "DEBUG"
  | trace => "TRACE"

end Level

inductive Event where
  | settingsUsed (path : String)
  | settingsUnreadable (path : String)
  | settingsInvalid (path : String)
  | templateLoaded (path : String)
  | generationStarted (services : Nat) (output : String)
  | fileWritten (output : String) (bytes : Nat)
  /-- A JSON value of a kind that lists no tags. -/
  | valueIgnored (kind : String)
  | updatePlanned (service : String) (removed updated calls : Nat)
  | commandFailed
  deriving DecidableEq, Repr

namespace Event

def level : Event → Level
  | settingsUnreadable _ | settingsInvalid _ => .warn
  | generationStarted .. | fileWritten .. => .info
  | settingsUsed _ | templateLoaded _ | valueIgnored _ | updatePlanned .. | commandFailed => .debug

def target : Event → String
  | settingsUsed _ | settingsUnreadable _ | settingsInvalid _ => "tagsync_ctl::cli_config::loader"
  | templateLoaded _ => "tagsync_codegen::render"
  | generationStarted .. | fileWritten .. => "tagsync_codegen::generate"
  | valueIgnored _ => "tagsync_tags::normalize"
  | updatePlanned .. => "tagsync_codegen::plan"
  | commandFailed => "tagsync_ctl"

def text : Event → String
  | settingsUsed path => "Using config file path=" ++ path
  | settingsUnreadable path => "Cannot read config file path=" ++ path
  | settingsInvalid path => "Ignoring invalid config file path=" ++ path
  | templateLoaded path => "Loaded replacement template path=" ++ path
  | generationStarted services output =>
    "Generating update-tags functions services=" ++ toString services ++ " output=" ++ output
  | fileWritten output bytes =>
    "Wrote generated file output=" ++ output ++ " bytes=" ++ toString bytes
  | valueIgnored kind => "Ignoring non-collection tag value kind=" ++ Text.quoted kind
  | updatePlanned service removed updated calls =>
    "Planned update service=" ++ service ++ " removed=" ++ toString removed
      ++ " updated=" ++ toString updated ++ " calls=" ++ toString calls
  | commandFailed => "Command failed"

end Event

end Retag.Log
