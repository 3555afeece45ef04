/-
A run of the program: what it prints, what it logs, how it ends, and what it leaves
in the store. A run that fails prints nothing on standard output.
-/
import Retag.Command.Arguments
import Retag.Command.Help
import Retag.Command.Report
import Retag.Settings.Basic
import Retag.Log.Filter

namespace Retag.Command

open Console (Line)
open Files (Store Place)

/-- Why a command fails. -/
inductive Fault where
  | generation (fault : SourceUnit.Fault)
  | chunkSize (fault : InvalidChunkSize)
  /-- The argument of an option is no JSON text. -/
  | json (option : Flag) (fault : Json.Fault)

namespace Fault

def message : Fault → String
  | generation f => f.message
  | chunkSize f => f.message
  | json option f => "invalid JSON for --" ++ option.long ++ ": " ++ f.message

/-- A generation fails with the code of its category, all else with one. -/
def exitCode : Fault → Nat
  | generation f => f.exitCode
  | chunkSize _ | json .. => 1

end Fault

/-- What a run finds. -/
structure World where
  store : Store
  cwd : Place
  environment : Environment
  /-- Whether what is printed has colors. -/
  color : Bool

def World.home (w : World) : Option String := w.environment.lookup "HOME"

/-- What a command did. -/
structure Deed where
  events : List Log.Event
  result : Except Fault (List Line)
  store : Store

/-! ## The commands -/

/-- The template at a path, or the built-in one, and what is logged of it. -/
def World.template (w : World) : Option String → List Log.Event × Except SourceUnit.Fault Template
  | none => ([], .ok SourceUnit.updateTags)
  | some path =>
    (match w.store.readText w.cwd path with
      | .ok _ => [.templateLoaded path]
      | .error _ => [],
      SourceUnit.loadTemplate w.store w.cwd path)

/-- Generates the source unit of all registered services. -/
def World.generate (w : World) (output : String) (templatePath : Option String)
    (i : Files.Interruption) : Deed :=
  match w.template templatePath with
  | (events, .error f) => ⟨events, .error (.generation f), w.store⟩
  | (events, .ok t) =>
    let names := Registry.registered
    let started := Log.Event.generationStarted (SourceUnit.services names).length output
    match SourceUnit.generate t names w.store w.cwd output i with
    | (store, .error f) => ⟨events ++ [started], .error (.generation f), store⟩
    | (store, .ok r) =>
      ⟨events ++ [started, .fileWritten r.output r.bytes], .ok (reportLines r templatePath), store⟩

/-- Lists the registered services, or shows one. -/
def World.showServices (w : World) (name : Option String) (json : Bool) : Deed :=
  let lines :=
    match name with
    | none =>
      let names := Registry.registeredSorted
      if json then jsonLines (.array (names.map .string)) else namesLines names
    | some name =>
      let s := Service.resolve name
      if json then jsonLines s.toJson else serviceLines s
  ⟨[], .ok lines, w.store⟩

/-- Shows the source unit of a service. -/
def World.showUnit (w : World) (name : String) (templatePath : Option String) : Deed :=
  let (events, t) := w.template templatePath
  let unit := do
    let source ← SourceUnit.render (← t) [Service.resolve name]
    SourceUnit.format source
  ⟨events, (unit.map unitLines).mapError .generation, w.store⟩

/-- The tags in the argument of an option, and what is logged of them. -/
def readTags (option : Flag) (text : String) : List Log.Event × Except Fault TagSet :=
  match Json.parse text with
  | .error f => ([], .error (.json option f))
  | .ok v =>
    (if TagSet.listsTags v then [] else [.valueIgnored v.kind], .ok (TagSet.ofJson v))

/-- What is logged of a plan; a plan of one request is not. -/
def planEvents (s : Service) (old new : TagSet) (calls : List PlannedCall) : List Log.Event :=
  if s.usesSingleEndpoint then []
  else
    [.updatePlanned s.name (old.removed new).size (old.updated new).size calls.length]

/-- Shows the calls that take a service's tags from old to new ones. -/
def World.showPlan (w : World) (name old new : String) (json : Bool) : Deed :=
  match readTags .old old with
  | (events, .error f) => ⟨events, .error f, w.store⟩
  | (oldEvents, .ok old) =>
    match readTags .new new with
    | (events, .error f) => ⟨oldEvents ++ events, .error f, w.store⟩
    | (newEvents, .ok new) =>
      let s := Service.resolve name
      match Retag.plan s old new with
      | .error f => ⟨oldEvents ++ newEvents, .error (.chunkSize f), w.store⟩
      | .ok calls =>
        ⟨oldEvents ++ newEvents ++ planEvents s old new calls,
          .ok (if json then jsonLines (.array (calls.map (·.toJson))) else planLines name calls),
          w.store⟩

/-- Does what a command asks for. -/
def World.perform (w : World) (settings : Settings) (i : Files.Interruption) : Command → Deed
  | .generate output templatePath =>
    w.generate (settings.outputPath w.home output) (settings.templatePath w.home templatePath) i
  | .services name json => w.showServices name json
  | .render name templatePath => w.showUnit name (settings.templatePath w.home templatePath)
  | .plan name old new json => w.showPlan name old new json

/-! ## Runs -/

/-- What a run tells on standard error about its failure. -/
inductive Complaint where
  | misuse
  | fault (line : Line)
  deriving DecidableEq

/-- What is told about a command line that runs no command. -/
def misuseText : String :=
  "error: the command line is not understood\n\n"
    ++ "Usage: " ++ programName ++ " [OPTIONS] <COMMAND>\n\nFor more information, try '--help'.\n"

def Complaint.written (color : Bool) : Complaint → String
  | misuse => misuseText
  | fault line => line.written color

/-- How a run ends. -/
structure Outcome where
  exitCode : Nat
  output : String
  complaint : Option Complaint
  events : List Log.Event
  store : Store

/-- The filter that the environment asks for, if it can be read, else the one of
the verbosity. -/
def filterOf (env : Environment) (verbosity : Nat) : Log.Filter :=
  ((env.lookup "RUST_LOG").bind Log.Filter.read).getD (Log.Filter.ofVerbosity verbosity)

/-- Runs a command. -/
def Invocation.run (w : World) (interruption : Files.Interruption) (i : Invocation) : Outcome :=
  let filter := filterOf w.environment i.verbosity
  let (settings, read) := Settings.current w.store w.cwd w.home
  let deed := w.perform settings interruption i.command
  match deed.result with
  | .ok lines =>
    ⟨0, Console.written w.color lines, none, (read ++ deed.events).filter filter.allows, deed.store⟩
  | .error f =>
    ⟨f.exitCode, "", some (.fault (Line.failure f.message)),
      (read ++ deed.events ++ [Log.Event.commandFailed]).filter filter.allows, deed.store⟩

/-- Prints lines and does nothing else. -/
def World.tell (w : World) (lines : List Line) : Outcome :=
  ⟨0, Console.written w.color lines, none, [], w.store⟩

/-- Runs the program on a command line. -/
def run (w : World) (args : List String) (interruption : Files.Interruption := Files.undisturbed) :
    Outcome :=
  match read w.environment args with
  | .ok i => i.run w interruption
  | .error .misuse => ⟨1, "", some .misuse, [], w.store⟩
  | .error (.help topic) => w.tell (topic.page w.environment)
  | .error .version => w.tell [Line.plain (programName ++ " " ++ programVersion)]

end Retag.Command
