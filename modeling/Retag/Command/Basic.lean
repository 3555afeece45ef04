/-
The commands of the program, and the options and operands that each of them takes.
-/
namespace Retag

inductive Command where
  /-- Writes the source unit of all registered services. -/
  | generate (output template : Option String)
  /-- Lists the registered services, or shows what is known of one. -/
  | services (name : Option String) (json : Bool)
  /-- Shows the source unit of a service. -/
  | render (name : String) (template : Option String)
  /-- Shows the calls that take a service's tags from old to new ones. -/
  | plan (name old new : String) (json : Bool)
  deriving DecidableEq, Repr

namespace Command

/-- What a command is called for. -/
inductive Verb where
  | generate
  | services
  | render
  | plan
  deriving DecidableEq, Repr

/-- An option on the command line. -/
inductive Flag where
  | output
  | template
  | old
  | new
  | json
  | verbose
  | help
  | version
  deriving DecidableEq, Repr

/-- What an option takes. -/
inductive Argument where
  | nothing
  | text
  /-- A text that is not empty. -/
  | path
  deriving DecidableEq, Repr

namespace Flag

def long : Flag → String
  | output => "output"
  | template => "template"
  | old => "old"
  | new => "new"
  | json => "json"
  | verbose => "verbose"
  | help => "help"
  | version => "version"

def short : Flag → Option Char
  | output => some 'o'
  | template => some 't'
  | verbose => some 'v'
  | help => some 'h'
  | version => some 'V'
  | old | new | json => none

def argument : Flag → Argument
  | output | template => .path
  | old | new => .text
  | json | verbose | help | version => .nothing

end Flag

/-- An operand, which may be left out if it is not required. -/
structure Operand where
  name : String
  required : Bool
  about : String

/-- What may stand on a command line. -/
structure Form where
  flags : List Flag
  operand : Option Operand

/-- The form of what precedes a verb. -/
def programForm : Form := ⟨[.verbose, .help, .version], none⟩

namespace Verb

def name : Verb → String
  | generate => "generate"
  | services => "services"
  | render => "render"
  | plan => "plan"

def all : List Verb := [generate, services, render, plan]

/-- The verb of a name. -/
def ofName? (text : String) : Option Verb := all.find? (·.name == text)

def form : Verb → Form
  | generate => ⟨[.output, .template, .verbose, .help], none⟩
  | services =>
    ⟨[.json, .verbose, .help],
      some ⟨"NAME", false, "Service identifier (unregistered names show the defaults)"⟩⟩
  | render => ⟨[.template, .verbose, .help], some ⟨"NAME", true, "Service identifier"⟩⟩
  | plan => ⟨[.old, .new, .json, .verbose, .help], some ⟨"NAME", true, "Service identifier"⟩⟩

end Verb

/-- What help can be asked about. -/
inductive Topic where
  | program
  | verb (v : Verb)
  | help
  deriving DecidableEq, Repr

/-- The tag sets of a plan unless they are given: empty objects. -/
def noTags : String := "\x7b\x7d"

/-- The variable that gives the output of `generate` if the option does not. -/
def outputVariable : String := "TAGSYNC_OUTPUT"

/-- The values of environment variables. -/
abbrev Environment := List (String × String)

end Command

end Retag
