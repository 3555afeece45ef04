/-
Reading a command line. Words are taken one by one: options, their values, and
operands; behind two dashes every word is an operand. The first word that does not
fit ends the reading, and so does the first that asks for help or the version.
-/
import Retag.Command.Basic

namespace Retag.Command

/-- Why a command line runs no command. -/
inductive Stop where
  | misuse
  | help (topic : Topic)
  | version
  deriving DecidableEq, Repr

/-- A command with the verbosity of its run. -/
structure Invocation where
  command : Command
  verbosity : Nat
  deriving DecidableEq, Repr

/-- What has been read of a command line. -/
structure Reading where
  values : List (Flag × String)
  json : Bool
  verbosity : Nat
  operands : List String
  /-- The option whose value comes next. -/
  pending : Option Flag
  /-- Whether only operands follow. -/
  operandsOnly : Bool

/-- The words of a command line by their looks. -/
inductive Word where
  | separator
  | long (name : String) (value : Option String)
  | short (letters : List Char)
  | operand
  deriving DecidableEq, Repr

def Word.ofText (text : String) : Word :=
  match text.toList with
  | ['-', '-'] => .separator
  | '-' :: '-' :: s =>
    let name := s.takeWhile (· != '=')
    .long (String.ofList name)
      (match s.drop name.length with
        | '=' :: value => some (String.ofList value)
        | _ => none)
  | '-' :: c :: s => .short (c :: s)
  | _ => .operand

namespace Reading

def empty : Reading := ⟨[], false, 0, [], none, false⟩

def value? (r : Reading) (f : Flag) : Option String := r.values.lookup f

/-- With the value of an option, which is given once at most. -/
def give (r : Reading) (f : Flag) (value : String) : Except Stop Reading :=
  if (r.value? f).isSome then .error .misuse
  else if f.argument = .path && value.isEmpty then .error .misuse
  else .ok { r with values := (f, value) :: r.values, pending := none }

/-- With an option that takes no value. -/
def switch (r : Reading) (topic : Topic) (f : Flag) : Except Stop Reading :=
  match f with
  | .verbose => .ok { r with verbosity := r.verbosity + 1 }
  | .json => if r.json then .error .misuse else .ok { r with json := true }
  | .help => .error (.help topic)
  | .version => .error .version
  | _ => .error .misuse

/-- With one more operand. -/
def add (r : Reading) (form : Form) (text : String) : Except Stop Reading :=
  if form.operand.isSome && r.operands.isEmpty then .ok { r with operands := [text] }
  else .error .misuse

/-- With options by their letters. The value of an option follows its letter, with
or without an equals sign, or is the next word. -/
def letters (form : Form) (topic : Topic) (r : Reading) : List Char → Except Stop Reading
  | [] => .ok r
  | c :: s =>
    match form.flags.find? (·.short == some c) with
    | none => .error .misuse
    | some f =>
      if f.argument = .nothing then (r.switch topic f).bind (letters form topic · s)
      else
        match s with
        | [] => .ok { r with pending := some f }
        | '=' :: value => r.give f (String.ofList value)
        | value => r.give f (String.ofList value)

/-- With one more word. -/
def next (form : Form) (topic : Topic) (r : Reading) (text : String) : Except Stop Reading :=
  if r.operandsOnly then r.add form text
  else
    match r.pending, Word.ofText text with
    | some f, .operand => r.give f text
    | some _, _ => .error .misuse
    | none, .separator => .ok { r with operandsOnly := true }
    | none, .operand => r.add form text
    | none, .short s => r.letters form topic s
    | none, .long name value =>
      match form.flags.find? (·.long == name), value with
      | none, _ => .error .misuse
      | some f, some value =>
        if f.argument = .nothing then .error .misuse else r.give f value
      | some f, none =>
        if f.argument = .nothing then r.switch topic f else .ok { r with pending := some f }

end Reading

/-- The output that the environment gives. -/
def outputOf (env : Environment) : Except Stop (Option String) :=
  match env.lookup outputVariable with
  | some "" => .error .misuse
  | path => .ok path

/-- The command that a verb makes of what was read. -/
def Verb.command (v : Verb) (env : Environment) (r : Reading) : Except Stop Command :=
  match v, r.operands with
  | .generate, _ =>
    match r.value? .output with
    | some path => .ok (.generate (some path) (r.value? .template))
    | none => (outputOf env).map fun path => .generate path (r.value? .template)
  | .services, operands => .ok (.services operands.head? r.json)
  | .render, name :: _ => .ok (.render name (r.value? .template))
  | .plan, name :: _ =>
    .ok (.plan name ((r.value? .old).getD noTags) ((r.value? .new).getD noTags) r.json)
  | _, [] => .error .misuse

/-- Reads what follows a verb. A verbosity given there replaces the one given
before the verb. -/
def Verb.read (v : Verb) (env : Environment) (verbosity : Nat) (args : List String) :
    Except Stop Invocation := do
  let r ← args.foldlM (Reading.next v.form (.verb v)) Reading.empty
  if r.pending.isSome then .error .misuse
  else
    let command ← v.command env r
    .ok ⟨command, if r.verbosity = 0 then verbosity else r.verbosity⟩

/-- What the words behind `help` ask about. -/
def topicOf : List String → Option Topic
  | [] => some .program
  | ["help"] => some .help
  | [name] => (Verb.ofName? name).map .verb
  | _ => none

/-- Reads a command line from what was read of it. -/
def readFrom (env : Environment) (r : Reading) : List String → Except Stop Invocation
  | [] => .error .misuse
  | text :: rest =>
    match if r.operandsOnly then none else Verb.ofName? text with
    | some v => v.read env r.verbosity rest
    | none =>
      if !r.operandsOnly && text == "help" then
        .error (match topicOf rest with
          | some topic => .help topic
          | none => .misuse)
      else (r.next programForm .program text).bind (readFrom env · rest)

/-- Reads a command line. -/
def read (env : Environment) (args : List String) : Except Stop Invocation :=
  readFrom env Reading.empty args

end Retag.Command
