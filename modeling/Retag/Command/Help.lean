/-
Help pages: what a command is for, how it is called, and its operands and options,
in columns.
-/
import Retag.Command.Basic
import Retag.Console.Line

namespace Retag.Command

open Console (Line Span)

/-- A row of a help page: what is typed, and what it does. -/
structure Row where
  typed : Line
  about : String

/-- The width of a line of text. -/
def width (l : Line) : Nat :=
  l.foldl (fun n span => match span with
    | .plain text | .styled _ text => n + text.length) 0

/-- A line filled up with spaces to a width. -/
def fillUp (w : Nat) (l : Line) : Line :=
  l ++ [.plain (String.ofList (List.replicate (w - width l) ' '))]

/-- Rows in columns below a title. -/
def titled (title : String) (rows : List Row) : List Line :=
  let w := (rows.map (width ·.typed)).foldl max 0
  if rows.isEmpty then []
  else
    [] :: Line.heading (title ++ ":")
      :: rows.map fun r => .plain "  " :: fillUp w r.typed ++ [.plain ("  " ++ r.about)]

namespace Flag

def about : Flag → String
  | output => "Output file path (overrides config)"
  | template => "Replacement template file (overrides config)"
  | old => "Current tags as JSON"
  | new => "Desired tags as JSON"
  | json => "Print as JSON"
  | verbose => "Increase log verbosity (-v info, -vv debug)"
  | help => "Print help"
  | version => "Print version"

/-- What is told of the value that an option has unless it is given. -/
def fallback (env : Environment) : Flag → String
  | output =>
    " [env: " ++ outputVariable ++ "=" ++ (env.lookup outputVariable).getD "" ++ "]"
  | old | new => " [default: " ++ noTags ++ "]"
  | _ => ""

/-- What follows the name of an option. -/
def suffix (f : Flag) : Line :=
  if f = verbose then Line.ofStyle .accent "..."
  else if f.argument = .nothing then []
  else [.styled .accent " ", .styled .accent ("<" ++ f.long.toUpper ++ ">")]

def row (env : Environment) (f : Flag) : Row :=
  let short : Line := match f.short with
    | some c => [.styled .accent (String.ofList ['-', c]), .plain ", "]
    | none => [.plain "    "]
  ⟨short ++ [.styled .accent ("--" ++ f.long)] ++ f.suffix, f.about ++ f.fallback env⟩

end Flag

namespace Operand

/-- An operand as it stands in a usage line. -/
def placeholder (o : Operand) : String :=
  if o.required then "<" ++ o.name ++ ">" else "[" ++ o.name ++ "]"

def row (o : Operand) : Row := ⟨Line.ofStyle .accent o.placeholder, o.about⟩

end Operand

def programName : String := "tagsync-ctl"

def programVersion : String := "0.1.0"

/-- The usage line of a command with what may follow it. -/
def usage (command : String) (parts : List String) : Line :=
  .styled .heading "Usage:" :: (command :: parts).flatMap fun part =>
    [.plain " ", .styled .accent part]

/-- A page: a sentence, the usage, and the sections. -/
def page (about : String) (usage : Line) (sections : List Line) : List Line :=
  Line.plain about :: [] :: usage :: sections

def Verb.about : Verb → String
  | generate => "Generate the update-tags file for all registered services"
  | services => "List registered services, or show the resolved metadata for one"
  | render => "Print the formatted update-tags function for one service"
  | plan => "Show the API calls an update from OLD to NEW tags would make"

def helpAbout : String := "Print this message or the help of the given subcommand(s)"

/-- The row of a command. -/
def commandRow (name about : String) : Row := ⟨Line.ofStyle .accent name, about⟩

/-- The help page on a topic. -/
def Topic.page (env : Environment) : Topic → List Line
  | program =>
    Command.page "Generate per-service AWS update-tags functions"
      (usage programName ["[OPTIONS]", "<COMMAND>"])
      (titled "Commands"
          ((Verb.all.map fun v => commandRow v.name v.about) ++ [commandRow "help" helpAbout])
        ++ titled "Options" (programForm.flags.map (·.row env)))
  | verb v =>
    Command.page v.about
      (usage (programName ++ " " ++ v.name)
        ("[OPTIONS]" :: (v.form.operand.map (·.placeholder)).toList))
      (titled "Arguments" (v.form.operand.map (·.row)).toList
        ++ titled "Options" (v.form.flags.map (·.row env)))
  | help =>
    Command.page helpAbout (usage (programName ++ " help") ["[COMMAND]..."])
      (titled "Arguments" [commandRow "[COMMAND]..." "Print help for the subcommand(s)"])

end Retag.Command
