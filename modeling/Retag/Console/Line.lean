/-
Lines of output with a style. On a terminal with colors the styles are escape
sequences; elsewhere a line is what is visible of it.
-/
import Retag.Console.Visible

namespace Retag.Console

/-- The styles of the palette. -/
inductive Style where
  | success
  | failure
  | heading
  /-- The name of a field. -/
  | name
  | muted
  /-- What is to be typed, in help. -/
  | accent
  deriving DecidableEq, Repr

/-- The sequence that switches a style on. -/
def Style.start : Style → String
  | success => "\x1b[32m"
  | failure => "\x1b[31m"
  | heading => "\x1b[1m\x1b[32m"
  | name => "\x1b[1m"
  | muted => "\x1b[2m"
  | accent => "\x1b[36m"

/-- The sequence that switches every style off. -/
def styleEnd : String := "\x1b[0m"

/-- A part of a line. -/
inductive Span where
  | plain (text : String)
  | styled (style : Style) (text : String)
  deriving DecidableEq, Repr

/-- The pieces in which a part is written. -/
def Span.pieces : Span → List String
  | plain text => [text]
  | styled style text => [style.start, text, styleEnd]

abbrev Line := List Span

namespace Line

/-- The pieces in which a line is written. -/
def pieces (l : Line) : List String := l.flatMap Span.pieces ++ ["\n"]

/-- A line as it is written, with colors or without. -/
def written (color : Bool) (l : Line) : String :=
  if color then String.join l.pieces else String.ofList (visible .text l.pieces)

/-- A text in one style. -/
def ofStyle (style : Style) (text : String) : Line := [.styled style text]

def plain (text : String) : Line := [.plain text]

def success (text : String) : Line := ofStyle .success ("✓ " ++ text)

def failure (text : String) : Line := ofStyle .failure ("✗ " ++ text)

def heading (text : String) : Line := ofStyle .heading text

def muted (text : String) : Line := ofStyle .muted text

def bullet (text : String) : Line := plain ("  - " ++ text)

/-- The width of the names of fields. -/
def nameWidth : Nat := 20

/-- A text filled up with spaces to a width. -/
def padded (width : Nat) (text : String) : String :=
  text ++ String.ofList (List.replicate (width - text.length) ' ')

/-- A field with its name and its value. -/
def field (name value : String) : Line :=
  [.plain "  ", .styled .name (padded nameWidth (name ++ ":")), .plain (" " ++ value)]

end Line

/-- Lines as they are written, one after the other. -/
def written (color : Bool) (lines : List Line) : String := String.join (lines.map (·.written color))

end Retag.Console
