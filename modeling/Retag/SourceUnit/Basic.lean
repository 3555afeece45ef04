/-
Source units: the text generated for services. A unit is rendered from a template,
then read as source code and laid out anew, behind a header; what is no source code
is no unit.
-/
import Retag.SourceUnit.UpdateTags
import Retag.SourceUnit.Fault
import Retag.Code.Read.Items
import Retag.Code.Print.Items

namespace Retag.SourceUnit

/-- The first line of every unit. -/
def header : String := "// Code generated by tagsync-ctl generate; DO NOT EDIT."

/-- Lays source code out, behind the header. -/
def format (source : String) : Except Fault String :=
  match Code.File.read source with
  | some file => .ok (header ++ "\n\n" ++ file.text)
  | none => .error .notFormatted

/-- Reads a template. -/
def readTemplate (source : String) : Except Fault Template :=
  match Template.read source with
  | some t => .ok t
  | none => .error .malformedTemplate

/-- Renders a template for services, in the given order. -/
def render (t : Template) (services : List Service) : Except Fault String :=
  (t.render (scope services)).mapError fun _ => .notRendered

/-- Names in ascending order, each once. -/
def distinctNames (names : List String) : List String := (Keyed.ofList (names.map (·, ()))).map (·.1)

/-- The services of the given names, in ascending order of their names, each once. -/
def services (names : List String) : List Service := (distinctNames names).map Service.resolve

/-- The unit of the services of the given names. -/
def source (t : Template) (names : List String) : Except Fault String :=
  (render t (services names)).bind format

end Retag.SourceUnit
