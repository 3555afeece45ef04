/-
Why a source unit cannot be generated. Every cause belongs to a category, and each
category ends a run with an exit code of its own.
-/
namespace Retag.SourceUnit

inductive Fault where
  /-- The template at a path could not be read. -/
  | templateUnreadable (path cause : String)
  | malformedTemplate
  | notRendered
  | notFormatted
  /-- The file at a path could not be written. -/
  | notWritten (path cause : String)
  deriving DecidableEq, Repr

inductive Category where
  | template
  | render
  | format
  | write
  deriving DecidableEq, Repr

/-- The name a template goes by in messages. -/
def templateName : String := "update_tags.rs.tera"

namespace Category

def name : Category → String
  | template => "template"
  | render => "render"
  | format => "format"
  | write => "write"

def exitCode : Category → Nat
  | template => 2
  | render => 3
  | format => 4
  | write => 5

end Category

namespace Fault

def category : Fault → Category
  | templateUnreadable .. | malformedTemplate => .template
  | notRendered => .render
  | notFormatted => .format
  | notWritten .. => .write

def exitCode (f : Fault) : Nat := f.category.exitCode

def message : Fault → String
  | templateUnreadable path cause => "error reading template (" ++ path ++ "): " ++ cause
  | malformedTemplate => "error parsing template: Failed to parse '" ++ templateName ++ "'"
  | notRendered => "error executing template: Failed to render '" ++ templateName ++ "'"
  | notFormatted => "error formatting generated file"
  | notWritten path cause => "error writing to file (" ++ path ++ "): " ++ cause

end Fault

end Retag.SourceUnit
