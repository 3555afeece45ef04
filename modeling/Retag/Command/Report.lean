/-
What the commands show: lines for people, or JSON.
-/
import Retag.Console.Line
import Retag.SourceUnit.Generate
import Retag.Json.Printer
import Retag.Plan

namespace Retag.Command

open Console (Line)

/-- A JSON value over lines. -/
def jsonLines (v : Json) : List Line := [Line.plain v.pretty]

/-! ## Services -/

def tagValueText : TagValue → String
  | .conventional => "service tags"
  | .custom expr => "custom: " ++ expr

def untagValueText : UntagValue → String
  | .fullTags => "service tags"
  | .keyObjects => "service tag keys"
  | .custom expr => "custom: " ++ expr
  | .keys => "key list"

/-- A list of services by name. -/
def namesLines (names : List String) : List Line :=
  Line.heading ("Services (" ++ toString names.length ++ "):") :: names.map Line.bullet

/-- What is known of a service. What it does not have is left out. -/
def serviceLines (s : Service) : List Line :=
  let line (present : Bool) (l : Line) : List Line := if present then [l] else []
  [Line.heading ("Service: " ++ s.name)]
    ++ line (!Registry.registered.contains s.name)
      (Line.muted "  (not registered; showing defaults)")
    ++ [Line.field "Package" s.tagPackage]
    ++ line (s.crateAlias != s.name) (Line.field "Crate alias" s.crateAlias)
    ++ [Line.field "Client" s.clientType,
      Line.field "Tag function" s.tagOperation,
      Line.field "Untag function" s.untagOperation]
    ++ (s.batchSize.map fun n => Line.field "Batch size" (toString n)).toList
    ++ [Line.field "Identifier field"
      (if s.identifierIsSequence then s.identifierField ++ " (sequence)" else s.identifierField)]
    ++ (s.resourceTypeField.map (Line.field "Resource type field")).toList
    ++ [Line.field "Tags field" s.tagsField,
      Line.field "Untag tags field" s.untagTagsField,
      Line.field "Tag value" (tagValueText s.tagValue),
      Line.field "Untag value" (untagValueText s.untagValue)]

/-! ## Plans -/

/-- The tags of a set, each with its key and its value. -/
def tagsText (s : TagSet) : String :=
  String.intercalate ", " (s.pairs.map fun p => p.1 ++ "=" ++ p.2)

def keysText (keys : List String) : String := String.intercalate ", " keys

/-- A call: its operation, and what it sets and removes. -/
def callLines (c : PlannedCall) : List Line :=
  Line.bullet c.operation ::
    match c with
    | .combined _ tags keys =>
      [Line.field "set" (tagsText tags), Line.field "remove" (keysText keys)]
    | .untag _ tags => [Line.field "remove" (keysText tags.keys)]
    | .tag _ tags => [Line.field "set" (tagsText tags)]

/-- The calls of a plan for a service. -/
def planLines (name : String) (calls : List PlannedCall) : List Line :=
  if calls.isEmpty then [Line.muted ("No changes for " ++ name ++ ".")]
  else
    Line.heading ("Planned calls for " ++ name ++ " (" ++ toString calls.length ++ "):")
      :: calls.flatMap callLines

/-! ## Generation -/

/-- What was generated, and from which template if it is not the built-in one. -/
def reportLines (r : SourceUnit.Report) (template : Option String) : List Line :=
  [Line.success ("Generated update-tags functions for " ++ toString r.services ++ " services"),
    Line.field "Output" r.output]
    ++ (template.map (Line.field "Template")).toList
    ++ [Line.field "Bytes" (toString r.bytes)]

/-- A source unit without the blanks at its end. -/
def unitLines (source : String) : List Line :=
  [Line.plain (String.ofList (Text.trimEnd source.toList))]

end Retag.Command
