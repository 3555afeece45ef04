/-
The template of a source unit, used unless another is given: the import of each
service's crate, the import of what the functions share, and for each service the
function that updates the tags of a resource.
-/
import Retag.Template.Render
import Retag.Service.Basic

namespace Retag.SourceUnit

open Template (Path Expr)

/-- A member of the service at hand. -/
def member (name : String) : Expr := .path (.member (.variable "svc") name)

/-- A member of the service in snake case. -/
def method (name : String) : Expr := .filtered (member name) "snake_case"

/-- Whether a choice of the service is of a kind. -/
def kindIs (choice kind : String) : Expr :=
  .equal (.path (.member (.member (.variable "svc") choice) "kind")) (.literal (.string kind))

/-- The expression that a choice of the service carries. -/
def customExpr (choice : String) : Expr :=
  .path (.member (.member (.variable "svc") choice) "expr")

/-- For each service. -/
def eachService (body rest : Template) : Template :=
  .loop "svc" (.path (.variable "services")) body .done rest

/-- Text and an expression in turn, with text at the end. -/
def fill (before : String) (e : Expr) (after : String) (rest : Template) : Template :=
  .text before (.output e (.text after rest))

/-- A text that stands only where a condition holds. -/
def textIf (condition : Expr) (s : String) (rest : Template) : Template :=
  .choice condition (.text s .done) .done rest

/-! ## Parts of a request -/

/-- The calls that set the identifier and the resource type, each on a line of
its own. -/
def setResource (margin : String) (rest : Template) : Template :=
  .choice (member "identifier_is_sequence")
    (fill (margin ++ ".set_") (method "identifier_field") "(Some(vec![identifier.to_owned()]))" .done)
    (fill (margin ++ ".set_") (method "identifier_field") "(Some(identifier.to_owned()))" .done) <|
  .choice (member "resource_type_field")
    (fill (margin ++ ".set_") (method "resource_type_field") "(Some(resource_type.into()))" .done)
    .done rest

/-- The value that carries the tags to set. -/
def tagValue (rest : Template) : Template :=
  .choice (kindIs "tag_value" "custom_expression")
    (.output (customExpr "tag_value") .done)
    (fill "updated_tags.ignore_aws()." (member "name") "_tags()" .done) rest

/-- The value that carries the tags to remove. -/
def untagValue (rest : Template) : Template :=
  .choice (kindIs "untag_value" "full_tag_objects")
    (fill "removed_tags.ignore_aws()." (member "name") "_tags()" .done)
    (.choice (kindIs "untag_value" "tag_key_objects")
      (fill "removed_tags.ignore_aws()." (member "name") "_tag_keys()" .done)
      (.choice (kindIs "untag_value" "custom_expression")
        (.output (customExpr "untag_value") .done)
        (.text "removed_tags.ignore_aws().keys()" .done) .done) .done) rest

/-- The end of a request: it is sent, and a failure is told with the identifier. -/
def send (margin failure : String) (rest : Template) : Template :=
  .text (margin ++ ".send()" ++ margin ++ ".await" ++ margin
    ++ ".map_err(|err| UpdateTagsError::" ++ failure ++ "(identifier, err))?;") rest

/-- The request of one direction, in a loop over batches if the service limits
their size. -/
def sendBatches (tags operation tagsField : String) (value : Template → Template)
    (failure : String) (rest : Template) : Template :=
  let margin := "\n            "
  .text ("\n    if !" ++ tags ++ ".is_empty() \x7b") <|
  .choice (member "batch_size")
    (fill ("\n        for " ++ tags ++ " in " ++ tags ++ ".chunks(") (member "batch_size")
      ")? \x7b" .done)
    .done <|
  fill "\n        conn." (method operation) "()" <|
  setResource margin <|
  fill (margin ++ ".set_") (method tagsField) "(Some(" <|
  value <|
  .text "))" <|
  send margin failure <|
  textIf (member "batch_size") "\n        \x7d" <|
  .text "\n    \x7d" rest

/-! ## The two kinds of bodies -/

/-- The body for a service with one operation for both directions. -/
def combinedBody : Template :=
  .text ("\n    let removed_tags = old_tags.removed(&new_tags);"
    ++ "\n    let updated_tags = old_tags.updated(&new_tags);"
    ++ "\n\n    if removed_tags.is_empty() && updated_tags.is_empty() \x7b"
    ++ "\n        return Ok(());"
    ++ "\n    \x7d"
    ++ "\n\n    let mut request = conn") <|
  fill "\n        ." (method "tag_function") "()" <|
  setResource "\n        " <|
  fill (";\n\n    if !updated_tags.is_empty() \x7b\n        request = request.set_")
    (method "tags_field") "(Some(" <|
  tagValue <|
  fill "));\n    \x7d\n\n    if !removed_tags.is_empty() \x7b\n        request = request.set_"
    (method "untag_tags_field") "(Some(" <|
  untagValue <|
  .text "));\n    \x7d\n\n    request" <|
  send "\n        " "tagging" .done

/-- The body for a service with an operation for each direction. -/
def separateBody : Template :=
  .text "\n\n    let removed_tags = old_tags.removed(&new_tags);" <|
  sendBatches "removed_tags" "untag_function" "untag_tags_field" untagValue "untagging" <|
  .text "\n\n    let updated_tags = old_tags.updated(&new_tags);" <|
  sendBatches "updated_tags" "tag_function" "tags_field" tagValue "tagging" .done

/-- The function of a service. -/
def function : Template :=
  fill "\n/// Updates " (member "name")
    (" service tags.\n///\n"
      ++ "/// The identifier is typically the Amazon Resource Name (ARN), although\n"
      ++ "/// it may also be a different identifier depending on the service.\n") <|
  fill "pub async fn " (member "name") "_update_tags(" <|
  fill "\n    conn: &" (member "client_type") ",\n    identifier: &str," <|
  textIf (member "resource_type_field") "\n    resource_type: &str," <|
  .text ("\n    old_tags: impl Into<KeyValueTags>,"
    ++ "\n    new_tags: impl Into<KeyValueTags>,"
    ++ "\n) -> Result<(), UpdateTagsError> \x7b"
    ++ "\n    let old_tags: KeyValueTags = old_tags.into();"
    ++ "\n    let new_tags: KeyValueTags = new_tags.into();") <|
  .choice (.equal (member "tag_function") (member "untag_function")) combinedBody separateBody <|
  .text "\n\n    Ok(())\n\x7d\n" .done

/-- The template of a source unit. -/
def updateTags : Template :=
  eachService (fill "\nuse " (member "tag_package") " as "
    (.output (member "alias") (.text ";" .done))) <|
  .text "\n\nuse tagsync_tags::\x7bKeyValueTags, UpdateTagsError\x7d;\n" <|
  eachService function <|
  .text "\n" .done

/-- What a template sees of services. -/
def scope (services : List Service) : Template.Scope :=
  ⟨[], [("services", .array (services.map Service.toJson))]⟩

end Retag.SourceUnit
