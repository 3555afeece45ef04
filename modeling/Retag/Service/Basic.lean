/-
The description of a service's tagging interface: everything that planning calls
and generating code need to know about it. `Service.resolve` takes it from the
registry.
-/
import Retag.Service.Registry
import Retag.Json.Basic

namespace Retag

/-- How the tags to add are put into a request. -/
inductive TagValue where
  /-- As the tags of the service. -/
  | conventional
  | custom (expr : String)
  deriving DecidableEq, Repr

/-- How the tags to remove are put into a request. -/
inductive UntagValue where
  /-- As tags of the service, with key and value. -/
  | fullTags
  /-- As key objects of the service. -/
  | keyObjects
  | custom (expr : String)
  /-- As a list of keys. -/
  | keys
  deriving DecidableEq, Repr

structure Service where
  name : String
  /-- The name of the client's crate in generated code. -/
  crateAlias : String
  tagPackage : String
  clientType : String
  tagOperation : String
  untagOperation : String
  /-- The most tags that one call takes, if there is a limit. -/
  batchSize : Option Nat
  identifierField : String
  identifierIsSequence : Bool
  resourceTypeField : Option String
  tagsField : String
  untagTagsField : String
  tagValue : TagValue
  untagValue : UntagValue
  deriving DecidableEq, Repr

/-- The first of three ways to remove tags that applies, else the list of keys. -/
def UntagValue.ofFlags (fullTags keyObjects : Bool) (custom : Option String) : UntagValue :=
  if fullTags then .fullTags
  else if keyObjects then .keyObjects
  else
    match custom with
    | some expr => .custom expr
    | none => .keys

namespace Service

/-- What the registry says of a service. -/
def resolve (name : String) : Service where
  name := name
  crateAlias := Registry.crateAlias name
  tagPackage := Registry.tagPackage name
  clientType := Registry.clientType name
  tagOperation := Registry.tagOperation name
  untagOperation := Registry.untagOperation name
  batchSize := if Registry.callLimit name = 0 then none else some (Registry.callLimit name)
  identifierField := Registry.identifierField name
  identifierIsSequence := Registry.identifierIsSequence name
  resourceTypeField := Registry.resourceTypeField name
  tagsField := Registry.tagsField name
  untagTagsField := Registry.untagTagsField name
  tagValue :=
    match Registry.customTagValue name with
    | some expr => .custom expr
    | none => .conventional
  untagValue :=
    .ofFlags (Registry.untagTakesTags name) (Registry.untagTakesKeyObjects name) (Registry.customUntagValue name)

/-- Whether one request both adds and removes tags. -/
def usesSingleEndpoint (s : Service) : Bool := s.tagOperation == s.untagOperation

end Service

/-- A variant of a choice, with its expression if it has one. -/
def Json.variant (kind : String) (expr : Option String) : Json :=
  .object (("kind", .string kind) ::
    match expr with
    | some e => [("expr", .string e)]
    | none => [])

def TagValue.toJson : TagValue → Json
  | .conventional => .variant "default" none
  | .custom expr => .variant "custom_expression" expr

def UntagValue.toJson : UntagValue → Json
  | .fullTags => .variant "full_tag_objects" none
  | .keyObjects => .variant "tag_key_objects" none
  | .custom expr => .variant "custom_expression" expr
  | .keys => .variant "key_sequence" none

/-- The text of a member that may be missing. -/
def Json.ofOption (text : Option String) : Json :=
  match text with
  | some t => .string t
  | none => .null

/-- The members of a description, in the order in which they are shown. -/
def Service.members (s : Service) : List (String × Json) :=
  [("name", .string s.name),
    ("alias", .string s.crateAlias),
    ("tag_package", .string s.tagPackage),
    ("client_type", .string s.clientType),
    ("tag_function", .string s.tagOperation),
    ("untag_function", .string s.untagOperation),
    ("batch_size", match s.batchSize with
      | some n => .number (.natural n)
      | none => .null),
    ("identifier_field", .string s.identifierField),
    ("identifier_is_sequence", .bool s.identifierIsSequence),
    ("resource_type_field", .ofOption s.resourceTypeField),
    ("tags_field", .string s.tagsField),
    ("untag_tags_field", .string s.untagTagsField),
    ("tag_value", s.tagValue.toJson),
    ("untag_value", s.untagValue.toJson)]

def Service.toJson (s : Service) : Json := .object s.members

end Retag
