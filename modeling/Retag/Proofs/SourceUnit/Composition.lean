/-
What a unit is composed of. If no name ends an item or begins a comment that may go on
over lines, and each name alone has a unit, then all of them together have one: a line
of import for each name, the import of what the functions share, and a function for
each name, in ascending order (`source_composed`). Each line and each function is the
one in the unit of its name alone, since a part reads as one item wherever it stands
and is laid out by itself.

Nothing checks the characters of a name. One with a semicolon, quotes and marks of
comments can put further items into its unit (`source_spliced`).
-/
import Retag.Proofs.SourceUnit.Unbroken

namespace Retag.SourceUnit

open Code

variable {name : String} {names : List String}

/-! ## The unit of a list -/

/-- **A unit is composed of the units of its names.** Let no name have a semicolon or
the beginning of a block comment, and each name alone have a unit. Then there is
a unit of all: behind the header and an empty line a line of import for every distinct
name, in ascending order, the import of what the functions share, and a function for
every distinct name, in the same order. The line and the function of a name are those
of the unit of this name alone. -/
theorem source_composed (hunbroken : ∀ name ∈ names, Unbroken name.toList)
    (halone : ∀ name ∈ names, ∃ unit, source updateTags [name] = .ok unit) :
    (distinctNames names).Pairwise (· < ·) ∧ (∀ name, name ∈ distinctNames names ↔ name ∈ names) ∧
      source updateTags names = .ok (unitText (distinctNames names)) ∧
      ∀ name ∈ names, source updateTags [name] = .ok (unitText [name]) := by
  have hadmissible : ∀ name ∈ names, Admissible name := by
    intro name hname
    exact (source_ok_iff (by simpa using hunbroken name hname)).1 (halone name hname) name List.mem_cons_self
  refine ⟨distinctNames_ascending names, fun name => mem_distinctNames, source_admissible hadmissible, fun name hname => ?_⟩
  exact source_admissible fun other hother => by
    rw [List.mem_singleton.1 hother]
    exact hadmissible name hname

/-- A queue's functions do not depend on those of another service beside it. -/
theorem source_composed_sqs :
    ((∀ name ∈ ["sqs", "ec2", "sqs"], Unbroken name.toList) ∧
      ∀ name ∈ ["sqs", "ec2", "sqs"], ∃ unit, source updateTags [name] = .ok unit) ∧
      source updateTags ["sqs", "ec2", "sqs"] = .ok (unitText ["ec2", "sqs"]) ∧
      source updateTags ["sqs"] = .ok (unitText ["sqs"]) := by
  have hunbroken : ∀ name ∈ ["sqs", "ec2", "sqs"], Unbroken name.toList := by
    simp only [List.forall_mem_cons]
    exact ⟨⟨by decide, by decide⟩, ⟨by decide, by decide⟩, ⟨by decide, by decide⟩, by simp⟩
  have halone : ∀ name ∈ ["sqs", "ec2", "sqs"], ∃ unit, source updateTags [name] = .ok unit := by
    have hadmissible : ∀ name ∈ ["sqs", "ec2", "sqs"], Admissible name := by decide
    intro name hname
    exact ⟨_, source_admissible fun other hother => by
      rw [List.mem_singleton.1 hother]
      exact hadmissible name hname⟩
  obtain ⟨-, -, hall, hsingle⟩ := source_composed hunbroken halone
  have hdistinct : distinctNames ["sqs", "ec2", "sqs"] = ["ec2", "sqs"] := by decide +kernel
  rw [hdistinct] at hall
  exact ⟨⟨hunbroken, halone⟩, hall, hsingle "sqs" (by simp)⟩

/-! ## Services that no table lists -/

/-- What the registry says of a service that no table lists. -/
def unlisted (name : String) : Service where
  name := name
  crateAlias := name
  tagPackage := "aws_sdk_" ++ name
  clientType := name ++ "::Client"
  tagOperation := "TagResource"
  untagOperation := "UntagResource"
  batchSize := none
  identifierField := "ResourceArn"
  identifierIsSequence := false
  resourceTypeField := none
  tagsField := "Tags"
  untagTagsField := "TagKeys"
  tagValue := .conventional
  untagValue := .keys

/-- The text that is rendered for such a service, in the pieces that the template and
the description give. -/
def unlistedPieces (name : String) : List String :=
  ["\nuse ", "aws_sdk_", name, " as ", name, ";", "\n\nuse tagsync_tags::\x7bKeyValueTags, UpdateTagsError\x7d;\n",
    "\n/// Updates ", name, " service tags.\n///\n",
    "/// The identifier is typically the Amazon Resource Name (ARN), although\n",
    "/// it may also be a different identifier depending on the service.\n",
    "pub async fn ", name, "_update_tags(", "\n    conn: &", name, "::Client", ",\n    identifier: &str,",
    "\n    old_tags: impl Into<KeyValueTags>,", "\n    new_tags: impl Into<KeyValueTags>,",
    "\n) -> Result<(), UpdateTagsError> ", "\x7b", "\n    let old_tags: KeyValueTags = old_tags.into();",
    "\n    let new_tags: KeyValueTags = new_tags.into();", "\n\n    let removed_tags = old_tags.removed(&new_tags);",
    "\n    if !", "removed_tags", ".is_empty() \x7b", "\n        conn.", "untag_resource", "()", "\n            ", ".",
    "set_", "resource_arn", "(Some(identifier.to_owned()))", "\n            .", "set_", "tag_keys", "(Some(",
    "removed_tags.ignore_aws().keys()", "))", "\n            ", ".send()", "\n            ", ".await", "\n            ",
    ".map_err(|err| UpdateTagsError::", "untagging", "(identifier, err))?;", "\n    \x7d",
    "\n\n    let updated_tags = old_tags.updated(&new_tags);", "\n    if !", "updated_tags", ".is_empty() \x7b",
    "\n        conn.", "tag_resource", "()", "\n            ", ".", "set_", "resource_arn", "(Some(identifier.to_owned()))",
    "\n            .", "set_", "tags", "(Some(", "updated_tags.ignore_aws().", name, "_tags", "()", "))", "\n            ",
    ".send()", "\n            ", ".await", "\n            ", ".map_err(|err| UpdateTagsError::", "tagging",
    "(identifier, err))?;", "\n    \x7d", "\n\n    Ok(())\n\x7d", "\n", "\n"]

/-- A request of such a service. -/
theorem directionText_unlisted (tags operation tagsField value failure : String) :
    directionText (unlisted name) tags operation tagsField value failure =
      "\n    if !" ++ tags ++ ".is_empty() \x7b" ++ ("\n        conn." ++ Text.snakeCase operation ++ "()" ++
        ("\n            " ++ "." ++ ("set_" ++ "resource_arn") ++ "(Some(identifier.to_owned()))") ++ "\n            ." ++
        ("set_" ++ Text.snakeCase tagsField) ++ ("(Some(" ++ value) ++ "))" ++ sendText "\n            " failure) ++
        "\n    \x7d" := by
  have hfield : setter (unlisted name).identifierField = "set_" ++ "resource_arn" := by
    have hsnake : Text.snakeCase "ResourceArn" = "resource_arn" := by decide +kernel
    show "set_" ++ Text.snakeCase "ResourceArn" = _
    rw [hsnake]
  have hresource : resourceText "\n            " (unlisted name) =
      "\n            " ++ "." ++ ("set_" ++ "resource_arn") ++ "(Some(identifier.to_owned()))" := by
    have hidentifier : identifierText (unlisted name) = "(Some(identifier.to_owned()))" := rfl
    have htype : resourceType? (unlisted name) = none := rfl
    rw [resourceText, hfield, hidentifier, htype]
    exact String.append_empty
  have hlimit : limit? (unlisted name) = none := rfl
  unfold directionText requestText setter
  rw [hlimit, hresource]

theorem render_unlisted (h : Service.resolve name = unlisted name) :
    render updateTags (services [name]) = .ok (String.join (unlistedPieces name)) := by
  have hservices : services [name] = [unlisted name] := congrArg ([·]) h
  have hseparate : (unlisted name).usesSingleEndpoint = false :=
    (by decide +kernel : ("TagResource" == "UntagResource") = false)
  have htype : (if (resourceType? (unlisted name)).isSome then "\n    resource_type: &str," else "") = "" := rfl
  have htag : Text.snakeCase (unlisted name).tagOperation = "tag_resource" :=
    (by decide +kernel : Text.snakeCase "TagResource" = "tag_resource")
  have huntag : Text.snakeCase (unlisted name).untagOperation = "untag_resource" :=
    (by decide +kernel : Text.snakeCase "UntagResource" = "untag_resource")
  have htags : Text.snakeCase (unlisted name).tagsField = "tags" := (by decide +kernel : Text.snakeCase "Tags" = "tags")
  have huntagTags : Text.snakeCase (unlisted name).untagTagsField = "tag_keys" :=
    (by decide +kernel : Text.snakeCase "TagKeys" = "tag_keys")
  rw [hservices, render_updateTags, List.map_cons, List.map_nil, String.join_cons, String.join_nil, List.map_cons,
    List.map_nil, String.join_cons, String.join_nil]
  unfold functionText headText bodyText separateText
  rw [hseparate, htype, directionText_unlisted, directionText_unlisted, htag, huntag, htags, huntagTags]
  unfold importText sendText resultText sharedImportText tagText untagText unlisted unlistedPieces
  simp only [String.join_cons, String.join_nil, -String.reduceAppend, String.append_assoc, String.append_empty,
    Bool.false_eq_true, if_false]

theorem toList_join_cons {s : String} {cs rs : List Char} {rest : List String} (hs : s = String.ofList cs)
    (hrest : (String.join rest).toList = rs) : (String.join (s :: rest)).toList = cs ++ rs := by
  rw [String.join_cons, String.toList_append, hrest, hs, String.toList_ofList]

/-- A fact about a file that is found from the characters of its text. -/
theorem read_of_chars {text : String} {p : Option File → Bool} (h : ∃ cs, text.toList = cs ∧ p (readChars cs) = true) :
    p (File.read text) = true := by
  obtain ⟨cs, hcs, hp⟩ := h
  rwa [File.read_chars hcs]

/-! ## Names that splice -/

/-- The form of the unit of one service: one line of import before the shared one. -/
def HasForm (unit : String) : Prop :=
  ∃ line rest : String, '\n' ∉ line.toList ∧ unit = header ++ "\n\n" ++ (line ++ "\n") ++ sharedLine ++ rest

/-- A name that ends the import of its crate and goes on with an import of its own. In
the text of its unit, comments and quotations that begin at one mention end at the
next. -/
def splicing : String :=
  "a;use /* \\\"# ;async fn g()\x7bif c\x7bconn.f(g(/* \\\"##;const B:&str=r#\";const A:&str=r##\"\nconst D:&str=\" */ // */\n h"

/-- Whether a file begins with an import of one name and one of another kind. -/
def beginsSpliced : Option File → Bool
  | some ⟨none, [], .mk [] .inherited (.use false (.name s)) :: .mk [] .inherited (.use false (.renamed x y)) :: _⟩ =>
    s == "aws_sdk_a" && x == "h" && y == "a"
  | _ => false

theorem read_splicing : Service.resolve splicing = unlisted splicing ∧
    beginsSpliced (File.read (String.join (unlistedPieces splicing))) = true := by
  refine ⟨by decide +kernel, ?_⟩
  unfold unlistedPieces
  apply read_of_chars
  apply Exists.intro
  apply And.intro
  · repeat
      apply toList_join_cons
      · exact rfl
    exact String.toList_ofList (l := [])
  · decide +kernel

theorem format_spliced {text : String} (h : beginsSpliced (File.read text) = true) :
    ∃ rest, format text = .ok (header ++ "\n\n" ++ ("use aws_sdk_a;\n" ++ ("use h as a;\n" ++ rest))) := by
  cases hread : File.read text with
  | none => rw [hread] at h; cases h
  | some file =>
    rw [hread] at h
    unfold beginsSpliced at h
    split at h
    next s x y items heq =>
      simp only [Bool.and_eq_true, beq_iff_eq] at h
      obtain ⟨⟨rfl, rfl⟩, rfl⟩ := h
      obtain rfl := Option.some.inj heq
      refine ⟨String.join (items.map Item.text), ?_⟩
      have hfirst : (Item.mk [] .inherited (.use false (.name "aws_sdk_a"))).text = "use aws_sdk_a;\n" := by decide +kernel
      have hsecond : (Item.mk [] .inherited (.use false (.renamed "h" "a"))).text = "use h as a;\n" := by decide +kernel
      unfold format
      rw [hread]
      refine congrArg (fun text => Except.ok (header ++ "\n\n" ++ text)) ((file_text _).trans ?_)
      rw [List.map_cons, List.map_cons, String.join_cons, String.join_cons, hfirst, hsecond]
    next => cases h

theorem not_hasForm (rest : String) :
    ¬HasForm (header ++ "\n\n" ++ ("use aws_sdk_a;\n" ++ ("use h as a;\n" ++ rest))) := by
  rintro ⟨line, later, hline, heq⟩
  have hchars : "use aws_sdk_a;\n".toList ++ ("use h as a;\n".toList ++ rest.toList) =
      line.toList ++ ("\n".toList ++ (sharedLine.toList ++ later.toList)) := by
    have hall := congrArg String.toList heq
    simp only [String.toList_append, List.append_assoc] at hall
    exact List.append_cancel_left (List.append_cancel_left hall)
  -- Behind the first line stands another import than the shared one.
  have hsecond := congrArg (fun cs => (cs.dropWhile (· != '\n')).take 6) hchars
  have hspliced : (("use aws_sdk_a;\n".toList ++ ("use h as a;\n".toList ++ rest.toList)).dropWhile (· != '\n')).take 6 =
      ['\n', 'u', 's', 'e', ' ', 'h'] := rfl
  have hshared : ((line.toList ++ ("\n".toList ++ (sharedLine.toList ++ later.toList))).dropWhile (· != '\n')).take 6 =
      ['\n', 'u', 's', 'e', ' ', 't'] := by
    rw [List.dropWhile_append_of_pos fun c hc => by simpa using fun h : c = '\n' => hline (h ▸ hc)]
    rfl
  simp only [hspliced, hshared] at hsecond
  exact absurd hsecond (by decide)

/-- **Not every unit has the form.** -/
theorem source_spliced : ∃ unit, source updateTags [splicing] = .ok unit ∧ ¬HasForm unit := by
  obtain ⟨hunlisted, hread⟩ := read_splicing
  obtain ⟨rest, hformat⟩ := format_spliced hread
  exact ⟨_, (source_of_render (render_unlisted hunlisted)).trans hformat, not_hasForm rest⟩

end Retag.SourceUnit
