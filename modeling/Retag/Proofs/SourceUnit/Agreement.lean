/-
The function of a service and its plan agree: for every regular description the body
of the function reads as a program, and the program sends what is planned. What the
registry says of a plain name is regular.
-/
import Retag.Proofs.Service.Description
import Retag.Proofs.SourceUnit.Sending
import Retag.Proofs.Plan.Order

namespace Retag.SourceUnit

open Code

/-! ## Regular descriptions -/

/-- What a service's description must be like for its function to be a program: plain
names, expressions of the registry, and a batch size that is not zero. -/
structure Regular (service : Service) : Prop where
  names : PlainNames service
  expressions : KnownExpressions service
  batchSize : service.batchSize ≠ some 0

theorem resolve_members (name : String) : PlainMembers (Service.resolve name) where
  tagOperation := entry_of_all (P := (Text.isPlainName · = true)) (by decide +kernel) name
  untagOperation := entry_of_all (P := (Text.isPlainName · = true)) (by decide +kernel) name
  identifierField := entry_of_all (P := (Text.isPlainName · = true)) (by decide +kernel) name
  resourceTypeField := by
    intro field hfield
    simp only [Service.resolve, Registry.resourceTypeField] at hfield
    split at hfield
    · obtain rfl := Option.some.inj hfield
      decide
    · cases hfield
  tagsField := entry_of_all (P := (Text.isPlainName · = true)) (by decide +kernel) name
  untagTagsField := entry_of_all (P := (Text.isPlainName · = true)) (by decide +kernel) name

theorem resolve_plainNames {name : String} (h : IsWord name) : PlainNames (Service.resolve name) :=
  { resolve_members name with name := h }

theorem resolve_namedOperations (name : String) : NamedOperations (Service.resolve name) where
  tag := entry_of_all (P := fun operation => isName (Text.snakeCase operation) = true) (by decide +kernel) name
  untag := entry_of_all (P := fun operation => isName (Text.snakeCase operation) = true) (by decide +kernel) name

theorem resolve_knownExpressions (name : String) : KnownExpressions (Service.resolve name) where
  tag := by
    intro expr h
    refine ⟨name, ?_⟩
    simp only [Service.resolve] at h
    cases hcustom : Registry.customTagValue name with
    | none => rw [hcustom] at h; cases h
    | some e => rw [hcustom] at h; cases h; rfl
  untag := by
    intro expr h
    refine ⟨name, ?_⟩
    simp only [Service.resolve, UntagValue.ofFlags] at h
    split at h
    · cases h
    split at h
    · cases h
    cases hcustom : Registry.customUntagValue name with
    | none => rw [hcustom] at h; cases h
    | some e => rw [hcustom] at h; cases h; rfl

/-- What the registry says of a plain name is regular. -/
theorem resolve_regular {name : String} (h : IsWord name) : Regular (Service.resolve name) :=
  ⟨resolve_plainNames h, resolve_knownExpressions name, resolve_batchSize name⟩

theorem render_contains {service : Service} {services : List Service} (h : service ∈ services) :
    ∃ before after, render updateTags services =
      .ok (before ++ (headText service ++ resultText ++ bodyText service) ++ after) := by
  obtain ⟨earlier, later, rfl⟩ := List.append_of_mem h
  refine ⟨String.join ((earlier ++ service :: later).map importText) ++ sharedImportText ++
    String.join (earlier.map functionText),
    "\n" ++ String.join (later.map functionText) ++ "\n", (render_updateTags _).trans ?_⟩
  rw [List.map_append (f := functionText), List.map_cons, String.join_append, String.join_cons, functionText]
  simp only [String.append_assoc]

/-- **The function of a service follows the plan.** In every source unit the body of
its function reads as statements, and these send the requests of the plan, one after
the other, until one is refused: all of them if none is. -/
theorem function_follows_plan {service : Service} (h : Regular service) (hnames : NamedOperations service) :
    ∃ tagPayload untagPayload stmts,
      tagPayload? service = some tagPayload ∧ untagPayload? service = some untagPayload ∧
      (∀ services, service ∈ services → ∃ before after, render updateTags services =
        .ok (before ++ (headText service ++ resultText ++ bodyText service) ++ after)) ∧
      readFunctionBody (bodyText service) = some stmts ∧
      ∀ identifier resourceType old new, ∃ calls, plan service old new = .ok calls ∧
        (∀ answer, runUpdate answer stmts identifier resourceType old new = some (dispatchAll answer []
          (calls.map (Update.mk service tagPayload untagPayload identifier resourceType old new).dispatch))) ∧
        (∀ answer, (∀ requests, answer requests = none) →
          runUpdate answer stmts identifier resourceType old new = some
            (calls.map (Update.mk service tagPayload untagPayload identifier resourceType old new).request, .ok ())) := by
  obtain ⟨tagPayload, htag, htagged⟩ := tag_isPayload h.names.name h.expressions
  obtain ⟨untagPayload, huntag, huntagged⟩ := untag_isPayload h.names.name h.expressions
  obtain ⟨tagTokens, htagValue⟩ := htagged.reads
  obtain ⟨untagTokens, huntagValue⟩ := huntagged.reads
  refine ⟨tagPayload, untagPayload, _, htag, huntag, fun services => render_contains,
    readFunctionBody_bodyText h.names hnames ⟨htagValue, huntagValue⟩, fun identifier resourceType old new => ?_⟩
  obtain ⟨calls, hplan, -⟩ := plan_spec h.batchSize old new
  have hcarries : Carries ⟨service, tagPayload, untagPayload, identifier, resourceType, old, new⟩ := ⟨htagged, huntagged⟩
  have hrun := runUpdate_bodyStmts h.batchSize hcarries hplan
  refine ⟨calls, hplan, hrun, fun answer haccepted => ?_⟩
  rw [hrun, dispatchAll_accepted haccepted, List.map_map]
  rfl

theorem function_follows_plan_kinesis :
    ((Regular (Service.resolve "kinesis") ∧ NamedOperations (Service.resolve "kinesis")) ∧
      ∃ stmts, readFunctionBody (bodyText (Service.resolve "kinesis")) = some stmts ∧
        ∀ old new, ∃ calls, plan (Service.resolve "kinesis") old new = .ok calls ∧
          runUpdate (fun _ => none) stmts "stream" "" old new = some (calls.map (Update.mk (Service.resolve "kinesis")
            (.converted "map") (.converted "keys") "stream" "" old new).request, .ok ())) := by
  have hregular : Regular (Service.resolve "kinesis") := resolve_regular (by decide)
  have hnames : NamedOperations (Service.resolve "kinesis") := resolve_namedOperations "kinesis"
  obtain ⟨tagPayload, untagPayload, stmts, htag, huntag, -, hread, hrun⟩ := function_follows_plan hregular hnames
  obtain rfl : tagPayload = .converted "map" := Option.some.inj (htag.symm.trans (by decide +kernel))
  obtain rfl : untagPayload = .converted "keys" := Option.some.inj (huntag.symm.trans (by decide +kernel))
  refine ⟨⟨hregular, hnames⟩, stmts, hread, fun old new => ?_⟩
  obtain ⟨calls, hplan, -, haccepted⟩ := hrun "stream" "" old new
  exact ⟨calls, hplan, haccepted _ fun _ => rfl⟩

/-- A service with an operation whose method is not a name. -/
def moving : Service := { Service.resolve "rds" with tagOperation := "Move" }

theorem moving_regular : Regular moving := by
  have hrds : Regular (Service.resolve "rds") := resolve_regular (by decide)
  exact ⟨{ hrds.names with tagOperation := by decide }, ⟨hrds.expressions.tag, hrds.expressions.untag⟩, hrds.batchSize⟩

theorem moving_valued :
    Valued moving (conversionTokens "updated_tags" "rds_tags") (conversionTokens "removed_tags" "keys")
      (conversionExpr "updated_tags" "rds_tags") (conversionExpr "removed_tags" "keys") := by
  have htag : tagText moving = "updated_tags.ignore_aws()." ++ "rds_tags" ++ "()" := by decide +kernel
  have huntag : untagText moving = "removed_tags.ignore_aws()." ++ "keys" ++ "()" := by decide +kernel
  constructor
  · rw [htag]
    exact conversion_isValue updatedTags_scan (by decide) rfl (by decide) (by decide)
  · rw [huntag]
    exact conversion_isValue removedTags_scan (by decide) rfl (by decide) (by decide)

/-- A method that is a reserved word cannot be called, so there is no program. -/
theorem function_unreadable_moving : Regular moving ∧ ¬∃ stmts, readFunctionBody (bodyText moving) = some stmts := by
  refine ⟨moving_regular, ?_⟩
  rintro ⟨stmts, hread⟩
  have htokens := tokens_bodyText moving_regular.names.members moving_valued
  have hblock : readBlock (fuelFor (bodyTokens moving (conversionTokens "updated_tags" "rds_tags")
      (conversionTokens "removed_tags" "keys"))) (bodyTokens moving (conversionTokens "updated_tags" "rds_tags")
      (conversionTokens "removed_tags" "keys")) = none := by decide +kernel
  rw [readFunctionBody_eq_none htokens hblock] at hread
  cases hread

end Retag.SourceUnit
