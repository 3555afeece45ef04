/-
Batch sizes, in a plan and in the function of a service. Both cut the tags into
batches of every size but zero (`function_fails_as_planned`). A batch size of
zero is one to the plan, which fails on it as soon as there is anything to send,
and none to the template, on which a condition on zero does not hold: the
function has no loop then (`bodyText_zero`) and cannot fail on a batch size.
-/
import Retag.Proofs.Code.Batches
import Retag.Proofs.Plan.Calls
import Retag.Proofs.SourceUnit.Agreement

namespace Retag.SourceUnit

open Code

variable {service : Service} {old new : TagSet} {tagExpr untagExpr : Expr} {tagTokens untagTokens : List Token}

/-! ## The text -/

/-- The head of the loop over the batches of a set. -/
def loopText (tags : String) (n : Nat) : String :=
  "\n        for " ++ tags ++ " in " ++ tags ++ ".chunks(" ++ toString n ++ ")? \x7b"

theorem directionText_loop {n : Nat} (hlimit : limit? service = some n)
    (tags operation field value failure : String) :
    directionText service tags operation field value failure =
      "\n    if !" ++ tags ++ ".is_empty() \x7b" ++ loopText tags n ++
        (requestText service operation field value failure ++ "\n        \x7d" ++ "\n    \x7d") := by
  unfold directionText
  rw [hlimit]
  unfold loopText
  simp only [String.append_assoc]

/-- Both directions of a body loop over batches of its size. -/
theorem bodyText_loops (hs : service.usesSingleEndpoint = false) {n : Nat} (hn : n ≠ 0)
    (hsize : service.batchSize = some n) : ∃ before middle after, bodyText service =
      before ++ loopText "removed_tags" n ++ middle ++ loopText "updated_tags" n ++ after := by
  have hlimit : limit? service = some n := by simp [limit?, hsize, hn]
  have hregroup : ∀ a b c d e f g h i j : String,
      a ++ (b ++ (c ++ d ++ e) ++ f ++ (g ++ h ++ i)) ++ j = (a ++ b ++ c) ++ d ++ (e ++ f ++ g) ++ h ++ (i ++ j) := by
    intros
    simp only [String.append_assoc]
  unfold bodyText separateText
  rw [hs, if_neg Bool.false_ne_true, directionText_loop hlimit, directionText_loop hlimit, hregroup]
  exact ⟨_, _, _, rfl⟩

/-- A batch size of zero is none to the template. -/
theorem bodyText_zero (hsize : service.batchSize = some 0) :
    bodyText service = bodyText { service with batchSize := none } := by
  have hlimit : limit? service = limit? { service with batchSize := none } := by simp [limit?, hsize]
  unfold bodyText separateText directionText
  rw [hlimit]
  rfl

theorem functionText_zero (hsize : service.batchSize = some 0) :
    functionText service = functionText { service with batchSize := none } := by
  unfold functionText
  rw [bodyText_zero hsize]
  rfl

/-! ## The program -/

theorem cutsSoundly_set {e value : Expr} (field : String) (he : e.cutsSoundly = true) (hvalue : value.cutsSoundly = true) :
    (Expr.method e (setter field) [] [value]).cutsSoundly = true := by
  have hsetter : setter field ≠ "chunks" := setter_ne field (by decide)
  simp [Expr.cutsSoundly, argumentsCutSoundly, hsetter, he, hvalue]

theorem cutsSoundly_invoke {e : Expr} (name : String) (he : e.cutsSoundly = true) :
    (Expr.method e name [] []).cutsSoundly = true := by
  simp [Expr.cutsSoundly, argumentsCutSoundly, sizesBatches, he]

theorem cutsSoundly_names (p : List String) : (Expr.names p).cutsSoundly = true := by
  simp [Expr.names, Expr.cutsSoundly]

theorem cutsSoundly_someOf {e : Expr} (he : e.cutsSoundly = true) : (someOf e).cutsSoundly = true := by
  simp [someOf, Expr.cutsSoundly, argumentsCutSoundly, he]

theorem cutsSoundly_resource {e : Expr} (he : e.cutsSoundly = true) : (resourceExpr service e).cutsSoundly = true := by
  have hidentifier : (identifierExpr service).cutsSoundly = true := by
    refine cutsSoundly_someOf ?_
    split
    · simp [Expr.cutsSoundly]
    · exact cutsSoundly_invoke _ (cutsSoundly_names _)
  have hset := cutsSoundly_set service.identifierField he hidentifier
  unfold resourceExpr
  cases resourceType? service with
  | none => exact hset
  | some field => exact cutsSoundly_set field hset (cutsSoundly_someOf (cutsSoundly_invoke _ (cutsSoundly_names _)))

theorem cutsSoundly_checked {e : Expr} (failure : String) (he : e.cutsSoundly = true) :
    (checkedExpr failure e).cutsSoundly = true := by
  simp [checkedExpr, Expr.cutsSoundly, argumentsCutSoundly, cutsSoundly_names, he]

theorem cutsSoundly_request {value : Expr} (operation tagsField failure : String) (hvalue : value.cutsSoundly = true) :
    (requestExpr service operation tagsField value failure).cutsSoundly = true := by
  have hconn := cutsSoundly_invoke (Text.snakeCase operation) (cutsSoundly_names ["conn"])
  have hset := cutsSoundly_set tagsField (@cutsSoundly_resource service _ hconn) (cutsSoundly_someOf hvalue)
  have hsend := cutsSoundly_invoke "send" hset
  exact cutsSoundly_checked failure (by rwa [Expr.cutsSoundly])

/-- The loop of a direction cuts its set into batches of a number that is not zero. -/
theorem cutsSoundly_direction {request : Expr} (tags : String) (hrequest : request.cutsSoundly = true)
    {ss : List Stmt} (hss : statementsCutSoundly ss = true) :
    statementsCutSoundly (directionStmt service tags request :: ss) = true := by
  have hparts : statementsCutSoundly [partsStmt service tags request] = true := by
    unfold partsStmt
    cases hlimit : limit? service with
    | none => simp [statementsCutSoundly, hrequest]
    | some n =>
      have hsizes : sizesBatches [.literal (toString n)] = true := by
        rw [sizesBatches, naturalLiteral?_toString]
        simpa using limit_ne_zero hlimit
      simp only [statementsCutSoundly, Expr.cutsSoundly, argumentsCutSoundly, cutsSoundly_names, hsizes, hrequest,
        Bool.or_true, Bool.and_true]
  simp [directionStmt, unlessEmpty, statementsCutSoundly, Expr.cutsSoundly, argumentsCutSoundly, cutsSoundly_names,
    hparts, hss]

theorem cutsSoundly_difference (x difference : String) {ss : List Stmt} (hdifference : difference ≠ "chunks")
    (hss : statementsCutSoundly ss = true) : statementsCutSoundly (differenceStmt x difference :: ss) = true := by
  simp [differenceStmt, statementsCutSoundly, Expr.cutsSoundly, argumentsCutSoundly, cutsSoundly_names, hdifference, hss]

theorem cutsSoundly_convert (x : String) {ss : List Stmt} (hss : statementsCutSoundly ss = true) :
    statementsCutSoundly (convertStmt x :: ss) = true := by
  simp [convertStmt, statementsCutSoundly, cutsSoundly_invoke, cutsSoundly_names, hss]

/-- A body cuts no set into batches of zero, if its values do not. -/
theorem cutsSoundly_body (hs : service.usesSingleEndpoint = false) (htag : tagExpr.cutsSoundly = true)
    (huntag : untagExpr.cutsSoundly = true) : statementsCutSoundly (bodyStmts service tagExpr untagExpr) = true := by
  have hdone : statementsCutSoundly [.expr doneExpr false] = true := by
    simp [statementsCutSoundly, doneExpr, Expr.cutsSoundly, argumentsCutSoundly]
  unfold bodyStmts separateStmts
  rw [hs, if_neg Bool.false_ne_true]
  refine cutsSoundly_convert _ (cutsSoundly_convert _ ?_)
  refine cutsSoundly_difference _ _ (by decide) (cutsSoundly_direction _ (cutsSoundly_request _ _ _ huntag) ?_)
  exact cutsSoundly_difference _ _ (by decide) (cutsSoundly_direction _ (cutsSoundly_request _ _ _ htag) hdone)

/-- The field of a payload that is built. -/
def Payload.field? : Payload → Option String
  | .converted _ => none
  | .built _ _ field _ | .checked _ _ field _ => some field

theorem Payload.cutsSoundly_expr (tags : String) {p : Payload} (h : p.field? ≠ some "chunks") :
    (p.expr tags).cutsSoundly = true := by
  have hconverted : ∀ conversion, (conversionExpr tags conversion).cutsSoundly = true := fun conversion =>
    cutsSoundly_invoke _ (cutsSoundly_invoke _ (cutsSoundly_names _))
  have hbuilt : ∀ type field conversion, some field ≠ some "chunks" →
      (builtExpr type field (conversionExpr tags conversion)).cutsSoundly = true := by
    intro type field conversion hfield
    have hne : field ≠ "chunks" := fun he => hfield (congrArg some he)
    refine cutsSoundly_invoke _ ?_
    simp [Expr.cutsSoundly, argumentsCutSoundly, cutsSoundly_someOf, hconverted, hne]
  cases p with
  | converted conversion => exact hconverted conversion
  | built crate type field conversion => exact hbuilt _ _ _ h
  | checked crate type field conversion => exact cutsSoundly_checked _ (hbuilt _ _ _ h)

theorem customPayload_field {expressions : String → Option String} {payloads : List (String × Payload)}
    (hfields : ∀ q ∈ payloads, q.2.field? ≠ some "chunks") {expr : String} {p : Payload}
    (h : customPayload? expressions payloads expr = some p) : p.field? ≠ some "chunks" := by
  obtain ⟨q, hq, rfl⟩ := Option.map_eq_some_iff.1 h
  exact hfields q (List.mem_of_find?_eq_some hq)

theorem tagPayload_field {p : Payload} (h : tagPayload? service = some p) : p.field? ≠ some "chunks" := by
  unfold tagPayload? at h
  split at h
  · obtain rfl := Option.some.inj h
    nofun
  · exact customPayload_field (by decide) h

theorem untagPayload_field {p : Payload} (h : untagPayload? service = some p) : p.field? ≠ some "chunks" := by
  unfold untagPayload? at h
  split at h
  · obtain rfl := Option.some.inj h
    nofun
  · obtain rfl := Option.some.inj h
    nofun
  · exact customPayload_field (by decide) h
  · obtain rfl := Option.some.inj h
    nofun

/-- The values of known expressions are read as expressions that cut no sets. -/
theorem known_valued (hname : IsIdentifier service.name) (h : KnownExpressions service) :
    ∃ tagTokens untagTokens tagExpr untagExpr, Valued service tagTokens untagTokens tagExpr untagExpr ∧
      tagExpr.cutsSoundly = true ∧ untagExpr.cutsSoundly = true := by
  obtain ⟨_, _, htag, huntag, -, -, _, _, hvalues⟩ := known_payloads hname h
  exact ⟨_, _, _, _, hvalues, Payload.cutsSoundly_expr _ (tagPayload_field htag),
    Payload.cutsSoundly_expr _ (untagPayload_field huntag)⟩

/-! ## Both -/

/-- A program that can end with the error of a batch size. -/
def FailsOnSize (stmts : List Stmt) (old new : TagSet) : Prop :=
  ∃ answer identifier resourceType sent e,
    runUpdate answer stmts identifier resourceType old new = some (sent, .error (.tags e))

/-- A function and a plan that loop over batches of `n`. -/
def BothCut (service : Service) (n : Nat) : Prop :=
  (∃ before middle after, bodyText service =
      before ++ loopText "removed_tags" n ++ middle ++ loopText "updated_tags" n ++ after) ∧
    ∃ hn : 0 < n, ∀ old new, plan service old new = .ok
      (((old.removed new).chunksOf n hn).map (fun b => .untag service.untagOperation b.withoutReserved) ++
        ((old.updated new).chunksOf n hn).map (fun b => .tag service.tagOperation b.withoutReserved))

/-- **The function of a service fails on a batch size exactly if its plan does, unless
the size is zero.** For every other size both cut the tags into batches of it. For a
size of zero the function is that of a service without a batch size, which never
fails on one, while the plan fails as soon as the sets differ. -/
theorem function_fails_as_planned (hs : service.usesSingleEndpoint = false) (hmembers : PlainMembers service)
    (hnames : NamedOperations service) (hvalues : Valued service tagTokens untagTokens tagExpr untagExpr)
    (htag : tagExpr.cutsSoundly = true) (huntag : untagExpr.cutsSoundly = true) :
    ∃ stmts, readFunctionBody (bodyText service) = some stmts ∧
      (∀ services, service ∈ services → ∃ before after,
        render updateTags services = .ok (before ++ (headText service ++ resultText ++ bodyText service) ++ after)) ∧
      (∀ old new, ((∃ e, plan service old new = .error e) ↔ FailsOnSize stmts old new) ↔
        ¬ (service.batchSize = some 0 ∧ old ≠ new)) ∧
      (∀ n, service.batchSize = some n → n ≠ 0 → BothCut service n) ∧
      (service.batchSize = some 0 → functionText service = functionText { service with batchSize := none }) := by
  have hbody := reads_body hmembers hnames hvalues []
  rw [List.append_nil] at hbody
  refine ⟨_, readFunctionBody_eq (tokens_bodyText hmembers hvalues) hbody,
    fun services => render_contains, fun old new => ?_, fun n hsize hn => ?_, functionText_zero⟩
  · have hnever : ¬ FailsOnSize (bodyStmts service tagExpr untagExpr) old new := by
      rintro ⟨answer, identifier, resourceType, sent, e, hrun⟩
      exact runUpdate_ne_tags (cutsSoundly_body hs htag huntag) answer identifier resourceType old new sent e hrun
    simp only [plan_error_iff hs, hnever, iff_false, exists_eq_left]
  · refine ⟨bodyText_loops hs hn hsize, Nat.pos_of_ne_zero hn, fun old new => ?_⟩
    have hsome : service.batchSize ≠ some 0 := by simp [hsize, hn]
    rw [plan_separate hs hsome]
    simp only [partCalls, TagSet.parts, hsize, dif_pos (Nat.pos_of_ne_zero hn)]

/-- A service that takes ten tags in a request. -/
theorem function_fails_as_planned_kinesis :
    ∃ tagTokens untagTokens tagExpr untagExpr,
      ((Service.resolve "kinesis").usesSingleEndpoint = false ∧ PlainMembers (Service.resolve "kinesis") ∧
        NamedOperations (Service.resolve "kinesis") ∧
        Valued (Service.resolve "kinesis") tagTokens untagTokens tagExpr untagExpr ∧
        tagExpr.cutsSoundly = true ∧ untagExpr.cutsSoundly = true) ∧
      BothCut (Service.resolve "kinesis") 10 := by
  have hmembers := resolve_members "kinesis"
  have hnames := resolve_namedOperations "kinesis"
  obtain ⟨_, _, _, _, hvalues, htag, huntag⟩ :=
    @known_valued (Service.resolve "kinesis") (by decide) (resolve_knownExpressions "kinesis")
  refine ⟨_, _, _, _, ⟨rfl, hmembers, hnames, hvalues, htag, huntag⟩, ?_⟩
  obtain ⟨_, -, -, -, hcut, -⟩ := function_fails_as_planned rfl hmembers hnames hvalues htag huntag
  exact hcut 10 rfl (by decide)

/-- A service with a batch size of zero. -/
def unlimited : Service := { Service.resolve "sqs" with batchSize := some 0 }

/-- Its plan fails on a tag to set, which its function sends. -/
theorem plan_fails_alone :
    unlimited.usesSingleEndpoint = false ∧
      plan unlimited TagSet.empty (TagSet.ofList [("a", "1")]) = .error ⟨0⟩ ∧
      ∃ stmts, readFunctionBody (bodyText unlimited) = some stmts ∧
        ¬ FailsOnSize stmts TagSet.empty (TagSet.ofList [("a", "1")]) ∧
        ∃ request, runUpdate (fun _ => none) stmts "queue" "" TagSet.empty (TagSet.ofList [("a", "1")]) =
          some ([request], .ok ()) := by
  have hregular : Regular (Service.resolve "sqs") := resolve_regular (by decide)
  obtain ⟨tagPayload, untagPayload, htag, huntag, htagged, huntagged, _, _, hvalues⟩ :=
    known_payloads hregular.names.name hregular.expressions
  have htext : bodyText unlimited = bodyText (Service.resolve "sqs") := bodyText_zero rfl
  have hread := readFunctionBody_bodyText hregular.names (resolve_namedOperations "sqs") hvalues
  have hcuts : statementsCutSoundly (bodyStmts (Service.resolve "sqs") (tagPayload.expr "updated_tags")
      (untagPayload.expr "removed_tags")) = true :=
    cutsSoundly_body rfl (Payload.cutsSoundly_expr _ (tagPayload_field htag))
      (Payload.cutsSoundly_expr _ (untagPayload_field huntag))
  have hplan : plan (Service.resolve "sqs") TagSet.empty (TagSet.ofList [("a", "1")]) =
      .ok [.tag "TagQueue" (TagSet.ofList [("a", "1")])] := rfl
  have hrun := @runUpdate_bodyStmts ⟨Service.resolve "sqs", tagPayload, untagPayload, "queue", "", TagSet.empty,
    TagSet.ofList [("a", "1")]⟩ hregular.batchSize ⟨htagged, huntagged⟩ _ hplan fun _ => none
  refine ⟨rfl, rfl, _, htext ▸ hread, ?_, _, hrun⟩
  rintro ⟨answer, identifier, resourceType, sent, e, hfails⟩
  exact runUpdate_ne_tags hcuts answer identifier resourceType _ _ sent e hfails

end Retag.SourceUnit
