/-
What the function of a service sends. The calls of a plan stand for requests
(`Update.request`), and the statements of the function's body dispatch just these
requests in the order of the plan, however they are answered.
-/
import Retag.Proofs.SourceUnit.Payload
import Retag.Proofs.Plan.Effects

namespace Retag.SourceUnit

open Code

/-! ## The requests of a plan -/

/-- An update of a resource by the function of a service. -/
structure Update where
  service : Service
  tagPayload : Payload
  untagPayload : Payload
  identifier : String
  resourceType : String
  old : TagSet
  new : TagSet

namespace Update

/-- The fields that say which resource a request is for. -/
def resourceFields (u : Update) : List (String × Value) :=
  (setter u.service.identifierField,
      .present (if u.service.identifierIsSequence then .list [.text u.identifier] else .text u.identifier)) ::
    match resourceType? u.service with
    | some field => [(setter field, .present (.text u.resourceType))]
    | none => []

/-- The field of the tags to set. -/
def tagsField (u : Update) (t : TagSet) : String × Value :=
  (setter u.service.tagsField, .present (u.tagPayload.value t))

/-- The field of the tags to remove. -/
def untagTagsField (u : Update) (t : TagSet) : String × Value :=
  (setter u.service.untagTagsField, .present (u.untagPayload.value t))

/-- The fields that carry the tags of a call. The one request for both directions has
those of a direction in which there is something to do; it removes what the resource
has under the keys of the call. -/
def callFields (u : Update) : PlannedCall → List (String × Value)
  | .combined _ tags keys =>
    (if (u.old.updated u.new).isEmpty then [] else [u.tagsField tags]) ++
      if (u.old.removed u.new).isEmpty then [] else [u.untagTagsField (u.old.filter fun k _ => keys.contains k)]
  | .untag _ tags => [u.untagTagsField tags]
  | .tag _ tags => [u.tagsField tags]

/-- The request of a call: the method is the operation in snake case. -/
def request (u : Update) (call : PlannedCall) : Request :=
  ⟨Text.snakeCase call.operation, u.resourceFields ++ u.callFields call⟩

/-- The error that a refusal of a call is told as. -/
def refused (u : Update) : PlannedCall → String → UpdateError
  | .untag .. => .untagging u.identifier
  | .combined .. | .tag .. => .tagging u.identifier

def dispatch (u : Update) (call : PlannedCall) : Dispatch := ⟨u.request call, u.refused call⟩

end Update

/-- The keys that a call removes have in the old set the tags that are removed. -/
theorem filter_removedKeys (old new : TagSet) :
    old.filter (fun k _ => (old.removed new).withoutReserved.keys.contains k) = (old.removed new).withoutReserved := by
  refine TagSet.ext_get? fun k => ?_
  rw [TagSet.get?_filter]
  by_cases hk : k ∈ (old.removed new).withoutReserved.keys
  · obtain ⟨hremoved, hreserved⟩ := TagSet.mem_keys_withoutReserved.1 hk
    have hnew : new.contains k = false := by
      rw [Bool.eq_false_iff, ne_eq, TagSet.contains_iff]
      exact (TagSet.mem_keys_removed.1 hremoved).2
    rw [TagSet.get?_withoutReserved, hreserved, TagSet.get?_removed, hnew, List.contains_iff_mem.2 hk]
    cases old.get? k <;> rfl
  · rw [TagSet.get?_eq_none_iff.2 hk]
    have hcontains : (old.removed new).withoutReserved.keys.contains k = false := by simpa using hk
    rw [hcontains]
    cases old.get? k <;> rfl

/-! ## Expressions of a request -/

variable {u : Update} {vars left : List (String × Value)} {answer : Answer} {e : Expr} {v w : Value} {x : String}
  {operation tags text : String} {fields : List (String × Value)} {p : Payload} {t : TagSet}

/-- The variables that the requests of an update need. -/
structure Knows (u : Update) (vars : List (String × Value)) : Prop where
  conn : vars.lookup "conn" = some .client
  identifier : vars.lookup "identifier" = some (.text u.identifier)
  resourceType : vars.lookup "resource_type" = some (.text u.resourceType)

theorem lookup_declared {y : String} (h : y ≠ x) : ((x, v) :: vars).lookup y = vars.lookup y := by
  rw [List.lookup_cons, beq_false_of_ne h]

theorem Knows.declare (h : Knows u vars) (hx : x ∉ ["conn", "identifier", "resource_type"]) :
    Knows u ((x, v) :: vars) := by
  simp only [List.mem_cons, List.not_mem_nil, or_false, not_or] at hx
  obtain ⟨hconn, hidentifier, htype⟩ := hx
  exact ⟨(lookup_declared (Ne.symm hconn)).trans h.conn, (lookup_declared (Ne.symm hidentifier)).trans h.identifier,
    (lookup_declared (Ne.symm htype)).trans h.resourceType⟩

/-- The name of a setter says that it is one. -/
theorem setter_ne {other : String} (field : String) (h : ¬"set_".toList <+: other.toList) : setter field ≠ other := by
  rintro rfl
  refine h ⟨(Text.snakeCase field).toList, ?_⟩
  rw [← String.toList_append]
  rfl

theorem yields_someOf (h : Yields answer e vars v) : Yields answer (someOf e) vars (.present v) :=
  .call (.cons h .nil) rfl

/-- A field of a request is set. -/
theorem yields_set (h : Yields answer e vars (.request operation fields)) {field : String} {f : Expr}
    (hf : Yields answer f vars v) :
    Yields answer (.method e (setter field) [] [someOf f]) vars (.request operation (fields ++ [(setter field, .present v)])) :=
  h.give (yields_someOf hf) (setter_ne field (by decide)) rfl

theorem yields_resource (hknows : Knows u vars) (h : Yields answer e vars (.request operation [])) :
    Yields answer (resourceExpr u.service e) vars (.request operation u.resourceFields) := by
  have hidentifier : Yields answer (identifierExpr u.service) vars
      (.present (if u.service.identifierIsSequence then .list [.text u.identifier] else .text u.identifier)) := by
    unfold identifierExpr
    cases u.service.identifierIsSequence with
    | true => exact yields_someOf (.listOf hknows.identifier)
    | false => exact yields_someOf ((Yields.name hknows.identifier).invoke rfl)
  have hset : Yields answer (.method e (setter u.service.identifierField) [] [identifierExpr u.service]) vars
      (.request operation ([] ++ [(setter u.service.identifierField, _)])) := h.give hidentifier (setter_ne _ (by decide)) rfl
  unfold resourceExpr Update.resourceFields
  cases resourceType? u.service with
  | none => exact hset
  | some field =>
    have htype : Yields answer (.method (.names ["resource_type"]) "into" [] []) vars (.text u.resourceType) :=
      (Yields.name hknows.resourceType).invoke rfl
    exact yields_set hset htype

theorem yields_new (hknows : Knows u vars) :
    Yields answer (resourceExpr u.service (.method (.names ["conn"]) operation [] [])) vars
      (.request operation u.resourceFields) :=
  yields_resource hknows ((Yields.name hknows.conn).invoke rfl)

theorem performs_sent {failure : String} {refused : String → UpdateError} (hknows : Knows u vars)
    (htold : ∀ source, callFunction ["UpdateTagsError", failure] [.text u.identifier, .trouble (.refusal source)] =
      some (.trouble (.update (refused source))))
    (h : Yields answer e vars (.request operation fields)) :
    Performs answer (eval answer (sentExpr failure e)) vars [⟨⟨operation, fields⟩, refused⟩] .unit vars := by
  have hsending : Yields answer (.method e "send" [] []) vars (.sending operation fields) := h.invoke rfl
  intro sent
  have hawait := eval_await hsending sent
  simp only [dispatchAll]
  cases hanswer : answer (sent ++ [⟨operation, fields⟩]) with
  | none =>
    rw [Answer.value, hanswer] at hawait
    exact eval_attempt_success (eval_mapErr_success hawait)
  | some source =>
    rw [Answer.value, hanswer] at hawait
    have herr : Yields answer (.call (.names ["UpdateTagsError", failure]) [.names ["identifier"], .names ["err"]])
        (("err", .trouble (.refusal source)) :: vars) (.trouble (.update (refused source))) := by
      have hidentifier := (hknows.declare (x := "err") (v := .trouble (.refusal source)) (by decide)).identifier
      exact .call (.cons (.name hidentifier) (.cons (.name (by simp)) .nil)) (htold source)
    exact ⟨vars, eval_attempt_failure (eval_mapErr_failure hawait herr) rfl⟩

/-! ## Statements -/

variable {ss : List Stmt} {ds : List Dispatch} {request : Expr}

/-- The request of one direction for a set. -/
theorem performs_request {failure tagsField : String} {refused : String → UpdateError} (hknows : Knows u vars)
    (htold : ∀ source, callFunction ["UpdateTagsError", failure] [.text u.identifier, .trouble (.refusal source)] =
      some (.trouble (.update (refused source))))
    (hp : IsPayload text tags p) (ht : vars.lookup tags = some (.tags t)) :
    Performs answer (eval answer (requestExpr u.service operation tagsField (p.expr tags) failure)) vars
      [⟨⟨Text.snakeCase operation, u.resourceFields ++ [(setter tagsField, .present (p.value t.withoutReserved))]⟩, refused⟩]
      .unit vars :=
  performs_sent hknows htold (yields_set (yields_new hknows) (hp.yields answer vars t ht))

theorem yields_isEmpty (ht : vars.lookup tags = some (.tags t)) :
    Yields answer (.method (.names [tags]) "is_empty" [] []) vars (.truth t.isEmpty) :=
  (Yields.name ht).invoke rfl

/-- Statements for a set are passed over if it has no tags. -/
theorem performs_unlessEmpty {body : List Stmt} {ds' : List Dispatch} {mid : List (String × Value)}
    (ht : vars.lookup tags = some (.tags t)) (hss : ss ≠ [])
    (hbody : t.isEmpty = false → Performs answer (execAll answer body) vars ds .unit mid)
    (hskip : t.isEmpty = true → ds = [] ∧ mid = vars) (hlength : mid.length = vars.length)
    (h : Performs answer (execAll answer ss) mid ds' w left) :
    Performs answer (execAll answer (unlessEmpty tags body :: ss)) vars (ds ++ ds') w left := by
  have hcondition : Yields answer (.unary "!" (.method (.names [tags]) "is_empty" [] [])) vars (.truth !t.isEmpty) :=
    (yields_isEmpty ht).not
  have hconditional : Performs answer
      (eval answer (.conditional (.unary "!" (.method (.names [tags]) "is_empty" [] [])) body none)) vars ds .unit mid := by
    cases hempty : t.isEmpty with
    | true =>
      obtain ⟨rfl, rfl⟩ := hskip hempty
      rw [hempty] at hcondition
      exact performs_conditional_skip hcondition
    | false =>
      rw [hempty] at hcondition
      have hscope : Performs answer (execAll answer body) vars ds .unit ([] ++ mid) := hbody hempty
      exact performs_conditional hcondition hscope hlength
  exact performs_expr hconditional (.inl hss) h

theorem limit_eq {service : Service} (hsize : service.batchSize ≠ some 0) : limit? service = service.batchSize := by
  unfold limit?
  cases h : service.batchSize with
  | none => rfl
  | some n =>
    have hn : n ≠ 0 := fun hn => hsize (by rw [h, hn])
    simp [hn]

/-- The batches of a set that has some. -/
theorem yields_chunks {n : Nat} (hn : 0 < n) (ht : vars.lookup tags = some (.tags t)) :
    Yields answer (.attempt (.method (.names [tags]) "chunks" [] [.literal (toString n)])) vars
      (.list ((t.chunksOf n hn).map .tags)) := by
  have hbatches : batchesOf t n = .success (.list ((t.chunksOf n hn).map .tags)) := by
    rw [batchesOf, TagSet.chunks, dif_pos hn]
  have hcall : Yields answer (.method (.names [tags]) "chunks" [] [.literal (toString n)]) vars (batchesOf t n) :=
    (Yields.name ht).give (.literal n) (by decide) rfl
  rw [hbatches] at hcall
  exact hcall.attempt

/-- One direction dispatches once for each part of its set. -/
theorem performs_direction {d : TagSet → Dispatch} (hsize : u.service.batchSize ≠ some 0) (hknows : Knows u vars)
    (htags : tags ∉ ["conn", "identifier", "resource_type"]) (ht : vars.lookup tags = some (.tags t)) (hss : ss ≠ [])
    (hrequest : ∀ b vars, Knows u vars → vars.lookup tags = some (.tags b) →
      Performs answer (eval answer request) vars [d b] .unit vars)
    (h : Performs answer (execAll answer ss) vars ds w left) :
    Performs answer (execAll answer (directionStmt u.service tags request :: ss)) vars
      ((t.parts u.service.batchSize).map d ++ ds) w left := by
  have hone : ∀ b vars, Knows u vars → vars.lookup tags = some (.tags b) →
      Performs answer (execAll answer [.expr request true]) vars [d b] .unit vars := fun b vars hknows hb =>
    performs_expr (hrequest b vars hknows hb) (.inr rfl) performs_nil
  have hskip : t.isEmpty = true → (t.parts u.service.batchSize).map d = [] ∧ vars = vars := fun hempty => by
    rw [TagSet.isEmpty_iff.1 hempty, TagSet.parts_empty]
    exact ⟨rfl, rfl⟩
  have hbody : t.isEmpty = false → Performs answer (execAll answer [partsStmt u.service tags request]) vars
      ((t.parts u.service.batchSize).map d) .unit vars := by
    intro hempty
    rw [partsStmt, limit_eq hsize]
    cases hlimit : u.service.batchSize with
    | none =>
      rw [TagSet.parts, hempty]
      exact hone t vars hknows ht
    | some n =>
      have hn : 0 < n := Nat.pos_of_ne_zero fun hn => hsize (by rw [hlimit, hn])
      rw [TagSet.parts, dif_pos hn, List.map_eq_flatMap]
      refine performs_last (performs_loop (yields_chunks hn ht) fun b _ => ⟨[(tags, .tags b)], .unit, ?_⟩)
      exact hone b _ (hknows.declare htags) List.lookup_cons_self
  exact performs_unlessEmpty ht hss hbody hskip rfl h

theorem performs_difference (difference : String) {d : TagSet} {old new : TagSet}
    (hold : vars.lookup "old_tags" = some (.tags old))
    (hnew : vars.lookup "new_tags" = some (.tags new)) (hd : callMethod difference (.tags old) [.tags new] = some (.tags d))
    (hne : difference ≠ "map_err") (h : Performs answer (execAll answer ss) ((x, .tags d) :: vars) ds w left) :
    Performs answer (execAll answer (differenceStmt x difference :: ss)) vars ds w left :=
  performs_binding ((Yields.name hold).give (Yields.name hnew).reference hne hd) h

theorem yields_done : Yields answer doneExpr vars (.success .unit) := .call (.cons .unit .nil) rfl

/-! ## The separate body -/

/-- The two sets, as a body has them. -/
structure Converted (u : Update) (vars : List (String × Value)) : Prop extends Knows u vars where
  old : vars.lookup "old_tags" = some (.tags u.old)
  new : vars.lookup "new_tags" = some (.tags u.new)

theorem Converted.declare (h : Converted u vars) (hx : x ∈ ["removed_tags", "updated_tags", "request"]) :
    Converted u ((x, v) :: vars) := by
  have hother : ∀ y ∈ ["conn", "identifier", "resource_type", "old_tags", "new_tags"], y ≠ x := by
    have hall : ∀ x ∈ ["removed_tags", "updated_tags", "request"],
        ∀ y ∈ ["conn", "identifier", "resource_type", "old_tags", "new_tags"], y ≠ x := by decide
    exact hall x hx
  refine ⟨h.toKnows.declare fun hm => hother x ?_ rfl, (lookup_declared (hother _ (by decide))).trans h.old,
    (lookup_declared (hother _ (by decide))).trans h.new⟩
  exact List.mem_append_left ["old_tags", "new_tags"] hm

/-- The variables when the sets of both directions are computed. -/
def withDifferences (u : Update) (vars : List (String × Value)) : List (String × Value) :=
  ("updated_tags", .tags (u.old.updated u.new)) :: ("removed_tags", .tags (u.old.removed u.new)) :: vars

theorem Converted.removed (h : Converted u vars) :
    Converted u (("removed_tags", .tags (u.old.removed u.new)) :: vars) :=
  h.declare (by decide)

theorem Converted.differences (h : Converted u vars) :
    Converted u (withDifferences u vars) := h.removed.declare (by decide)

theorem lookup_removed : (withDifferences u vars).lookup "removed_tags" = some (.tags (u.old.removed u.new)) :=
  (lookup_declared (by decide)).trans List.lookup_cons_self

theorem lookup_updated : (withDifferences u vars).lookup "updated_tags" = some (.tags (u.old.updated u.new)) :=
  List.lookup_cons_self

/-- What is known of the payloads of an update. -/
structure Carries (u : Update) : Prop where
  tag : IsPayload (tagText u.service) "updated_tags" u.tagPayload
  untag : IsPayload (untagText u.service) "removed_tags" u.untagPayload

/-- The set of one direction is computed, then its requests are sent. -/
theorem performs_separate (hsize : u.service.batchSize ≠ some 0) (hv : Converted u vars) (hcarries : Carries u)
    (hss : ss ≠ [])
    (h : ∀ vars, Performs answer (execAll answer ss) vars ds w vars) :
    ∃ left, Performs answer
      (execAll answer (separateStmts u.service (u.tagPayload.expr "updated_tags") (u.untagPayload.expr "removed_tags") ++ ss))
      vars ((partCalls u.service.batchSize (.untag u.service.untagOperation) (u.old.removed u.new)).map u.dispatch ++
        ((partCalls u.service.batchSize (.tag u.service.tagOperation) (u.old.updated u.new)).map u.dispatch ++ ds)) w left := by
  have huntagRequest : ∀ b vars, Knows u vars → vars.lookup "removed_tags" = some (.tags b) →
      Performs answer (eval answer (requestExpr u.service u.service.untagOperation u.service.untagTagsField
          (u.untagPayload.expr "removed_tags") "untagging")) vars
        [u.dispatch (.untag u.service.untagOperation b.withoutReserved)] .unit vars := fun b vars hknows hb =>
    performs_request hknows (fun source => rfl) hcarries.untag hb
  have htagRequest : ∀ b vars, Knows u vars → vars.lookup "updated_tags" = some (.tags b) →
      Performs answer (eval answer (requestExpr u.service u.service.tagOperation u.service.tagsField
          (u.tagPayload.expr "updated_tags") "tagging")) vars
        [u.dispatch (.tag u.service.tagOperation b.withoutReserved)] .unit vars := fun b vars hknows hb =>
    performs_request hknows (fun source => rfl) hcarries.tag hb
  have htag := performs_direction hsize hv.differences.toKnows (by decide) lookup_updated hss htagRequest (h _)
  have huntag := performs_direction hsize hv.removed.toKnows (by decide) List.lookup_cons_self (by simp) huntagRequest
    (performs_difference "updated" hv.removed.old hv.removed.new rfl (by decide) htag)
  unfold separateStmts partCalls
  rw [List.map_map, List.map_map]
  exact ⟨_, performs_difference "removed" hv.old hv.new rfl (by decide) huntag⟩

/-! ## The combined body -/

theorem assignIn_first (v w : Value) (vars : List (String × Value)) :
    assignIn x v ((x, w) :: vars) = some ((x, v) :: vars) := by
  rw [assignIn, if_pos rfl]

/-- A field of the request is set if a set has tags. -/
theorem performs_set (fields : List (String × Value)) (field : String) (hp : IsPayload text tags p)
    (htags : tags ≠ "request") (hss : ss ≠ [])
    (ht : vars.lookup tags = some (.tags t))
    (h : Performs answer (execAll answer ss) (("request", .request operation
      (fields ++ if t.isEmpty then [] else [(setter field, .present (p.value t.withoutReserved))])) :: vars) ds w left) :
    Performs answer (execAll answer (setStmt tags field (p.expr tags) :: ss))
      (("request", .request operation fields) :: vars) ds w left := by
  have hlookup : (("request", .request operation fields) :: vars).lookup tags = some (.tags t) :=
    (lookup_declared htags).trans ht
  have hset : Yields answer (.method (.names ["request"]) (setter field) [] [someOf (p.expr tags)])
      (("request", .request operation fields) :: vars)
      (.request operation (fields ++ [(setter field, .present (p.value t.withoutReserved))])) :=
    yields_set (.name List.lookup_cons_self) (hp.yields answer _ t hlookup)
  cases hempty : t.isEmpty with
  | true =>
    rw [hempty, if_pos rfl, List.append_nil] at h
    exact performs_unlessEmpty hlookup hss (fun hfull => by rw [hempty] at hfull; cases hfull) (fun _ => ⟨rfl, rfl⟩) rfl h
  | false =>
    rw [hempty, if_neg Bool.false_ne_true] at h
    have hbody := performs_expr (performs_assign hset (assignIn_first _ _ _)) (.inr rfl) performs_nil
    exact performs_unlessEmpty hlookup hss (fun _ => hbody) (fun hnone => by rw [hempty] at hnone; cases hnone) rfl h

theorem yields_nothingToDo :
    Yields answer (.binary "&&" (.method (.names ["removed_tags"]) "is_empty" [] [])
      (.method (.names ["updated_tags"]) "is_empty" [] [])) (withDifferences u vars)
      (.truth ((u.old.removed u.new).isEmpty && (u.old.updated u.new).isEmpty)) :=
  (yields_isEmpty lookup_removed).and (yields_isEmpty lookup_updated)

/-- The dispatch of the one call, with the fields as the body sets them. -/
theorem dispatch_combined (u : Update) :
    u.dispatch (.combined u.service.tagOperation (u.old.updated u.new).withoutReserved
        (u.old.removed u.new).withoutReserved.keys) =
      ⟨⟨Text.snakeCase u.service.tagOperation, u.resourceFields ++
        (if (u.old.updated u.new).isEmpty then [] else [u.tagsField (u.old.updated u.new).withoutReserved]) ++
        (if (u.old.removed u.new).isEmpty then [] else [u.untagTagsField (u.old.removed u.new).withoutReserved])⟩,
        .tagging u.identifier⟩ := by
  have hrequest : u.request (.combined u.service.tagOperation (u.old.updated u.new).withoutReserved
      (u.old.removed u.new).withoutReserved.keys) = ⟨Text.snakeCase u.service.tagOperation, _⟩ := rfl
  rw [Update.dispatch, hrequest, Update.callFields, filter_removedKeys, List.append_assoc]
  rfl

/-- The two sets are computed, then one request is sent if there is anything to do. -/
theorem performs_combined (hv : Converted u vars) (hcarries : Carries u)
    (hwork : ((u.old.removed u.new).isEmpty && (u.old.updated u.new).isEmpty) = false)
    (h : ∀ vars, Performs answer (execAll answer ss) vars ds w vars) :
    ∃ left, Performs answer
      (execAll answer (combinedStmts u.service (u.tagPayload.expr "updated_tags") (u.untagPayload.expr "removed_tags") ++ ss))
      vars (u.dispatch (.combined u.service.tagOperation (u.old.updated u.new).withoutReserved
        (u.old.removed u.new).withoutReserved.keys) :: ds) w left := by
  have hstop : Yields answer _ (withDifferences u vars) (.truth _) := yields_nothingToDo
  rw [hwork] at hstop
  have hsent : ∀ fields, Performs answer (eval answer (sentExpr "tagging" (.names ["request"])))
      (("request", .request (Text.snakeCase u.service.tagOperation) fields) :: withDifferences u vars)
      [⟨⟨Text.snakeCase u.service.tagOperation, fields⟩, .tagging u.identifier⟩] .unit
      (("request", .request (Text.snakeCase u.service.tagOperation) fields) :: withDifferences u vars) := fun fields =>
    performs_sent (hv.differences.declare (by decide)).toKnows (fun source => rfl) (.name List.lookup_cons_self)
  have hset := performs_set u.resourceFields u.service.tagsField hcarries.tag (by decide) (by simp) lookup_updated <|
    performs_set _ u.service.untagTagsField hcarries.untag (by decide) (by simp) lookup_removed <|
    performs_expr (hsent _) (.inr rfl) (h _)
  rw [dispatch_combined]
  unfold combinedStmts
  exact ⟨_, performs_difference "removed" hv.old hv.new rfl (by decide) <|
    performs_difference "updated" hv.removed.old hv.removed.new rfl (by decide) <|
    performs_expr (performs_conditional_skip hstop) (.inl (by simp)) <|
    performs_binding (yields_new hv.differences.toKnows) hset⟩

/-- A body with one request leaves at once if there is nothing to do. -/
theorem leaves_combined (hv : Converted u vars)
    (hwork : ((u.old.removed u.new).isEmpty && (u.old.updated u.new).isEmpty) = true) (tagValue untagValue : Expr) :
    Leaves (execAll answer (combinedStmts u.service tagValue untagValue ++ ss)) vars (.success .unit) := by
  have hstop : Yields answer _ (withDifferences u vars) (.truth _) := yields_nothingToDo
  rw [hwork] at hstop
  unfold combinedStmts
  exact leaves_binding ((Yields.name hv.old).give (Yields.name hv.new).reference (by decide) rfl) <|
    leaves_binding ((Yields.name hv.removed.old).give (Yields.name hv.removed.new).reference (by decide) rfl) <|
    leaves_expr <| leaves_conditional hstop <| leaves_expr <| leaves_ret yields_done

/-! ## The whole body -/

/-- The variables when the arguments are converted. -/
def converted (u : Update) : List (String × Value) :=
  ("new_tags", .tags u.new) :: ("old_tags", .tags u.old) :: arguments u.identifier u.resourceType u.old u.new

theorem converted_converted (u : Update) : Converted u (converted u) := ⟨⟨rfl, rfl, rfl⟩, rfl, rfl⟩

theorem performs_body {body : List Stmt}
    (h : Performs answer (execAll answer (body ++ [.expr doneExpr false])) (converted u) ds
      v left) :
    Performs answer (execAll answer ([convertStmt "old_tags", convertStmt "new_tags"] ++ body ++ [.expr doneExpr false]))
      (arguments u.identifier u.resourceType u.old u.new) ds v left := by
  rw [List.append_assoc]
  exact performs_binding ((Yields.name rfl).invoke rfl) (performs_binding ((Yields.name rfl).invoke rfl) h)

theorem leaves_body {body : List Stmt} (h : Leaves (execAll answer (body ++ [.expr doneExpr false])) (converted u) v) :
    Leaves (execAll answer ([convertStmt "old_tags", convertStmt "new_tags"] ++ body ++ [.expr doneExpr false]))
      (arguments u.identifier u.resourceType u.old u.new) v := by
  rw [List.append_assoc]
  exact leaves_binding ((Yields.name rfl).invoke rfl) (leaves_binding ((Yields.name rfl).invoke rfl) h)

/-- The statements of a body send the requests of the plan, in its order. -/
theorem runUpdate_bodyStmts (hsize : u.service.batchSize ≠ some 0) (hcarries : Carries u) {calls : List PlannedCall}
    (hplan : plan u.service u.old u.new = .ok calls) (answer : Answer) :
    runUpdate answer (bodyStmts u.service (u.tagPayload.expr "updated_tags") (u.untagPayload.expr "removed_tags"))
      u.identifier u.resourceType u.old u.new = some (dispatchAll answer [] (calls.map u.dispatch)) := by
  have hdone : ∀ vars, Performs answer (execAll answer [.expr doneExpr false]) vars [] (.success .unit) vars :=
    fun vars => performs_last yields_done.performs
  unfold bodyStmts
  cases hsingle : u.service.usesSingleEndpoint with
  | false =>
    rw [plan_separate hsingle hsize] at hplan
    obtain rfl := Except.ok.inj hplan
    obtain ⟨left, hbody⟩ := performs_separate hsize (converted_converted u) hcarries (by simp) hdone
    rw [List.append_nil, ← List.map_append] at hbody
    exact runUpdate_of_performs (performs_body hbody)
  | true =>
    rw [plan_combined hsingle] at hplan
    obtain rfl := Except.ok.inj hplan
    cases hwork : (u.old.removed u.new).isEmpty && (u.old.updated u.new).isEmpty with
    | true =>
      rw [if_pos rfl]
      exact runUpdate_of_leaves (leaves_body (leaves_combined (converted_converted u) hwork _ _))
    | false =>
      obtain ⟨left, hbody⟩ := performs_combined (converted_converted u) hcarries hwork hdone
      rw [if_neg Bool.false_ne_true]
      exact runUpdate_of_performs (performs_body hbody)

end Retag.SourceUnit
