/-
The items of a unit, laid out, are read back: the imports of the crates, what the functions
share, and the function of a service with any call in the places of its operations. Here
nothing is asked of the length of names, on which the lines depend.
-/
import Retag.Proofs.Code.PrintedItems
import Retag.Proofs.SourceUnit.Admissible

namespace Retag.SourceUnit

open Code

variable {service : Service} {e call tagCall untagCall tagExpr untagExpr v : Expr} {tags failure conversion : String}
  {p : Payload} {t : Ty}

/-! ## Expressions -/

/-- The words that are the same in the function of every service. -/
def functionLabels : List String :=
  ["Some", "identifier", "to_owned", "resource_type", "into", "UpdateTagsError", "err", "map_err", "send", "Ok", "ignore_aws",
    "types", "builder", "build", "keys", "tagging", "untagging", "is_empty", "chunks", "KeyValueTags", "old_tags", "new_tags",
    "removed_tags", "updated_tags", "removed", "updated", "request", "conn", "str", "Into", "Result", "Client"]

theorem functionLabels_words : ∀ x ∈ functionLabels, IsIdentifier x ∧ isName x = true := by decide

theorem label {x : String} (h : x ∈ functionLabels) : IsLabel x :=
  .of_word (functionLabels_words x h)

theorem label_setter {field : String} (h : ∀ c ∈ field.toList, Text.isIdentifierPart c = true) : IsLabel (setter field) :=
  .of_word ⟨isIdentifier_setter h, isName_setter field⟩

theorem prints_someOf (h : PrintsExpr e) : PrintsChain true (someOf e) :=
  (PrintsChain.name (label (by decide))).call (.of_exprs (by simpa using h))

/-- A method that is given a value. -/
theorem prints_give {m : String} {headed : Bool} (he : PrintsChain headed e) (hm : IsLabel m) (hv : PrintsExpr v) :
    PrintsChain headed (.method e m [] [someOf v]) :=
  he.method hm (.of_exprs (by simpa using (prints_someOf hv).expr))

theorem prints_invoke {x m : String} (hx : IsLabel x) (hm : IsLabel m) : PrintsChain true (.method (.names [x]) m [] []) :=
  (PrintsChain.name hx).method hm .nil

theorem prints_identifier (service : Service) : PrintsExpr
    (if service.identifierIsSequence then
      .macroCall ⟨["vec"], false, .square,
        [.word "identifier", .sign '.' false, .word "to_owned", .opening .parenthesis, .closing .parenthesis]⟩
    else .method (.names ["identifier"]) "to_owned" [] []) := by
  split
  · exact .list (functionLabels_words _ (by decide)).1 (functionLabels_words _ (by decide)).1 (by decide)
  · exact (prints_invoke (label (by decide)) (label (by decide))).expr

theorem prints_resource (h : Spelled service) (hcall : PrintsChain true call) :
    PrintsChain true (resourceExpr service call) := by
  have hidentified : PrintsChain true (.method call (setter service.identifierField) [] [identifierExpr service]) :=
    prints_give hcall (label_setter h.identifierField) (prints_identifier service)
  unfold resourceExpr
  cases hfield : resourceType? service with
  | none => exact hidentified
  | some field =>
    have hinto : PrintsExpr (.method (.names ["resource_type"]) "into" [] []) :=
      (prints_invoke (label (by decide)) (label (by decide))).expr
    exact prints_give hidentified (label_setter (h.resourceType field hfield)) hinto

theorem prints_checked {headed : Bool} (hfailure : IsLabel failure) (h : PrintsChain headed e) :
    PrintsChain headed (checkedExpr failure e) := by
  have hnames : ∀ x ∈ ["UpdateTagsError", failure], IsLabel x := by simpa using ⟨label (by decide), hfailure⟩
  have hidentifier : PrintsExpr (.names ["identifier"]) := (PrintsChain.name (label (by decide))).expr
  have herr : PrintsExpr (.names ["err"]) := (PrintsChain.name (label (by decide))).expr
  have htold : PrintsExpr (.call (.names ["UpdateTagsError", failure]) [.names ["identifier"], .names ["err"]]) :=
    ((PrintsChain.path (by simp) hnames).call (.of_exprs (by simpa using ⟨hidentifier, herr⟩))).expr
  exact (h.method (label (by decide)) (.of_exprs (by simpa using PrintsExpr.closure (label (by decide)) rfl htold))).attempt

theorem prints_sent (hfailure : IsLabel failure) (h : PrintsChain true e) : PrintsChain true (sentExpr failure e) :=
  prints_checked hfailure (h.method (label (by decide)) .nil).await

theorem prints_request {tagsField : String} (h : Spelled service) (hcall : PrintsChain true call)
    (hfield : ∀ c ∈ tagsField.toList, Text.isIdentifierPart c = true) (hv : PrintsExpr v) (hfailure : IsLabel failure) :
    PrintsChain true (requestOf service call tagsField v failure) :=
  prints_sent hfailure (prints_give (prints_resource h hcall) (label_setter hfield) hv)

theorem prints_doneExpr : PrintsChain true doneExpr :=
  (PrintsChain.name (label (by decide))).call (.of_exprs (by simpa using PrintsExpr.unit))

/-! ### Values that carry tags -/

/-- The names that a payload is made with. -/
def Payload.names : Payload → List String
  | .converted conversion => [conversion]
  | .built crate type field conversion | .checked crate type field conversion => [crate, type, field, conversion]

theorem prints_conversion (htags : IsLabel tags) (hconversion : IsLabel conversion) :
    PrintsChain true (conversionExpr tags conversion) :=
  (prints_invoke htags (label (by decide))).method hconversion .nil

theorem prints_built {crate type field : String} (hcrate : IsLabel crate) (htype : IsLabel type) (hfield : IsLabel field)
    (hv : PrintsExpr v) : PrintsChain false (builtExpr [crate, "types", type] field v) := by
  have hnames : ∀ x ∈ [crate, "types", type, "builder"], IsLabel x := by
    simpa using ⟨hcrate, label (by decide), htype, label (by decide)⟩
  exact (prints_give ((PrintsChain.path (by simp) hnames).call .nil) hfield hv).method (label (by decide)) .nil

theorem prints_payload (htags : IsLabel tags) (h : ∀ x ∈ p.names, IsLabel x) : PrintsExpr (p.expr tags) := by
  cases p with
  | converted conversion => exact (prints_conversion htags (h _ (by simp [Payload.names]))).expr
  | built crate type field conversion =>
    simp only [Payload.names, List.forall_mem_cons] at h
    obtain ⟨hcrate, htype, hfield, hconversion, -⟩ := h
    exact (prints_built hcrate htype hfield (prints_conversion htags hconversion).expr).expr
  | checked crate type field conversion =>
    simp only [Payload.names, List.forall_mem_cons] at h
    obtain ⟨hcrate, htype, hfield, hconversion, -⟩ := h
    exact (prints_checked (label (by decide)) (prints_built hcrate htype hfield (prints_conversion htags hconversion).expr)).expr

theorem customPayload_names {expressions : String → Option String} {payloads : List (String × Payload)}
    (hnames : ∀ q ∈ payloads, ∀ x ∈ q.2.names, IsIdentifier x ∧ isName x = true) {expr : String}
    (h : customPayload? expressions payloads expr = some p) : ∀ x ∈ p.names, IsLabel x := by
  obtain ⟨q, hq, rfl⟩ := Option.map_eq_some_iff.1 h
  exact fun x hx => .of_word (hnames q (List.mem_of_find?_eq_some hq) x hx)

theorem tagPayload_names (hname : IsIdentifier service.name) (h : tagPayload? service = some p) : ∀ x ∈ p.names, IsLabel x := by
  unfold tagPayload? at h
  split at h
  · obtain rfl := Option.some.inj h
    simpa [Payload.names] using IsLabel.of_word (conversion_word hname (by decide))
  · exact customPayload_names (by decide) h

theorem untagPayload_names (hname : IsIdentifier service.name) (h : untagPayload? service = some p) :
    ∀ x ∈ p.names, IsLabel x := by
  unfold untagPayload? at h
  split at h
  · obtain rfl := Option.some.inj h
    simpa [Payload.names] using IsLabel.of_word (conversion_word hname (by decide))
  · obtain rfl := Option.some.inj h
    simpa [Payload.names] using IsLabel.of_word (conversion_word hname (by decide))
  · exact customPayload_names (by decide) h
  · obtain rfl := Option.some.inj h
    simpa [Payload.names] using label (by decide)

/-! ## Statements -/

theorem prints_isEmpty (htags : IsLabel tags) : PrintsChain true (.method (.names [tags]) "is_empty" [] []) :=
  prints_invoke htags (label (by decide))

theorem prints_convert {x : String} (hx : IsLabel x) : PrintsStmt (convertStmt x) :=
  .binding (.typed hx (label (by decide))) (prints_invoke hx (label (by decide))).expr

theorem prints_difference {x difference : String} (hx : IsLabel x) (hdifference : IsLabel difference) :
    PrintsStmt (differenceStmt x difference) := by
  have hnew : PrintsExpr (.reference false (.names ["new_tags"])) :=
    (PrintsUnary.reference (PrintsChain.name (label (by decide)))).expr
  exact .binding (.name hx) ((PrintsChain.name (label (by decide))).method hdifference (.of_exprs (by simpa using hnew))).expr

theorem prints_unlessEmpty {s : Stmt} (htags : IsLabel tags) (hs : PrintsStmt s) : PrintsStmt (unlessEmpty tags [s]) :=
  .when (prints_isEmpty htags).unary.not.expr hs .nil

theorem prints_direction (htags : IsLabel tags) (h : PrintsChain true e) (hdrops : e.dropsSemicolon = false)
    (hcalled : ∀ m, e ≠ .macroCall m) : PrintsStmt (directionStmt service tags e) := by
  have hrequest : PrintsStmt (.expr e true) := .expr h.opening hdrops hcalled
  refine prints_unlessEmpty htags ?_
  unfold partsStmt
  split
  next n _ =>
    have hbatches : PrintsExpr (.attempt (.method (.names [tags]) "chunks" [] [.literal (toString n)])) :=
      ((PrintsChain.name htags).method (label (by decide)) (.of_exprs (by simpa using PrintsExpr.number n))).attempt.expr
    exact .loop htags hbatches hrequest .nil
  next => exact hrequest

theorem prints_stop : PrintsStmt stopStmt := by
  have hreturn : PrintsStmt (.expr (.ret (some doneExpr)) true) := .expr (.ret prints_doneExpr) rfl (by simp)
  exact .when (.and (prints_isEmpty (label (by decide))).unary (prints_isEmpty (label (by decide))).unary) hreturn .nil

theorem prints_set {field : String} (htags : IsLabel tags) (hfield : ∀ c ∈ field.toList, Text.isIdentifierPart c = true)
    (hv : PrintsExpr v) : PrintsStmt (setStmt tags field v) := by
  have hvalue := prints_give (PrintsChain.name (label (by decide : "request" ∈ functionLabels))) (label_setter hfield) hv
  exact prints_unlessEmpty htags (.expr (.assign (PrintsChain.name (label (by decide))) hvalue.unary) rfl (by simp))

/-! ## The function -/

/-- What is read back of a service's calls and values. -/
structure PrintsParts (tagCall untagCall tagExpr untagExpr : Expr) : Prop where
  tagCall : PrintsChain true tagCall
  untagCall : PrintsChain true untagCall
  tag : PrintsExpr tagExpr
  untag : PrintsExpr untagExpr

theorem prints_separate (h : Spelled service) (hparts : PrintsParts tagCall untagCall tagExpr untagExpr) {ss : List Stmt}
    (hss : PrintsStmts ss) : PrintsStmts (separateOf service tagCall untagCall tagExpr untagExpr ++ ss) := by
  have hdifference : ∀ {x difference : String}, x ∈ functionLabels → difference ∈ functionLabels →
      PrintsStmt (differenceStmt x difference) := fun hx hd => prints_difference (label hx) (label hd)
  have hdirection : ∀ {tags tagsField failure : String} {call v : Expr}, tags ∈ functionLabels → failure ∈ functionLabels →
      PrintsChain true call → (∀ c ∈ tagsField.toList, Text.isIdentifierPart c = true) → PrintsExpr v →
      PrintsStmt (directionStmt service tags (requestOf service call tagsField v failure)) :=
    fun htags hfailure hcall hfield hv => prints_direction (label htags) (prints_request h hcall hfield hv (label hfailure)) rfl
      (by simp [requestOf, sentExpr, checkedExpr])
  exact .cons (hdifference (by decide) (by decide))
    (.cons (hdirection (by decide) (by decide) hparts.untagCall h.untagTagsField hparts.untag)
      (.cons (hdifference (by decide) (by decide))
        (.cons (hdirection (by decide) (by decide) hparts.tagCall h.tagsField hparts.tag) hss)))

theorem prints_combined (h : Spelled service) (hparts : PrintsParts tagCall untagCall tagExpr untagExpr) {ss : List Stmt}
    (hss : PrintsStmts ss) : PrintsStmts (combinedOf service tagCall tagExpr untagExpr ++ ss) := by
  have hremoved : PrintsStmt (differenceStmt "removed_tags" "removed") := prints_difference (label (by decide)) (label (by decide))
  have hupdated : PrintsStmt (differenceStmt "updated_tags" "updated") := prints_difference (label (by decide)) (label (by decide))
  have hdeclare : PrintsStmt (declareOf service tagCall) :=
    .binding (.mutable (label (by decide))) (prints_resource h hparts.tagCall).expr
  have hsent : PrintsStmt (.expr (sentExpr "tagging" (.names ["request"])) true) :=
    .expr (prints_sent (label (by decide)) (PrintsChain.name (label (by decide)))).opening rfl (by simp [sentExpr, checkedExpr])
  have hset : PrintsStmt (setStmt "updated_tags" service.tagsField tagExpr) :=
    prints_set (label (by decide)) h.tagsField hparts.tag
  have hunset : PrintsStmt (setStmt "removed_tags" service.untagTagsField untagExpr) :=
    prints_set (label (by decide)) h.untagTagsField hparts.untag
  exact .cons hremoved (.cons hupdated (.cons prints_stop (.cons hdeclare (.cons hset (.cons hunset (.cons hsent hss))))))

theorem prints_bodyOf (h : Spelled service) (hparts : PrintsParts tagCall untagCall tagExpr untagExpr) :
    ∃ ss, bodyOf service tagCall untagCall tagExpr untagExpr = convertStmt "old_tags" :: ss ∧ PrintsStmts ss := by
  have hdone : PrintsStmts [.expr doneExpr false] := .value prints_doneExpr.opening rfl (by simp [doneExpr])
  refine ⟨_, rfl, .cons (prints_convert (label (by decide))) ?_⟩
  cases service.usesSingleEndpoint with
  | true => exact prints_combined h hparts hdone
  | false => exact prints_separate h hparts hdone

theorem prints_typeName {x : String} (hx : x ∈ functionLabels) : PrintsTypePath [.mk x []] :=
  .name (label hx).spells (inPath_of_name (label hx).name)

theorem prints_textTy : PrintsTy textTy := (prints_typeName (by decide)).reference

theorem prints_tagsTy : PrintsTy tagsTy := by
  have hset : PrintsTy (.path [.mk "KeyValueTags" []] false) := (prints_typeName (by decide)).ty
  exact (PrintsTypePath.applied (label (by decide)) (by simpa using hset) (by simp) (by simp)).bounded

theorem prints_result : PrintsTy (.path [.mk "Result" [.tuple [], .path [.mk "UpdateTagsError" []] false]] false) := by
  have herror : PrintsTy (.path [.mk "UpdateTagsError" []] false) := (prints_typeName (by decide)).ty
  exact (PrintsTypePath.applied (label (by decide)) (by simpa using ⟨PrintsTy.unit, herror⟩) (by simp) (by simp)).ty

theorem prints_parametersWith (ht : PrintsTy t) : ∀ b ∈ (signatureWith service t).parameters, PrintsParameter b := by
  have htext : ∀ {x : String}, x ∈ functionLabels → PrintsParameter (parameter x textTy) :=
    fun hx => .typed (label hx) prints_textTy
  have htags : ∀ {x : String}, x ∈ functionLabels → PrintsParameter (parameter x tagsTy) :=
    fun hx => .typed (label hx) prints_tagsTy
  simp only [signatureWith, List.forall_mem_cons, List.forall_mem_append]
  refine ⟨.typed (label (by decide)) ht, htext (by decide), ?_, htags (by decide), htags (by decide), by simp⟩
  split
  · simpa using htext (by decide)
  · simp

theorem functionDocs_isDocLine (h : IsIdentifier service.name) : ∀ s ∈ functionDocs service, IsDocLine s := by
  have hlast : ∀ s ∈ functionDocs service, s.toList.getLast? ≠ some ' ' := by
    simp only [functionDocs, List.forall_mem_cons]
    refine ⟨?_, by decide, by decide, by decide, by simp⟩
    rw [String.toList_append, List.getLast?_append_of_ne_nil _ (by decide)]
    decide
  exact fun s hs => ⟨(functionDocs_lines h s hs).1, (functionDocs_lines h s hs).2, hlast s hs⟩

theorem functionDocs_unmarked (h : IsIdentifier service.name) : ∀ s ∈ functionDocs service, Unmarked ("///" ++ s).toList := by
  have hstrokes : ∀ s ∈ functionDocs service, '/' ∉ s.toList ∧ s.toList.take 2 ≠ [' ', 'C'] := by
    simp only [functionDocs, List.forall_mem_cons]
    refine ⟨⟨?_, ?_⟩, by decide, by decide, by decide, by simp⟩
    · simp [String.toList_append, h.noStroke]
    · simp [String.toList_append]
  intro s hs
  obtain ⟨hstroke, hfirst⟩ := hstrokes s hs
  have hlist : ("///" ++ s).toList = '/' :: '/' :: '/' :: s.toList := by simp
  rw [hlist]
  exact unmarked_doc hstroke hfirst

/-- **The function of a service is read back.** -/
theorem prints_functionWith (hname : IsIdentifier service.name) (h : Spelled service) (ht : PrintsTy t)
    (hparts : PrintsParts tagCall untagCall tagExpr untagExpr) :
    PrintsItem (functionWith service t (bodyOf service tagCall untagCall tagExpr untagExpr)) := by
  have hlabel : IsLabel (service.name ++ "_update_tags") := .of_word ⟨isIdentifier_function hname, isName_function _⟩
  obtain ⟨ss, hbody, hss⟩ := prints_bodyOf h hparts
  rw [hbody]
  exact .function (functionDocs_isDocLine hname) (functionDocs_unmarked hname) hlabel (prints_parametersWith ht)
    (List.cons_ne_nil _ _) prints_result (prints_convert (label (by decide))) hss

/-! ## Imports -/

theorem prints_importItem (hpackage : SpellsWord service.tagPackage) (halias : SpellsWord service.crateAlias)
    (h : IsPart (importText service) (importItem service)) : PrintsItem (importItem service) := by
  refine ⟨⟨"use " ++ service.tagPackage ++ " as " ++ service.crateAlias ++ ";", ?_, ?_⟩, unmarked_of_noStroke ?_⟩
  · rw [importItem_line, show ";\n" = ";" ++ "\n" by simp]
    simp only [String.append_assoc]
  · have htext : "\n" ++ ("use " ++ service.tagPackage ++ " as " ++ service.crateAlias ++ ";") = importText service := by
      unfold importText
      rw [show "\nuse " = "\n" ++ "use " by simp]
      simp only [String.append_assoc]
    rw [htext]
    exact h.standsAs
  · rw [importItem_line]
    simp [hpackage.noStroke, halias.noStroke]

theorem prints_sharedItem : PrintsItem sharedItem := by
  have hpiece : IsPiece "\nuse tagsync_tags::\x7bKeyValueTags, UpdateTagsError\x7d;" sharedTokens := .ofList (by decide +kernel)
  have hpart := isPart_of_piece hpiece rfl (fun _ => rfl) fun rest => .grouped rfl rfl rfl rest
  refine ⟨⟨"use tagsync_tags::\x7bKeyValueTags, UpdateTagsError\x7d;", ?_, ?_⟩, unmarked_of_noStroke ?_⟩
  · rw [sharedItem_text, sharedLine]
    decide
  · rw [show "\n" ++ "use tagsync_tags::\x7bKeyValueTags, UpdateTagsError\x7d;" =
      "\nuse tagsync_tags::\x7bKeyValueTags, UpdateTagsError\x7d;" by decide]
    exact hpart.standsAs
  · rw [sharedItem_text]
    decide

end Retag.SourceUnit
