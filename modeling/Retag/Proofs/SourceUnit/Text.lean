/-
The text of a source unit, written out: what the template renders for services,
for all of them and with every choice it makes (`render_updateTags`). A limit of
zero and a resource type field without a name count as missing here, since a
condition on them does not hold.
-/
import Retag.SourceUnit.Basic

namespace Retag.SourceUnit

open Template (Scope Expr)

variable {service : Service}

/-! ## Parts of the text -/

/-- The limit that the template sees. -/
def limit? (service : Service) : Option Nat := service.batchSize.filter (· != 0)

/-- The field of the resource type that the template sees. -/
def resourceType? (service : Service) : Option String := service.resourceTypeField.filter (!·.isEmpty)

/-- The method that sets a field of a request. -/
def setter (field : String) : String := "set_" ++ Text.snakeCase field

def identifierText (service : Service) : String :=
  if service.identifierIsSequence then "(Some(vec![identifier.to_owned()]))" else "(Some(identifier.to_owned()))"

/-- The calls that set the identifier and the resource type. -/
def resourceText (margin : String) (service : Service) : String :=
  margin ++ "." ++ setter service.identifierField ++ identifierText service ++
    match resourceType? service with
    | some field => margin ++ "." ++ setter field ++ "(Some(resource_type.into()))"
    | none => ""

/-- The value that carries the tags to set. -/
def tagText (service : Service) : String :=
  match service.tagValue with
  | .custom expr => expr
  | .conventional => "updated_tags.ignore_aws()." ++ (service.name ++ "_tags") ++ "()"

/-- The value that carries the tags to remove. -/
def untagText (service : Service) : String :=
  match service.untagValue with
  | .fullTags => "removed_tags.ignore_aws()." ++ (service.name ++ "_tags") ++ "()"
  | .keyObjects => "removed_tags.ignore_aws()." ++ (service.name ++ "_tag_keys") ++ "()"
  | .custom expr => expr
  | .keys => "removed_tags.ignore_aws().keys()"

def sendText (margin failure : String) : String :=
  margin ++ ".send()" ++ margin ++ ".await" ++ margin ++ ".map_err(|err| UpdateTagsError::" ++ failure ++
    "(identifier, err))?;"

/-- The request of one direction. -/
def requestText (service : Service) (operation tagsField value failure : String) : String :=
  "\n        conn." ++ Text.snakeCase operation ++ "()" ++ resourceText "\n            " service ++
    "\n            ." ++ setter tagsField ++ ("(Some(" ++ value) ++ "))" ++ sendText "\n            " failure

/-- The request of one direction where it stands, in a loop if there is a limit. -/
def directionText (service : Service) (tags operation tagsField value failure : String) : String :=
  "\n    if !" ++ tags ++ ".is_empty() \x7b" ++
    (match limit? service with
      | some n => "\n        for " ++ tags ++ " in " ++ tags ++ ".chunks(" ++ toString n ++ ")? \x7b" ++
          requestText service operation tagsField value failure ++ "\n        \x7d"
      | none => requestText service operation tagsField value failure) ++
    "\n    \x7d"

def separateText (service : Service) : String :=
  "\n\n    let removed_tags = old_tags.removed(&new_tags);" ++
    directionText service "removed_tags" service.untagOperation service.untagTagsField (untagText service) "untagging" ++
    "\n\n    let updated_tags = old_tags.updated(&new_tags);" ++
    directionText service "updated_tags" service.tagOperation service.tagsField (tagText service) "tagging"

def combinedText (service : Service) : String :=
  "\n    let removed_tags = old_tags.removed(&new_tags);" ++ "\n    let updated_tags = old_tags.updated(&new_tags);" ++
    "\n\n    if removed_tags.is_empty() && updated_tags.is_empty() \x7b" ++ "\n        return Ok(());" ++ "\n    \x7d" ++
    "\n\n    let mut request = conn" ++ "\n        ." ++ Text.snakeCase service.tagOperation ++ "()" ++
    resourceText "\n        " service ++
    ";\n\n    if !updated_tags.is_empty() \x7b\n        request = request." ++ setter service.tagsField ++
    ("(Some(" ++ tagText service) ++
    "));\n    \x7d\n\n    if !removed_tags.is_empty() \x7b\n        request = request." ++ setter service.untagTagsField ++
    ("(Some(" ++ untagText service) ++ "));\n    \x7d\n\n    request" ++ sendText "\n        " "tagging"

/-- The body of the function of a service. -/
def bodyText (service : Service) : String :=
  "\x7b" ++ "\n    let old_tags: KeyValueTags = old_tags.into();" ++
    "\n    let new_tags: KeyValueTags = new_tags.into();" ++
    (if service.usesSingleEndpoint then combinedText service else separateText service) ++ "\n\n    Ok(())\n\x7d"

/-- What stands before the body: the documentation and the signature. -/
def headText (service : Service) : String :=
  "\n/// Updates " ++ service.name ++ " service tags.\n///\n" ++
    "/// The identifier is typically the Amazon Resource Name (ARN), although\n" ++
    "/// it may also be a different identifier depending on the service.\n" ++
    "pub async fn " ++ service.name ++ "_update_tags(" ++ "\n    conn: &" ++ service.clientType ++
    ",\n    identifier: &str," ++ (if (resourceType? service).isSome then "\n    resource_type: &str," else "") ++
    "\n    old_tags: impl Into<KeyValueTags>," ++ "\n    new_tags: impl Into<KeyValueTags>,"

/-- The end of the signature of every function. -/
def resultText : String := "\n) -> Result<(), UpdateTagsError> "

def functionText (service : Service) : String := headText service ++ resultText ++ bodyText service ++ "\n"

def importText (service : Service) : String := "\nuse " ++ service.tagPackage ++ " as " ++ service.crateAlias ++ ";"

/-- The import of what the functions share. -/
def sharedImportText : String := "\n\nuse tagsync_tags::\x7bKeyValueTags, UpdateTagsError\x7d;\n"

/-! ## Looking up what the template names -/

/-- A scope in which the service at hand is the given one. -/
def Sees (scope : Scope) (service : Service) : Prop :=
  ∃ i n turns, scope.turns = ⟨"svc", service.toJson, i, n⟩ :: turns

variable {scope : Scope} {name choice kind : String} {v : Json}

theorem find_svc (h : Sees scope service) {k : String} {ks : List String} (hv : service.members.lookup k = some v)
    {w : Json} (hw : v.follow? ks = some w) : scope.find "svc" (k :: ks) = .ok w := by
  obtain ⟨i, n, turns, h⟩ := h
  have hfollow : service.toJson.follow? (k :: ks) = some w := by
    rw [Service.toJson, Json.follow?, hv, Option.bind_some, hw]
  have hturn : (Template.Turn.mk "svc" service.toJson i n).find? "svc" (k :: ks) = some w := by
    have hother : ¬"svc" = "loop" := by decide
    unfold Template.Turn.find?
    cases ks <;> simp only [hfollow, if_neg hother, if_true] <;> rfl
  have hfind : scope.find? "svc" (k :: ks) = some w := by
    rw [Scope.find?, h, List.findSome?_cons, hturn]
    rfl
  rw [Scope.find, hfind]

theorem value_member (h : Sees scope service) (hv : service.members.lookup name = some v) :
    (member name).value scope = .ok v :=
  find_svc h hv rfl

theorem value_method {field : String} (h : Sees scope service)
    (hv : service.members.lookup name = some (.string field)) :
    (method name).value scope = .ok (.string (Text.snakeCase field)) := by
  have hmember := value_member h hv
  unfold method
  rw [Template.Expr.value, hmember]
  rfl

theorem holds_member (h : Sees scope service) (hv : service.members.lookup name = some v) :
    (member name).holds scope = .ok v.isTruthy := by
  have hmember := value_member h hv
  have hsubject : (member name).subject = member name := rfl
  unfold Template.Expr.holds
  rw [hsubject, hmember]
  rfl

/-- The kind of a choice, and its expression. -/
theorem holds_kind {expr : Option String} (h : Sees scope service)
    (hv : service.members.lookup choice = some (.variant kind expr)) {other : String} {b : Bool}
    (hb : (kind == other) = b) : (kindIs choice other).holds scope = .ok b := by
  subst hb
  have hfind : scope.find "svc" [choice, "kind"] = .ok (.string kind) := find_svc h hv rfl
  have hvalue : (Expr.path (.member (.member (.variable "svc") choice) "kind")).value scope = .ok (.string kind) := hfind
  have hsubject : (kindIs choice other).subject = kindIs choice other := rfl
  unfold Template.Expr.holds
  rw [hsubject]
  unfold kindIs
  simp only [Template.Expr.value] at hvalue ⊢
  rw [hvalue]
  rfl

theorem value_customExpr {expr : String} (h : Sees scope service)
    (hv : service.members.lookup choice = some (.variant kind (some expr))) :
    (customExpr choice).value scope = .ok (.string expr) :=
  find_svc h hv rfl

/-! ## Rendering the parts -/

variable {rest yes no : Template} {t t' : String} {e : Template.Expr} {margin : String}

/-- A part of a template renders to a text wherever it stands. -/
def Renders (scope : Scope) (part : Template → Template) (t : String) : Prop :=
  ∀ rest, (part rest).render scope = (rest.render scope).map (t ++ ·)

theorem map_append (r : Except Template.Fault String) (t t' : String) :
    (r.map (t' ++ ·)).map (t ++ ·) = r.map (t ++ t' ++ ·) := by
  cases r with
  | error => rfl
  | ok r => simp only [Except.map, String.append_assoc]

theorem renders_text (t : String) : Renders scope (.text t) t := fun _ => rfl

theorem Renders.comp {part part' : Template → Template} (h : Renders scope part t) (h' : Renders scope part' t') :
    Renders scope (fun rest => part (part' rest)) (t ++ t') := by
  intro rest
  rw [h, h', map_append]

theorem renders_output (h : e.value scope = .ok v) : Renders scope (.output e) v.shown := by
  intro rest
  rw [Template.render, h]
  cases rest.render scope <;> rfl

theorem renders_fill (before after : String) (h : e.value scope = .ok v) :
    Renders scope (fill before e after) (before ++ v.shown ++ after) :=
  ((renders_text before).comp (renders_output h)).comp (renders_text after)

theorem Renders.done {part : Template → Template} (h : Renders scope part t) : (part .done).render scope = .ok t := by
  rw [h]
  exact congrArg Except.ok (String.append_empty ..)

/-- A choice renders to what the branch taken does. -/
theorem renders_choice {b : Bool} (h : e.holds scope = .ok b) (hbranch : (if b then yes else no).render scope = .ok t) :
    Renders scope (.choice e yes no) t := by
  intro rest
  rw [Template.render, h]
  cases b with
  | true =>
    have hbranch : yes.render scope = .ok t := hbranch
    simp only [bind, Except.bind, if_true, hbranch]
    cases rest.render scope <;> rfl
  | false =>
    have hbranch : no.render scope = .ok t := hbranch
    simp only [bind, Except.bind, Bool.false_eq_true, if_false, hbranch]
    cases rest.render scope <;> rfl

theorem renders_yes (h : e.holds scope = .ok true) (hyes : yes.render scope = .ok t) :
    Renders scope (.choice e yes no) t :=
  renders_choice h hyes

theorem renders_no (h : e.holds scope = .ok false) (hno : no.render scope = .ok t) :
    Renders scope (.choice e yes no) t :=
  renders_choice h hno

theorem renders_textIf {b : Bool} (h : e.holds scope = .ok b) (t : String) :
    Renders scope (textIf e t) (if b then t else "") := by
  cases b with
  | true => exact renders_choice h (renders_text t).done
  | false => exact renders_choice h rfl

/-- The field of the resource type where the template looks for it. -/
theorem holds_resourceType (h : Sees scope service) :
    (member "resource_type_field").holds scope = .ok (resourceType? service).isSome := by
  have hv : service.members.lookup "resource_type_field" = some (.ofOption service.resourceTypeField) := rfl
  rw [holds_member h hv, resourceType?]
  cases service.resourceTypeField with
  | none => rfl
  | some field => cases hf : field.isEmpty <;> simp [Json.ofOption, Json.isTruthy, Option.filter, hf]

/-- The limit where the template looks for it. -/
theorem holds_limit (h : Sees scope service) : (member "batch_size").holds scope = .ok (limit? service).isSome := by
  have hv : service.members.lookup "batch_size" = some (match service.batchSize with
    | some n => .number (.natural n)
    | none => .null) := rfl
  rw [holds_member h hv, limit?]
  cases service.batchSize with
  | none => rfl
  | some n => cases hn : n != 0 <;> simp [Json.isTruthy, Option.filter, hn]

theorem renders_setResource (h : Sees scope service) (margin : String) :
    Renders scope (setResource margin) (resourceText margin service) := by
  have hidentifier : (method "identifier_field").value scope = .ok (.string (Text.snakeCase service.identifierField)) :=
    value_method h rfl
  have hsequence : (member "identifier_is_sequence").holds scope = .ok service.identifierIsSequence :=
    holds_member h (v := .bool service.identifierIsSequence) rfl
  have hset : Renders scope (.choice (member "identifier_is_sequence")
      (fill (margin ++ ".set_") (method "identifier_field") "(Some(vec![identifier.to_owned()]))" .done)
      (fill (margin ++ ".set_") (method "identifier_field") "(Some(identifier.to_owned()))" .done))
      (margin ++ ".set_" ++ Text.snakeCase service.identifierField ++ identifierText service) := by
    refine renders_choice hsequence ?_
    unfold identifierText
    cases service.identifierIsSequence with
    | true => exact (renders_fill _ _ hidentifier).done
    | false => exact (renders_fill _ _ hidentifier).done
  have htype := holds_resourceType h
  have hresource : Renders scope (.choice (member "resource_type_field")
      (fill (margin ++ ".set_") (method "resource_type_field") "(Some(resource_type.into()))" .done) .done)
      (match resourceType? service with
        | some field => margin ++ ".set_" ++ Text.snakeCase field ++ "(Some(resource_type.into()))"
        | none => "") := by
    refine renders_choice htype ?_
    cases hfield : resourceType? service with
    | none => rfl
    | some field =>
      have hsome : service.resourceTypeField = some field := (Option.filter_eq_some_iff.1 hfield).1
      have hv : service.members.lookup "resource_type_field" = some (.string field) := by
        have : service.members.lookup "resource_type_field" = some (.ofOption service.resourceTypeField) := rfl
        rw [this, hsome]
        rfl
      exact (renders_fill _ _ (value_method h hv)).done
  intro rest
  refine ((hset.comp hresource) rest).trans ?_
  congr 2
  funext r
  unfold resourceText setter
  cases resourceType? service <;> simp only [String.append_assoc] <;> rfl

theorem renders_tagValue (h : Sees scope service) : Renders scope tagValue (tagText service) := by
  have hjson : service.members.lookup "tag_value" = some service.tagValue.toJson := rfl
  unfold tagText
  cases hv : service.tagValue with
  | conventional =>
    have hmember : service.members.lookup "tag_value" = some (.variant "default" none) := by
      rw [hjson, hv]
      rfl
    refine renders_choice (holds_kind h hmember rfl) ?_
    refine (renders_fill "updated_tags.ignore_aws()." "_tags()" (value_member h (v := .string service.name) rfl)).done.trans ?_
    simp only [Json.shown, String.append_assoc]
    rfl
  | custom expr =>
    have hmember : service.members.lookup "tag_value" = some (.variant "custom_expression" (some expr)) := by
      rw [hjson, hv]
      rfl
    exact renders_choice (holds_kind h hmember rfl) (renders_output (value_customExpr h hmember)).done

theorem renders_untagValue (h : Sees scope service) : Renders scope untagValue (untagText service) := by
  have hname : (member "name").value scope = .ok (.string service.name) := value_member h rfl
  have hjson : service.members.lookup "untag_value" = some service.untagValue.toJson := rfl
  unfold untagText
  cases hv : service.untagValue with
  | fullTags =>
    have hlookup : service.members.lookup "untag_value" = some (.variant "full_tag_objects" none) := by
      rw [hjson, hv]
      rfl
    have hkind : (kindIs "untag_value" "full_tag_objects").holds scope = .ok true := holds_kind h hlookup rfl
    refine renders_yes hkind ?_
    refine (renders_fill "removed_tags.ignore_aws()." "_tags()" hname).done.trans ?_
    simp only [Json.shown, String.append_assoc]
    rfl
  | keyObjects =>
    have hlookup : service.members.lookup "untag_value" = some (.variant "tag_key_objects" none) := by
      rw [hjson, hv]
      rfl
    have hfull : (kindIs "untag_value" "full_tag_objects").holds scope = .ok false := holds_kind h hlookup rfl
    have hkind : (kindIs "untag_value" "tag_key_objects").holds scope = .ok true := holds_kind h hlookup rfl
    refine renders_no hfull (renders_yes hkind ?_).done
    refine (renders_fill "removed_tags.ignore_aws()." "_tag_keys()" hname).done.trans ?_
    simp only [Json.shown, String.append_assoc]
    rfl
  | custom expr =>
    have hlookup : service.members.lookup "untag_value" = some (.variant "custom_expression" (some expr)) := by
      rw [hjson, hv]
      rfl
    have hfull : (kindIs "untag_value" "full_tag_objects").holds scope = .ok false := holds_kind h hlookup rfl
    have hkeys : (kindIs "untag_value" "tag_key_objects").holds scope = .ok false := holds_kind h hlookup rfl
    have hkind : (kindIs "untag_value" "custom_expression").holds scope = .ok true := holds_kind h hlookup rfl
    exact renders_no hfull
      (renders_no hkeys (renders_yes hkind (renders_output (value_customExpr h hlookup)).done).done).done
  | keys =>
    have hlookup : service.members.lookup "untag_value" = some (.variant "key_sequence" none) := by
      rw [hjson, hv]
      rfl
    have hfull : (kindIs "untag_value" "full_tag_objects").holds scope = .ok false := holds_kind h hlookup rfl
    have hkeys : (kindIs "untag_value" "tag_key_objects").holds scope = .ok false := holds_kind h hlookup rfl
    have hkind : (kindIs "untag_value" "custom_expression").holds scope = .ok false := holds_kind h hlookup rfl
    exact renders_no hfull (renders_no hkeys (renders_no hkind (renders_text _).done).done).done

theorem renders_send (margin failure : String) : Renders scope (send margin failure) (sendText margin failure) :=
  renders_text _

theorem renders_sendBatches (h : Sees scope service) {tags operation tagsField failure value : String}
    {operationName fieldName : String} {valuePart : Template → Template}
    (hoperation : service.members.lookup operation = some (.string operationName))
    (hfield : service.members.lookup tagsField = some (.string fieldName)) (hvalue : Renders scope valuePart value) :
    Renders scope (sendBatches tags operation tagsField valuePart failure)
      (directionText service tags operationName fieldName value failure) := by
  have hlimit := holds_limit h
  have hloop : Renders scope (.choice (member "batch_size")
      (fill ("\n        for " ++ tags ++ " in " ++ tags ++ ".chunks(") (member "batch_size") ")? \x7b" .done) .done)
      (match limit? service with
        | some n => "\n        for " ++ tags ++ " in " ++ tags ++ ".chunks(" ++ toString n ++ ")? \x7b"
        | none => "") := by
    refine renders_choice hlimit ?_
    cases hn : limit? service with
    | none => rfl
    | some n =>
      have hsome : service.batchSize = some n := (Option.filter_eq_some_iff.1 hn).1
      have hv : service.members.lookup "batch_size" = some (.number (.natural n)) := by
        have : service.members.lookup "batch_size" = some (match service.batchSize with
          | some n => .number (.natural n)
          | none => .null) := rfl
        rw [this, hsome]
      exact (renders_fill _ _ (value_member h hv)).done
  have hclose := renders_textIf hlimit "\n        \x7d"
  have hall := ((((((((renders_text ("\n    if !" ++ tags ++ ".is_empty() \x7b")).comp hloop).comp
    (renders_fill "\n        conn." "()" (value_method h hoperation))).comp
    (renders_setResource h "\n            ")).comp
    (renders_fill ("\n            " ++ ".set_") "(Some(" (value_method h hfield))).comp hvalue).comp
    ((renders_text "))").comp (renders_send "\n            " failure))).comp hclose).comp (renders_text "\n    \x7d")
  intro rest
  refine (hall rest).trans ?_
  congr 2
  funext r
  unfold directionText requestText setter
  cases limit? service <;> simp only [Json.shown, String.append_assoc, Option.isSome, if_true, Bool.false_eq_true, if_false] <;> rfl

/-! ## Rendering functions and units -/

theorem render_combinedBody (h : Sees scope service) : combinedBody.render scope = .ok (combinedText service) := by
  have hoperation : (method "tag_function").value scope = .ok (.string (Text.snakeCase service.tagOperation)) :=
    value_method h rfl
  have htags : (method "tags_field").value scope = .ok (.string (Text.snakeCase service.tagsField)) := value_method h rfl
  have huntags : (method "untag_tags_field").value scope = .ok (.string (Text.snakeCase service.untagTagsField)) :=
    value_method h rfl
  have hall := (((((((((renders_text ("\n    let removed_tags = old_tags.removed(&new_tags);"
    ++ "\n    let updated_tags = old_tags.updated(&new_tags);"
    ++ "\n\n    if removed_tags.is_empty() && updated_tags.is_empty() \x7b"
    ++ "\n        return Ok(());"
    ++ "\n    \x7d"
    ++ "\n\n    let mut request = conn")).comp
    (renders_fill "\n        ." "()" hoperation)).comp (renders_setResource h "\n        ")).comp
    (renders_fill ";\n\n    if !updated_tags.is_empty() \x7b\n        request = request.set_" "(Some(" htags)).comp
    (renders_tagValue h)).comp
    (renders_fill "));\n    \x7d\n\n    if !removed_tags.is_empty() \x7b\n        request = request.set_" "(Some("
      huntags)).comp (renders_untagValue h)).comp
    (renders_text "));\n    \x7d\n\n    request")).comp (renders_send "\n        " "tagging"))
  have hupdated : ";\n\n    if !updated_tags.is_empty() \x7b\n        request = request.set_" =
      ";\n\n    if !updated_tags.is_empty() \x7b\n        request = request." ++ "set_" := by simp
  have hremoved : "));\n    \x7d\n\n    if !removed_tags.is_empty() \x7b\n        request = request.set_" =
      "));\n    \x7d\n\n    if !removed_tags.is_empty() \x7b\n        request = request." ++ "set_" := by simp
  refine hall.done.trans ?_
  unfold combinedText setter
  simp only [Json.shown, hupdated, hremoved, String.append_assoc]

theorem render_separateBody (h : Sees scope service) : separateBody.render scope = .ok (separateText service) := by
  have huntag : Renders scope (sendBatches "removed_tags" "untag_function" "untag_tags_field" untagValue "untagging")
      (directionText service "removed_tags" service.untagOperation service.untagTagsField (untagText service) "untagging") :=
    renders_sendBatches h rfl rfl (renders_untagValue h)
  have htag : Renders scope (sendBatches "updated_tags" "tag_function" "tags_field" tagValue "tagging")
      (directionText service "updated_tags" service.tagOperation service.tagsField (tagText service) "tagging") :=
    renders_sendBatches h rfl rfl (renders_tagValue h)
  have hall := (((renders_text "\n\n    let removed_tags = old_tags.removed(&new_tags);").comp huntag).comp
    (renders_text "\n\n    let updated_tags = old_tags.updated(&new_tags);")).comp htag
  refine hall.done.trans ?_
  unfold separateText
  simp only [String.append_assoc]

/-- The condition that chooses the body. -/
theorem holds_usesSingleEndpoint (h : Sees scope service) :
    (Expr.equal (member "tag_function") (member "untag_function")).holds scope = .ok service.usesSingleEndpoint := by
  have htag : (member "tag_function").value scope = .ok (.string service.tagOperation) := value_member h rfl
  have huntag : (member "untag_function").value scope = .ok (.string service.untagOperation) := value_member h rfl
  have hvalue : (Expr.equal (member "tag_function") (member "untag_function")).value scope =
      .ok (.bool service.usesSingleEndpoint) := by
    rw [Template.Expr.value, htag, huntag]
    rfl
  unfold Template.Expr.holds
  exact congrArg (Except.map Json.isTruthy) hvalue

theorem render_function (h : Sees scope service) : function.render scope = .ok (functionText service) := by
  have hname : (member "name").value scope = .ok (.string service.name) := value_member h rfl
  have hclient : (member "client_type").value scope = .ok (.string service.clientType) := value_member h rfl
  have hbody : Renders scope (.choice (.equal (member "tag_function") (member "untag_function")) combinedBody separateBody)
      (if service.usesSingleEndpoint then combinedText service else separateText service) := by
    refine renders_choice (holds_usesSingleEndpoint h) ?_
    cases service.usesSingleEndpoint with
    | true => exact render_combinedBody h
    | false => exact render_separateBody h
  have hall := ((((((renders_fill "\n/// Updates " (" service tags.\n///\n"
      ++ "/// The identifier is typically the Amazon Resource Name (ARN), although\n"
      ++ "/// it may also be a different identifier depending on the service.\n") hname).comp
    (renders_fill "pub async fn " "_update_tags(" hname)).comp
    (renders_fill "\n    conn: &" ",\n    identifier: &str," hclient)).comp
    (renders_textIf (holds_resourceType h) "\n    resource_type: &str,")).comp
    (renders_text ("\n    old_tags: impl Into<KeyValueTags>,"
      ++ "\n    new_tags: impl Into<KeyValueTags>,"
      ++ "\n) -> Result<(), UpdateTagsError> \x7b"
      ++ "\n    let old_tags: KeyValueTags = old_tags.into();"
      ++ "\n    let new_tags: KeyValueTags = new_tags.into();"))).comp hbody).comp
    (renders_text "\n\n    Ok(())\n\x7d\n")
  have hresult : "\n) -> Result<(), UpdateTagsError> \x7b" = "\n) -> Result<(), UpdateTagsError> " ++ "\x7b" := by simp
  have hend : "\n\n    Ok(())\n\x7d\n" = "\n\n    Ok(())\n\x7d" ++ "\n" := by simp
  refine hall.done.trans ?_
  unfold functionText headText resultText bodyText
  simp only [Json.shown, hresult, hend, String.append_assoc]

theorem mapM_zipIdx {α β : Type} {f : α → Json} {g : α → β} {run : Json × Nat → Except Template.Fault β}
    (h : ∀ x i, run (f x, i) = .ok (g x)) (xs : List α) (start : Nat) :
    ((xs.map f).zipIdx start).mapM run = .ok (xs.map g) := by
  induction xs generalizing start with
  | nil => rfl
  | cons x xs ih =>
    rw [List.map_cons, List.zipIdx_cons, List.mapM_cons, h, ih]
    rfl

/-- What is rendered for each service stands in their order. -/
theorem renders_eachService {services : List Service} {body : Template} {f : Service → String}
    (h : ∀ scope service, Sees scope service → body.render scope = .ok (f service)) :
    Renders (SourceUnit.scope services) (eachService body) (String.join (services.map f)) := by
  intro rest
  have hitems : (Expr.path (.variable "services")).value (SourceUnit.scope services) =
      .ok (.array (services.map Service.toJson)) := rfl
  have hrun : ((services.map Service.toJson).zipIdx.mapM fun (item, i) =>
      body.render ⟨⟨"svc", item, i, (services.map Service.toJson).length⟩ :: (SourceUnit.scope services).turns,
        (SourceUnit.scope services).given⟩) = .ok (services.map f) :=
    mapM_zipIdx (fun service i => h _ service ⟨i, _, _, rfl⟩) services 0
  rw [eachService, Template.render, hitems]
  cases services with
  | nil => cases rest.render (SourceUnit.scope []) <;> rfl
  | cons service services =>
    simp only [bind, Except.bind, Template.itemsOf] at hrun ⊢
    rw [if_neg (by simp), hrun]
    cases rest.render (SourceUnit.scope (service :: services)) <;> rfl

theorem render_import (h : Sees scope service) :
    (fill "\nuse " (member "tag_package") " as " (.output (member "alias") (.text ";" .done))).render scope =
      .ok (importText service) := by
  have hpackage : (member "tag_package").value scope = .ok (.string service.tagPackage) := value_member h rfl
  have halias : (member "alias").value scope = .ok (.string service.crateAlias) := value_member h rfl
  exact (((renders_fill "\nuse " " as " hpackage).comp (renders_output halias)).comp (renders_text ";")).done

/-- **The text of a unit.** Every list of services has one: the imports, then the
functions, both in the order of the services. -/
theorem render_updateTags (services : List Service) :
    render updateTags services = .ok (String.join (services.map importText) ++ sharedImportText ++
      String.join (services.map functionText) ++ "\n") := by
  have himports : Renders (SourceUnit.scope services)
      (eachService (fill "\nuse " (member "tag_package") " as " (.output (member "alias") (.text ";" .done))))
      (String.join (services.map importText)) := renders_eachService fun _ _ => render_import
  have hfunctions : Renders (SourceUnit.scope services) (eachService function)
      (String.join (services.map functionText)) := renders_eachService fun _ _ => render_function
  have hall := ((himports.comp (renders_text sharedImportText)).comp hfunctions).comp (renders_text "\n")
  exact congrArg (Except.mapError fun _ => Fault.notRendered) hall.done

end Retag.SourceUnit
