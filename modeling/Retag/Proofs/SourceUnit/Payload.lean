/-
The values that carry tags. Whatever a service asks for, its value is made from the
user's part of one set: converted, and for some services built into a value of a type
of their own. `IsPayload` says of the text of a value that it reads as an expression
and that this expression makes the value.
-/
import Retag.Proofs.SourceUnit.Program
import Retag.Proofs.Code.Running

namespace Retag.SourceUnit

open Code

variable {service : Service} {ts rest : List Token} {e : Expr} {v : Value} {text tags : String} {t : TagSet}
  {vars : List (String × Value)} {answer : Answer}

/-! ## Payloads -/

/-- How the tags of a set are put into a request. -/
inductive Payload where
  | converted (conversion : String)
  /-- The converted tags in a field of a value of a type. -/
  | built (crate type field conversion : String)
  /-- The same for a type that is built with a check. -/
  | checked (crate type field conversion : String)
  deriving DecidableEq

namespace Payload

/-- What carries the tags of a set. -/
def value (t : TagSet) : Payload → Value
  | converted conversion => .converted conversion t
  | built crate type field conversion | checked crate type field conversion =>
    .built [crate, "types", type] [(field, .present (.converted conversion t))]

/-- The expression that makes it from the variable of a set. -/
def expr (tags : String) : Payload → Expr
  | converted conversion => conversionExpr tags conversion
  | built crate type field conversion => builtExpr [crate, "types", type] field (conversionExpr tags conversion)
  | checked crate type field conversion =>
    checkedExpr "tagging" (builtExpr [crate, "types", type] field (conversionExpr tags conversion))

end Payload

/-- The payloads of the registry's own expressions, under the names of their
services. -/
def customTagPayloads : List (String × Payload) :=
  [("cloudfront", .built "cloudfront" "Tags" "set_items" "cloudfront_tags"), ("kinesis", .converted "map"),
    ("pinpoint", .checked "pinpoint" "TagsModel" "set_tags" "map")]

def customUntagPayloads : List (String × Payload) := [("cloudfront", .built "cloudfront" "TagKeys" "set_items" "keys")]

/-- The payload of a service whose expression is the given one. -/
def customPayload? (expressions : String → Option String) (payloads : List (String × Payload)) (expr : String) :
    Option Payload :=
  (payloads.find? fun q => expressions q.1 == some expr).map (·.2)

/-- How the tags to set are put into a request. -/
def tagPayload? (service : Service) : Option Payload :=
  match service.tagValue with
  | .conventional => some (.converted (service.name ++ "_tags"))
  | .custom expr => customPayload? Registry.customTagValue customTagPayloads expr

/-- How the tags to remove are put into a request. -/
def untagPayload? (service : Service) : Option Payload :=
  match service.untagValue with
  | .fullTags => some (.converted (service.name ++ "_tags"))
  | .keyObjects => some (.converted (service.name ++ "_tag_keys"))
  | .custom expr => customPayload? Registry.customUntagValue customUntagPayloads expr
  | .keys => some (.converted "keys")

/-- A text that reads as the expression of a payload, which makes it from the user's
tags. -/
structure IsPayload (text tags : String) (p : Payload) : Prop where
  reads : ∃ ts, IsValue text ts (p.expr tags)
  yields : ∀ (answer : Answer) (vars : List (String × Value)) (t : TagSet), vars.lookup tags = some (.tags t) →
    Yields answer (p.expr tags) vars (p.value t.withoutReserved)

/-! ## Conversions -/

/-- Names of methods that sets have themselves. -/
def ownMethods : List String := ["into", "is_empty", "ignore_aws"]

theorem tagsMethod_conversion {conversion : String} (h : conversion ∉ ownMethods) (t : TagSet) :
    tagsMethod conversion t = .converted conversion t := by
  simp only [ownMethods, List.mem_cons, List.not_mem_nil, or_false, not_or] at h
  rw [tagsMethod, if_neg h.1, if_neg h.2.1, if_neg h.2.2]

theorem yields_conversion {conversion : String} (h : conversion ∉ ownMethods) (ht : vars.lookup tags = some (.tags t)) :
    Yields answer (conversionExpr tags conversion) vars (.converted conversion t.withoutReserved) := by
  have huser : Yields answer (.method (.names [tags]) "ignore_aws" [] []) vars (.tags t.withoutReserved) :=
    (Yields.name ht).invoke rfl
  refine huser.invoke ?_
  rw [callMethod, tagsMethod_conversion h]

theorem not_ownMethod {name suffix : String} (h : ∀ m ∈ ownMethods, ¬suffix.toList <:+ m.toList) :
    name ++ suffix ∉ ownMethods :=
  fun hm => h _ hm (by rw [String.toList_append]; exact List.suffix_append _ _)

/-- The endings of conversions named after a service. -/
def conversionEndings : List String := ["_tags", "_tag_keys"]

/-- A name with such an ending is a word, and none that is reserved. -/
theorem conversion_word {name ending : String} (hname : IsIdentifier name) (hending : ending ∈ conversionEndings) :
    IsIdentifier (name ++ ending) ∧ isName (name ++ ending) = true := by
  have hparts : ∀ ending ∈ conversionEndings, ending.toList.all Text.isIdentifierPart = true := by decide
  have hreserved : ∀ ending ∈ conversionEndings, ∀ r ∈ reserved, ¬ending.toList <:+ r.toList := by decide
  exact ⟨hname.append (List.all_eq_true.1 (hparts _ hending)), isName_suffix (hreserved _ hending)⟩

/-- Conversions named after a service. -/
theorem conventional_isPayload {before ending : String} (hname : IsIdentifier service.name)
    (hending : ending ∈ conversionEndings)
    (hscan : scan before.toList = some (.word tags :: (invokeTokens "ignore_aws" ++ [.sign '.' false])))
    (hends : endsApart before = true) (htags : isName tags = true) :
    IsPayload (before ++ (service.name ++ ending) ++ "()") tags (.converted (service.name ++ ending)) := by
  have hown : ∀ ending ∈ conversionEndings, ∀ m ∈ ownMethods, ¬ending.toList <:+ m.toList := by decide
  obtain ⟨hword, hconversion⟩ := conversion_word hname hending
  exact ⟨⟨_, conversion_isValue hscan hends htags hword hconversion⟩,
    fun _ _ _ => yields_conversion (not_ownMethod (hown _ hending))⟩

/-- Conversions of a fixed name. -/
theorem converted_isPayload {before conversion : String}
    (hscan : scan before.toList = some (.word tags :: (invokeTokens "ignore_aws" ++ [.sign '.' false])))
    (hends : endsApart before = true) (htags : isName tags = true)
    (h : (IsIdentifier conversion ∧ isName conversion = true) ∧ conversion ∉ ownMethods) :
    IsPayload (before ++ conversion ++ "()") tags (.converted conversion) :=
  ⟨⟨_, conversion_isValue hscan hends htags h.1.1 h.1.2⟩, fun _ _ _ => yields_conversion h.2⟩

/-! ## Values that are built -/

/-- The tokens of a value that is built from converted tags. -/
def builtTokens (crate type field : String) (value : List Token) : List Token :=
  [.word crate, .sign ':' true, .sign ':' false, .word "types", .sign ':' true, .sign ':' false, .word type,
    .sign ':' true, .sign ':' false, .word "builder", .opening .parenthesis, .closing .parenthesis, .sign '.' false,
    .word field] ++ argumentTokens value ++ [.closing .parenthesis, .closing .parenthesis] ++ invokeTokens "build"

theorem yields_built {crate type field : String} (hfield : field ≠ "map_err") (hvalue : Yields answer e vars v) :
    Yields answer (builtExpr [crate, "types", type] field e) vars
      (if checkedTypes.contains type then .success (.built [crate, "types", type] [(field, .present v)])
        else .built [crate, "types", type] [(field, .present v)]) := by
  have hnew : Yields answer (.call (.names [crate, "types", type, "builder"]) []) vars (.builder [crate, "types", type] []) :=
    .call .nil (by simp [callFunction])
  have hset : Yields answer (.method (.call (.names [crate, "types", type, "builder"]) []) field [] [someOf e]) vars
      (.builder [crate, "types", type] [(field, .present v)]) :=
    hnew.give (.call (.cons hvalue .nil) rfl) hfield rfl
  exact hset.invoke rfl

/-- A success goes on with its value. -/
theorem yields_checked {failure : String} (h : Yields answer e vars (.success v)) :
    Yields answer (checkedExpr failure e) vars v := fun sent => eval_attempt_success (eval_mapErr_success (h sent))

/-- What is asked of the names in a value that is built. -/
structure NamedParts (tags crate type field conversion : String) : Prop where
  names : ∀ x ∈ [tags, crate, type, field, conversion], isName x = true
  sets : field ≠ "map_err"
  converts : conversion ∉ ownMethods

variable {crate type field conversion : String}

theorem reads_built (h : NamedParts tags crate type field conversion) (rest : List Token) :
    ReadsChain (builtTokens crate type field (conversionTokens tags conversion) ++ rest)
      (builtExpr [crate, "types", type] field (conversionExpr tags conversion)) rest := by
  have hnames := h.names
  simp only [List.forall_mem_cons] at hnames
  obtain ⟨htags, hcrate, htype, hfield, hconversion, -⟩ := hnames
  have hpath : ∀ tail, ReadsChain (.word crate :: .sign ':' true :: .sign ':' false :: .word "types" :: .sign ':' true ::
      .sign ':' false :: .word type :: .sign ':' true :: .sign ':' false :: .word "builder" :: .opening .parenthesis ::
      .closing .parenthesis :: tail) (.call (.names [crate, "types", type, "builder"]) []) tail := fun tail =>
    (ReadsChain.path (.cons hcrate (.cons rfl (.cons htype (.name rfl rfl)))) rfl).call (.nil tail)
  unfold builtTokens
  simp only [List.append_assoc, List.cons_append, List.nil_append]
  exact reads_invoke ((hpath _).method hfield (readsArgs_someOf rfl (reads_conversion htags hconversion _))) rfl

theorem endsOpen_invoke (ts : List Token) (m : String) :
    EndsOpen (ts ++ invokeTokens m) := fun s => by simp [invokeTokens]

theorem built_isPayload (h : NamedParts tags crate type field conversion) (htype : checkedTypes.contains type = false)
    (htokens : scan text.toList = some (builtTokens crate type field (conversionTokens tags conversion))) :
    IsPayload text tags (.built crate type field conversion) := by
  refine ⟨⟨_, htokens, endsOpen_invoke _ _, fun rest => rfl,
    fun rest => .of_chain (reads_built h _) rfl⟩, fun answer vars t ht => ?_⟩
  have hbuilt : Yields answer (builtExpr [crate, "types", type] field (conversionExpr tags conversion)) vars _ :=
    yields_built h.sets (yields_conversion h.converts ht)
  rw [htype] at hbuilt
  exact hbuilt

theorem checked_isPayload (h : NamedParts tags crate type field conversion) (htype : checkedTypes.contains type = true)
    (htokens : scan text.toList = some (builtTokens crate type field (conversionTokens tags conversion) ++
      checkedTokens "tagging" ++ [.sign '?' false])) : IsPayload text tags (.checked crate type field conversion) := by
  refine ⟨⟨_, htokens, fun s => by simp, fun rest => rfl, fun rest => ?_⟩, fun answer vars t ht => ?_⟩
  · have hbuilt := reads_built h (checkedTokens "tagging" ++ .sign '?' false :: .closing .parenthesis :: rest)
    simp only [List.append_assoc, List.cons_append, List.nil_append]
    exact .of_chain (reads_checked rfl hbuilt) rfl
  · have hbuilt : Yields answer (builtExpr [crate, "types", type] field (conversionExpr tags conversion)) vars _ :=
      yields_built h.sets (yields_conversion h.converts ht)
    rw [htype] at hbuilt
    exact yields_checked hbuilt

/-! ## Every known payload -/

variable {expr : String}

theorem removedTags_scan :
    scan "removed_tags.ignore_aws().".toList = some (.word "removed_tags" :: (invokeTokens "ignore_aws" ++ [.sign '.' false])) :=
  scan_ofList (by decide +kernel)

theorem updatedTags_scan :
    scan "updated_tags.ignore_aws().".toList = some (.word "updated_tags" :: (invokeTokens "ignore_aws" ++ [.sign '.' false])) :=
  scan_ofList (by decide +kernel)

theorem customTag_isPayload {n : String} (h : Registry.customTagValue n = some expr) :
    ∃ p, customPayload? Registry.customTagValue customTagPayloads expr = some p ∧ IsPayload expr "updated_tags" p := by
  unfold Registry.customTagValue at h
  split at h
  · obtain rfl := Option.some.inj h
    exact ⟨.built "cloudfront" "Tags" "set_items" "cloudfront_tags", by decide +kernel,
      built_isPayload (by constructor <;> decide) rfl (by decide +kernel)⟩
  split at h
  · obtain rfl := Option.some.inj h
    have hmap : IsPayload ("updated_tags.ignore_aws()." ++ "map" ++ "()") "updated_tags" (.converted "map") :=
      converted_isPayload updatedTags_scan (by decide) rfl (by decide)
    exact ⟨.converted "map", by decide +kernel, hmap⟩
  split at h
  · obtain rfl := Option.some.inj h
    exact ⟨.checked "pinpoint" "TagsModel" "set_tags" "map", by decide +kernel,
      checked_isPayload (by constructor <;> decide) rfl (by decide +kernel)⟩
  · cases h

theorem customUntag_isPayload {n : String} (h : Registry.customUntagValue n = some expr) :
    ∃ p, customPayload? Registry.customUntagValue customUntagPayloads expr = some p ∧ IsPayload expr "removed_tags" p := by
  unfold Registry.customUntagValue at h
  split at h
  · obtain rfl := Option.some.inj h
    exact ⟨.built "cloudfront" "TagKeys" "set_items" "keys", by decide +kernel,
      built_isPayload (by constructor <;> decide) rfl (by decide +kernel)⟩
  · cases h

/-- What is asked of the expressions in a service's description: the registry has
them. -/
structure KnownExpressions (service : Service) : Prop where
  tag : ∀ expr, service.tagValue = .custom expr → ∃ n, Registry.customTagValue n = some expr
  untag : ∀ expr, service.untagValue = .custom expr → ∃ n, Registry.customUntagValue n = some expr

theorem tag_isPayload (hname : IsIdentifier service.name) (h : KnownExpressions service) :
    ∃ p, tagPayload? service = some p ∧ IsPayload (tagText service) "updated_tags" p := by
  unfold tagPayload? tagText
  cases hvalue : service.tagValue with
  | conventional => exact ⟨_, rfl, conventional_isPayload hname (by decide) updatedTags_scan (by decide) rfl⟩
  | custom expr =>
    obtain ⟨n, hn⟩ := h.tag expr hvalue
    exact customTag_isPayload hn

theorem untag_isPayload (hname : IsIdentifier service.name) (h : KnownExpressions service) :
    ∃ p, untagPayload? service = some p ∧ IsPayload (untagText service) "removed_tags" p := by
  unfold untagPayload? untagText
  cases hvalue : service.untagValue with
  | fullTags => exact ⟨_, rfl, conventional_isPayload hname (by decide) removedTags_scan (by decide) rfl⟩
  | keyObjects => exact ⟨_, rfl, conventional_isPayload hname (by decide) removedTags_scan (by decide) rfl⟩
  | custom expr =>
    obtain ⟨n, hn⟩ := h.untag expr hvalue
    exact customUntag_isPayload hn
  | keys =>
    have hkeys : IsPayload ("removed_tags.ignore_aws()." ++ "keys" ++ "()") "removed_tags" (.converted "keys") :=
      converted_isPayload removedTags_scan (by decide) rfl (by decide)
    exact ⟨_, rfl, hkeys⟩

/-- The payloads of both directions are known, and their values are read. -/
theorem known_payloads (hname : IsIdentifier service.name) (h : KnownExpressions service) :
    ∃ tagPayload untagPayload, tagPayload? service = some tagPayload ∧ untagPayload? service = some untagPayload ∧
      IsPayload (tagText service) "updated_tags" tagPayload ∧ IsPayload (untagText service) "removed_tags" untagPayload ∧
      ∃ tagTokens untagTokens, Valued service tagTokens untagTokens (tagPayload.expr "updated_tags")
        (untagPayload.expr "removed_tags") := by
  obtain ⟨tagPayload, htag, htagged⟩ := tag_isPayload hname h
  obtain ⟨untagPayload, huntag, huntagged⟩ := untag_isPayload hname h
  obtain ⟨tagTokens, htagValue⟩ := htagged.reads
  obtain ⟨untagTokens, huntagValue⟩ := huntagged.reads
  exact ⟨tagPayload, untagPayload, htag, huntag, htagged, huntagged, tagTokens, untagTokens, htagValue, huntagValue⟩

end Retag.SourceUnit
