/-
Descriptions of services as the registry gives them. A property that all entries of
a table have, and the convention, every service has (`entry_of_all`); the name of a
service is only in its name, its package, its alias and its client
(`resolve_undeleted`).
-/
import Retag.Service.Basic
import Retag.Proofs.Json.Texts

namespace Retag

open Json (Writable Undeleted undeleted_append undeleted_ofList)

/-- The entries of a table are what its lists and its convention have in common. -/
theorem entry_of_all {table : List (String × String)} {conventional : String} {P : String → Prop}
    (h : ∀ x ∈ conventional :: table.map (·.2), P x) (name : String) : P (Registry.entry table conventional name) := by
  refine h _ ?_
  unfold Registry.entry
  cases hfound : table.lookup name with
  | none => exact List.mem_cons_self
  | some x =>
    obtain ⟨earlier, later, rfl, -⟩ := List.lookup_eq_some_iff.1 hfound
    simp

/-- The words of paths are lengthened, other keywords are marked as raw, and every
other name is its own alias. -/
theorem crateAlias_cases (name : String) :
    (name ∈ Registry.pathKeywords ∧ Registry.crateAlias name = name ++ "_") ∨
      (name ∈ Registry.keywords ∧ Registry.crateAlias name = "r#" ++ name) ∨
      (name ∉ Registry.pathKeywords ∧ name ∉ Registry.keywords ∧ Registry.crateAlias name = name) := by
  unfold Registry.crateAlias
  simp only [List.contains_eq_mem, decide_eq_true_eq]
  by_cases hpath : name ∈ Registry.pathKeywords
  · exact .inl ⟨hpath, if_pos hpath⟩
  by_cases hkeyword : name ∈ Registry.keywords
  · exact .inr (.inl ⟨hkeyword, by rw [if_neg hpath, if_pos hkeyword]⟩)
  · exact .inr (.inr ⟨hpath, hkeyword, by rw [if_neg hpath, if_neg hkeyword]⟩)

/-! ## Descriptions as JSON -/

theorem resolve_batch_small (name : String) : ∀ n, (Service.resolve name).batchSize = some n → n ≤ Json.largestNatural := by
  intro n hn
  simp only [Service.resolve, Registry.callLimit] at hn
  split at hn
  · split at hn
    · cases hn
    · obtain rfl := Option.some.inj hn
      decide
  · cases hn

theorem writable_ofOption {d : Nat} (text : Option String) : Writable d (.ofOption text) := by
  cases text with
  | none => exact .null
  | some t => exact .string

theorem writable_variant {d : Nat} (kind : String) (expr : Option String) : Writable (d + 1) (.variant kind expr) := by
  cases expr with
  | none =>
    refine .object ?_
    simp only [List.forall_mem_cons]
    exact ⟨.string, by simp⟩
  | some e =>
    refine .object ?_
    simp only [List.forall_mem_cons]
    exact ⟨.string, .string, by simp⟩

/-- A description can be read if its batch size fits. -/
theorem Service.writable_toJson {d : Nat} {s : Service} (h : ∀ n, s.batchSize = some n → n ≤ Json.largestNatural) :
    Writable (d + 2) s.toJson := by
  have htag : Writable (d + 1) s.tagValue.toJson := by
    cases s.tagValue <;> (rw [TagValue.toJson]; exact writable_variant _ _)
  have huntag : Writable (d + 1) s.untagValue.toJson := by
    cases s.untagValue <;> (rw [UntagValue.toJson]; exact writable_variant _ _)
  refine .object ?_
  simp only [members, List.forall_mem_cons]
  refine ⟨.string, .string, .string, .string, .string, .string, ?_, .string, .bool, writable_ofOption _, .string,
    .string, htag, huntag, by simp⟩
  split
  next n hn => exact .natural (h n hn)
  next => exact .null

/-! ## Delete characters -/

variable {name : String}

theorem undeleted_alias (h : Undeleted name) : Undeleted (Registry.crateAlias name) := by
  obtain ⟨-, halias⟩ | ⟨-, halias⟩ | ⟨-, -, halias⟩ := crateAlias_cases name
  · rw [halias]
    exact undeleted_append h (by decide)
  · rw [halias]
    exact undeleted_append (by decide) h
  · rwa [halias]

/-- No table of the registry has a delete character in its entries. -/
theorem undeleted_tables : ∀ table ∈ [Registry.packageSuffixes, Registry.tagOperations, Registry.untagOperations,
    Registry.identifierFields, Registry.tagsFields, Registry.untagTagsFields], ∀ x ∈ table.map (·.2), Undeleted x := by
  simp only [List.forall_mem_cons, Registry.packageSuffixes, Registry.tagOperations, Registry.untagOperations,
    Registry.identifierFields, Registry.tagsFields, Registry.untagTagsFields, List.map_cons, List.map_nil]
  simp [Undeleted]

theorem undeleted_entry {table : List (String × String)} {conventional : String} (hconventional : Undeleted conventional)
    (htable : ∀ x ∈ table.map (·.2), Undeleted x) (name : String) :
    Undeleted (Registry.entry table conventional name) :=
  entry_of_all (List.forall_mem_cons.2 ⟨hconventional, htable⟩) name

theorem undeleted_package (h : Undeleted name) : Undeleted (Registry.tagPackage name) :=
  undeleted_append (by decide) (undeleted_entry h (undeleted_tables _ (by simp)) name)

theorem undeleted_operations (name : String) :
    Undeleted (Service.resolve name).tagOperation ∧ Undeleted (Service.resolve name).untagOperation :=
  ⟨undeleted_entry (by decide) (undeleted_tables _ (by simp)) name,
    undeleted_entry (by decide) (undeleted_tables _ (by simp)) name⟩

theorem undeleted_customTagValue {expr : String} (h : Registry.customTagValue name = some expr) : Undeleted expr := by
  unfold Registry.customTagValue at h
  split_ifs at h
  · obtain rfl := Option.some.inj h
    exact undeleted_append (undeleted_ofList (by decide)) (undeleted_ofList (by decide))
  · obtain rfl := Option.some.inj h
    exact undeleted_ofList (by decide)
  · obtain rfl := Option.some.inj h
    exact undeleted_append (undeleted_ofList (by decide)) (undeleted_ofList (by decide))

theorem undeleted_customUntagValue {expr : String} (h : Registry.customUntagValue name = some expr) :
    Undeleted expr := by
  unfold Registry.customUntagValue at h
  split_ifs at h
  obtain rfl := Option.some.inj h
  exact undeleted_append (undeleted_ofList (by decide)) (undeleted_ofList (by decide))

theorem undeleted_variant {kind : String} {expr : Option String} (hkind : Undeleted kind)
    (hexpr : ∀ e, expr = some e → Undeleted e) : ∀ s ∈ (Json.variant kind expr).texts, Undeleted s := by
  cases expr with
  | none =>
    simp only [Json.variant, Json.forall_texts_object, List.forall_mem_cons, Json.forall_texts_string]
    exact ⟨⟨by decide, hkind⟩, by simp⟩
  | some e =>
    simp only [Json.variant, Json.forall_texts_object, List.forall_mem_cons, Json.forall_texts_string]
    exact ⟨⟨by decide, hkind⟩, ⟨by decide, hexpr e rfl⟩, by simp⟩

theorem undeleted_tagValue (name : String) : ∀ s ∈ (Service.resolve name).tagValue.toJson.texts, Undeleted s := by
  simp only [Service.resolve]
  split
  next expr hexpr =>
    rw [TagValue.toJson]
    exact undeleted_variant (by decide) fun _ h => undeleted_customTagValue (hexpr.trans h)
  next =>
    rw [TagValue.toJson]
    exact undeleted_variant (by decide) (by simp)

theorem undeleted_untagValue (name : String) : ∀ s ∈ (Service.resolve name).untagValue.toJson.texts, Undeleted s := by
  simp only [Service.resolve, UntagValue.ofFlags]
  split_ifs
  · rw [UntagValue.toJson]
    exact undeleted_variant (by decide) (by simp)
  · rw [UntagValue.toJson]
    exact undeleted_variant (by decide) (by simp)
  · split
    next expr hexpr =>
      rw [UntagValue.toJson]
      exact undeleted_variant (by decide) fun _ h => undeleted_customUntagValue (hexpr.trans h)
    next =>
      rw [UntagValue.toJson]
      exact undeleted_variant (by decide) (by simp)

theorem undeleted_resourceTypeField (name : String) :
    ∀ s ∈ (Json.ofOption (Service.resolve name).resourceTypeField).texts, Undeleted s := by
  simp only [Service.resolve, Registry.resourceTypeField]
  split_ifs
  · exact Json.forall_texts_string.2 (by decide)
  · simp [Json.ofOption, Json.texts]

/-- A description has a delete character in its texts exactly if the service has one
in its name. -/
theorem resolve_undeleted : (∀ s ∈ (Service.resolve name).toJson.texts, Undeleted s) ↔ Undeleted name := by
  rw [Service.toJson, Json.forall_texts_object]
  refine ⟨fun h => ?_, fun h => ?_⟩
  · exact Json.forall_texts_string.1 (h ("name", .string name) List.mem_cons_self).2
  · have hfield {table : List (String × String)} {conventional : String} (hconventional : Undeleted conventional)
        (htable : ∀ x ∈ table.map (·.2), Undeleted x) :
        ∀ s ∈ (Json.string (Registry.entry table conventional name)).texts, Undeleted s :=
      Json.forall_texts_string.2 (undeleted_entry hconventional htable name)
    have hoperations := undeleted_operations name
    simp only [Service.members, List.forall_mem_cons]
    refine ⟨⟨by decide, Json.forall_texts_string.2 h⟩, ⟨by decide, Json.forall_texts_string.2 (undeleted_alias h)⟩,
      ⟨by decide, Json.forall_texts_string.2 (undeleted_package h)⟩,
      ⟨by decide, Json.forall_texts_string.2 (undeleted_append (undeleted_alias h) (by decide))⟩,
      ⟨by decide, Json.forall_texts_string.2 hoperations.1⟩, ⟨by decide, Json.forall_texts_string.2 hoperations.2⟩,
      ⟨by decide, ?_⟩,
      ⟨by decide, hfield (by decide) (undeleted_tables _ (by simp))⟩, ⟨by decide, by simp [Json.texts]⟩,
      ⟨by decide, undeleted_resourceTypeField name⟩, ⟨by decide, hfield (by decide) (undeleted_tables _ (by simp))⟩,
      ⟨by decide, hfield (by decide) (undeleted_tables _ (by simp))⟩, ⟨by decide, undeleted_tagValue name⟩,
      ⟨by decide, undeleted_untagValue name⟩, by simp⟩
    split <;> simp [Json.texts]

end Retag
