/-
The text of a unit, for names that can stand in source code. Each part of the text is
one item wherever it stands, so what is rendered reads as the items of its parts
(`reads_unitItems`), and each item is laid out by itself (`source_admissible`).
-/
import Retag.Proofs.SourceUnit.Parts
import Retag.Proofs.SourceUnit.Staged
import Retag.Proofs.SourceUnit.Agreement

namespace Retag.SourceUnit

open Code
open Text (isIdentifierPart isIdentifierStart)

variable {name : String} {names : List String}

/-! ## Names that can stand in source code -/

/-- An identifier that can name a crate and begin the name of a function. -/
structure Admissible (name : String) : Prop where
  identifier : IsIdentifier name
  notBlank : name ≠ "_"
  notSelf : name ≠ "Self"

instance (name : String) : Decidable (Admissible name) :=
  decidable_of_iff (IsIdentifier name ∧ name ≠ "_" ∧ name ≠ "Self")
    ⟨fun ⟨h, hblank, hself⟩ => ⟨h, hblank, hself⟩, fun ⟨h, hblank, hself⟩ => ⟨h, hblank, hself⟩⟩

theorem resolve_package (h : ∀ c ∈ name.toList, isIdentifierPart c = true) :
    IsIdentifier (Service.resolve name).tagPackage := by
  have hstart : IsIdentifier "aws_sdk_" := by decide
  refine hstart.append ?_
  have htable : Registry.packageSuffixes.all (fun entry => entry.2.toList.all isIdentifierPart) = true := by decide +kernel
  refine entry_of_all (P := fun x => ∀ c ∈ x.toList, isIdentifierPart c = true) ?_ name
  rw [List.forall_mem_cons]
  refine ⟨h, fun x hx => ?_⟩
  obtain ⟨entry, hentry, rfl⟩ := List.mem_map.1 hx
  exact List.all_eq_true.1 (List.all_eq_true.1 htable entry hentry)

/-! ### The words that stand for a crate -/

theorem alias_word (h : IsIdentifier name) : IsIdentifier (Registry.crateAlias name) ∨
    name ∉ neverRaw ∧ Registry.crateAlias name = "r#" ++ name := by
  have hraw : ∀ k ∈ Registry.keywords, k ∉ neverRaw := by decide +kernel
  obtain ⟨-, halias⟩ | ⟨hkeyword, halias⟩ | ⟨-, -, halias⟩ := crateAlias_cases name
  · rw [halias]
    exact .inl (h.append (List.all_eq_true.1 (by decide : "_".toList.all isIdentifierPart = true)))
  · exact .inr ⟨hraw name hkeyword, halias⟩
  · exact .inl (halias.symm ▸ h)

theorem alias_takesWord (h : IsIdentifier name) : TakesWord (Registry.crateAlias name) := by
  obtain hword | ⟨hraw, halias⟩ := alias_word h
  · exact hword.takesWord
  · rw [halias]
    exact h.takesRaw hraw

/-- Every reserved word but two is in a table. -/
theorem alias_isName (hblank : name ≠ "_") (hself : name ≠ "Self") : isName (Registry.crateAlias name) = true := by
  have hpaths : ∀ k ∈ Registry.pathKeywords, isName (k ++ "_") = true := by decide +kernel
  have hraw : ∀ k ∈ Registry.keywords, isName ("r#" ++ k) = true := by decide +kernel
  have hreserved : ∀ r ∈ reserved, r ∈ "_" :: "Self" :: (Registry.pathKeywords ++ Registry.keywords) := by decide +kernel
  obtain ⟨hpath, halias⟩ | ⟨hkeyword, halias⟩ | ⟨hpath, hkeyword, halias⟩ := crateAlias_cases name
  · rw [halias]
    exact hpaths name hpath
  · rw [halias]
    exact hraw name hkeyword
  · have hname : name ∉ reserved := by
      intro hr
      have hmem := hreserved name hr
      simp only [List.mem_cons, List.mem_append] at hmem
      rcases hmem with hmem | hmem | hmem | hmem
      · exact hblank hmem
      · exact hself hmem
      · exact hpath hmem
      · exact hkeyword hmem
    rw [halias]
    simpa [isName] using hname

theorem resolve_unitWords (h : IsIdentifier name) : UnitWords (Service.resolve name) where
  name := h
  package := (resolve_package h.parts).takesWord
  crateAlias := alias_takesWord h
  client := rfl

theorem resolve_packageName (name : String) : isName (Service.resolve name).tagPackage = true := isName_start (by decide)

theorem resolve_unitNames (h : Admissible name) : UnitNames (Service.resolve name) where
  toUnitWords := resolve_unitWords h.identifier
  packageName := resolve_packageName name
  aliasName := alias_isName h.notBlank h.notSelf

/-- An identifier under whose alias a crate can be imported. The blank one names
nothing that the import brings. -/
structure Importable (name : String) : Prop where
  identifier : IsIdentifier name
  notSelf : name ≠ "Self"

theorem Admissible.importable (h : Admissible name) : Importable name := ⟨h.identifier, h.notSelf⟩

theorem resolve_import_isPart (h : Importable name) :
    IsPart (importText (Service.resolve name)) (importItem (Service.resolve name)) := by
  have hwords := resolve_unitWords h.identifier
  refine import_isPart hwords.package hwords.crateAlias (.inl (resolve_packageName name)) ?_
  by_cases hblank : name = "_"
  · subst hblank
    exact .inr (by decide +kernel)
  · exact .inl (alias_isName hblank h.notSelf)

/-! ## The text of a unit -/

/-- The expression that makes a payload. -/
def payloadExpr (tags : String) (p : Option Payload) : Expr := (p.map (·.expr tags)).getD .anything

/-- The function of a service of a name. -/
def functionOf (name : String) : Item :=
  functionItem (Service.resolve name) (payloadExpr "updated_tags" (tagPayload? (Service.resolve name)))
    (payloadExpr "removed_tags" (untagPayload? (Service.resolve name)))

/-- The tokens of the values that carry the tags. -/
theorem functionOf_valued (h : IsIdentifier name) : ∃ tagTokens untagTokens,
    Valued (Service.resolve name) tagTokens untagTokens (payloadExpr "updated_tags" (tagPayload? (Service.resolve name)))
      (payloadExpr "removed_tags" (untagPayload? (Service.resolve name))) := by
  obtain ⟨_, _, htag, huntag, -, -, tagTokens, untagTokens, hvalues⟩ := known_payloads h (resolve_knownExpressions name)
  unfold payloadExpr
  rw [htag, huntag]
  exact ⟨tagTokens, untagTokens, hvalues⟩

theorem functionOf_isPart (h : Admissible name) : IsPart (functionText (Service.resolve name)) (functionOf name) := by
  obtain ⟨tagTokens, untagTokens, hvalues⟩ := functionOf_valued h.identifier
  exact function_isPart (resolve_unitNames h) (resolve_members name) (resolve_namedOperations name) hvalues

/-- The line that imports the crate of a service. -/
def importLine (name : String) : String :=
  "use " ++ Registry.tagPackage name ++ " as " ++ Registry.crateAlias name ++ ";\n"

/-- The line that imports what the functions share. -/
def sharedLine : String := "use tagsync_tags::\x7bKeyValueTags, UpdateTagsError\x7d;\n"

/-- The unit of services of the given names, in the given order. -/
def unitText (names : List String) : String :=
  header ++ "\n\n" ++ String.join (names.map importLine) ++ sharedLine ++
    String.join (names.map fun name => (functionOf name).text)

/-- An import is laid out on one line. -/
theorem importItem_line (service : Service) :
    (importItem service).text = "use " ++ service.tagPackage ++ " as " ++ service.crateAlias ++ ";\n" := by
  unfold importItem Item.text Item.docs
  simp [attributesDocs, ItemKind.docs, UseTree.docs, Visibility.text, Doc.lines, Doc.renderAll, Doc.render, Pen.write,
    Doc.newline, Gap.render, Gap.newline, Pen.writeSome, Pen.start, String.append_assoc]

theorem importItem_text (name : String) : (importItem (Service.resolve name)).text = importLine name := importItem_line _

theorem sharedItem_text : sharedItem.text = sharedLine := by decide +kernel

theorem file_text (items : List Item) : (File.mk none [] items).text = String.join (items.map Item.text) := by
  cases items with
  | nil => rfl
  | cons item items =>
    show "" ++ "" ++ _ = _
    simp

theorem format_eq {text : String} {items : List Item} (h : ReadsAs text items) :
    format text = .ok (header ++ "\n\n" ++ String.join (items.map Item.text)) := by
  unfold format
  rw [h.read]
  exact congrArg (fun text => Except.ok (header ++ "\n\n" ++ text)) (file_text items)

theorem source_of_render {t : Template} {text : String} (h : render t (services names) = .ok text) :
    source t names = format text := by
  rw [source, h]
  rfl

/-- What is rendered for services of the given names, in the given order. -/
def renderedText (names : List String) : String :=
  String.join (names.map fun name => importText (Service.resolve name)) ++
    (sharedImportText ++ (String.join (names.map fun name => functionText (Service.resolve name)) ++ "\n"))

theorem render_services (names : List String) :
    render updateTags (services names) = .ok (renderedText (distinctNames names)) := by
  rw [render_updateTags, services, List.map_map, List.map_map, renderedText]
  simp only [String.append_assoc]
  rfl

/-- The items of the unit of services of the given names, in the given order. -/
def unitItems (names : List String) : List Item :=
  names.map (fun name => importItem (Service.resolve name)) ++ sharedItem :: names.map functionOf

theorem reads_unitItems (h : ∀ name ∈ names, Admissible name) : ReadsAs (renderedText names) (unitItems names) := by
  have hfunctions := ReadsAs.join (fun name hname => (functionOf_isPart (h name hname)).standsAs) ReadsAs.end
  have hall := ReadsAs.join (fun name hname => (resolve_import_isPart (h name hname).importable).standsAs)
    (shared_isPart.before hfunctions)
  rw [List.append_nil] at hall
  exact hall

theorem unitItems_text (names : List String) :
    header ++ "\n\n" ++ String.join ((unitItems names).map Item.text) = unitText names := by
  simp only [unitItems, unitText, List.map_append, List.map_cons, List.map_map, Function.comp_def,
    importItem_text, sharedItem_text, String.join_append, String.join_cons, String.append_assoc]

/-- **Admissible names have a unit**, and nothing in it depends on more than one of
them. -/
theorem source_admissible (h : ∀ name ∈ names, Admissible name) :
    source updateTags names = .ok (unitText (distinctNames names)) := by
  have hread := reads_unitItems fun name hname => h name (mem_distinctNames.1 hname)
  rw [source_of_render (render_services names), format_eq hread, unitItems_text]

end Retag.SourceUnit
