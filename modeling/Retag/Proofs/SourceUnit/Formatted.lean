/-
Units that are formatted again. What is rendered for services, with any identifiers in the
places of their names, is formatted to a unit that formatting leaves alone
(`format_format`). The items that are read of it are read again from the lines on which they
were laid out, and the header, which is a comment, is left out before it is put in again.
-/
import Retag.Proofs.SourceUnit.Decided

namespace Retag.SourceUnit

open Code

variable {service : Service} {name text unit : String} {items : List Item} {file : File}

/-! ## The header -/

/-- The header stands at the start of a text and nowhere else. -/
structure HeadedOnce (text : String) : Prop where
  start : ∃ body, text = header ++ body
  once : ∀ before after, text = before ++ header ++ after → before = ""

theorem header_mark : ∃ line, header.toList = commentMark ++ line := ⟨header.toList.drop 4, by decide +kernel⟩

theorem headedOnce {body : List Char} (h : Unmarked body) (htext : text.toList = header.toList ++ '\n' :: body) :
    HeadedOnce text := by
  refine ⟨⟨String.ofList ('\n' :: body), String.toList_inj.1 (by simp [htext])⟩, fun before after heq => ?_⟩
  obtain ⟨line, hline⟩ := header_mark
  have hlist := congrArg String.toList heq
  rw [htext, String.toList_append, String.toList_append] at hlist
  cases hbefore : before.toList with
  | nil => exact String.toList_eq_nil_iff.1 hbefore
  | cons c cs =>
    -- Behind the first character there is no mark of the header.
    have htail : header.toList.tail ++ '\n' :: body = cs ++ header.toList ++ after.toList := by
      have hcons : header.toList = '/' :: header.toList.tail := by decide +kernel
      rw [hbefore, hcons] at hlist
      exact (List.cons.inj hlist).2
    have hunmarked : Unmarked (header.toList.tail ++ '\n' :: body) := Unmarked.feed (by decide +kernel) h
    refine absurd ⟨cs, line ++ after.toList, ?_⟩ hunmarked
    rw [htail, hline]
    simp only [List.append_assoc]

/-! ## Units of items -/

/-- A unit of items that are read back is formatted to itself. -/
theorem format_items (h : ∀ item ∈ items, PrintsItem item) :
    format (header ++ "\n\n" ++ String.join (items.map Item.text)) =
      .ok (header ++ "\n\n" ++ String.join (items.map Item.text)) := by
  have hheader : header.toList = '/' :: '/' :: ' ' :: header.toList.drop 3 := by decide +kernel
  have hread := File.read_commented hheader (by decide +kernel) (ReadsAs.printed h)
  unfold format
  rw [hread]
  exact congrArg (fun text => Except.ok (header ++ "\n\n" ++ text)) (file_text items)

theorem headedOnce_items (h : ∀ item ∈ items, PrintsItem item) :
    HeadedOnce (header ++ "\n\n" ++ String.join (items.map Item.text)) := by
  have hbody : Unmarked ('\n' :: (String.join (items.map Item.text)).toList) :=
    Unmarked.feed (a := []) (by decide) (unmarked_printed h)
  exact headedOnce hbody (by simp)

/-! ## Services -/

/-- A text that stands as it is given, or an identifier in its place. -/
def KeptOrNamed (given text : String) : Prop := text = given ∨ IsIdentifier text

/-- A description in the place of another one: with any identifiers for its names, and with
values that are no expressions of their own. How many tags a call takes and whether the
identifier is a list is left open. -/
structure Overridden (given service : Service) : Prop where
  name : KeptOrNamed given.name service.name
  crateAlias : KeptOrNamed given.crateAlias service.crateAlias
  tagPackage : KeptOrNamed given.tagPackage service.tagPackage
  clientType : KeptOrNamed given.clientType service.clientType
  tagOperation : KeptOrNamed given.tagOperation service.tagOperation
  untagOperation : KeptOrNamed given.untagOperation service.untagOperation
  identifierField : KeptOrNamed given.identifierField service.identifierField
  resourceTypeField : service.resourceTypeField = given.resourceTypeField ∨
    ∀ field ∈ service.resourceTypeField, IsIdentifier field
  tagsField : KeptOrNamed given.tagsField service.tagsField
  untagTagsField : KeptOrNamed given.untagTagsField service.untagTagsField
  tagValue : service.tagValue = given.tagValue ∨ service.tagValue = .conventional
  untagValue : service.untagValue = given.untagValue ∨ service.untagValue ∈ [.fullTags, .keyObjects, .keys]

theorem KeptOrNamed.identifier {given : String} (h : KeptOrNamed given text) (hgiven : IsIdentifier given) :
    IsIdentifier text := by
  rcases h with rfl | h
  · exact hgiven
  · exact h

namespace Overridden

theorem isCrateWord (h : Overridden (Service.resolve name) service) (hname : IsIdentifier name) : IsCrateWord service.crateAlias :=
  h.crateAlias.symm.imp_right fun hkept => ⟨name, hname, hkept⟩

theorem functionNames (h : Overridden (Service.resolve name) service) (hname : IsIdentifier name) : FunctionNames service where
  identifierField := (h.identifierField.identifier (isIdentifier_of_plain (resolve_members name).identifierField)).parts
  resourceTypeField field hfield := by
    rcases h.resourceTypeField with hkept | hnamed
    · exact parts_of_plain ((resolve_members name).resourceTypeField field (hkept ▸ hfield))
    · exact (hnamed field hfield).parts
  tagsField := (h.tagsField.identifier (isIdentifier_of_plain (resolve_members name).tagsField)).parts
  untagTagsField := (h.untagTagsField.identifier (isIdentifier_of_plain (resolve_members name).untagTagsField)).parts
  name := h.name.identifier hname
  client := h.clientType.symm.imp_right fun hkept => ⟨name, hname, hkept⟩
  tagOperation := h.tagOperation.identifier (isIdentifier_of_plain (resolve_members name).tagOperation)
  untagOperation := h.untagOperation.identifier (isIdentifier_of_plain (resolve_members name).untagOperation)

theorem knownExpressions (h : Overridden (Service.resolve name) service) : KnownExpressions service where
  tag expr hexpr := by
    rcases h.tagValue with hkept | hconventional
    · exact (resolve_knownExpressions name).tag expr (hkept ▸ hexpr)
    · rw [hconventional] at hexpr
      cases hexpr
  untag expr hexpr := by
    rcases h.untagValue with hkept | hother
    · exact (resolve_knownExpressions name).untag expr (hkept ▸ hexpr)
    · rw [hexpr] at hother
      simp at hother

end Overridden

/-- The parts of what is rendered, each on a new line. -/
def unitParts (services : List Service) : List String :=
  services.map importText ++ sharedImportText :: services.map functionText

theorem render_parts (services : List Service) :
    render updateTags services = .ok (String.join (unitParts services) ++ "\n") := by
  rw [render_updateTags, unitParts, String.join_append, String.join_cons, ← String.append_assoc]

theorem unitParts_decided {services : List Service}
    (h : ∀ service ∈ services, ∃ name, IsIdentifier name ∧ Overridden (Service.resolve name) service) :
    ∀ part ∈ unitParts services, Decided part := by
  simp only [unitParts, List.forall_mem_append, List.forall_mem_cons, List.forall_mem_map]
  refine ⟨fun service hservice => ?_, shared_decided, fun service hservice => ?_⟩
  · obtain ⟨name, hname, hoverridden⟩ := h service hservice
    exact import_decided (hoverridden.tagPackage.identifier (resolve_package hname.parts)) (hoverridden.isCrateWord hname)
  · obtain ⟨name, hname, hoverridden⟩ := h service hservice
    exact function_decided (hoverridden.functionNames hname) hoverridden.knownExpressions

theorem format_eq_ok (h : format text = .ok unit) :
    ∃ file, File.read text = some file ∧ unit = header ++ "\n\n" ++ file.text := by
  unfold format at h
  split at h
  next file hread => exact ⟨file, hread, (Except.ok.inj h).symm⟩
  next => cases h

/-- **Formatting leaves its own output alone.** Whatever identifiers stand in the places of
the names, a unit of the services begins with the header, has it once, and is formatted to
itself. -/
theorem format_format {services : List Service}
    (h : ∀ service ∈ services, ∃ name, IsIdentifier name ∧ Overridden (Service.resolve name) service)
    (hrender : render updateTags services = .ok text) (hformat : format text = .ok unit) :
    HeadedOnce unit ∧ format unit = .ok unit := by
  rw [render_parts] at hrender
  obtain rfl := Except.ok.inj hrender
  obtain ⟨file, hread, rfl⟩ := format_eq_ok hformat
  obtain ⟨items, rfl, hitems⟩ := read_decided (unitParts_decided h) hread
  rw [file_text]
  exact ⟨headedOnce_items hitems, format_items hitems⟩

/-- A description of queues under other and longer names. -/
def renamedQueues : Service :=
  { Service.resolve "sqs" with
    name := "queues_of_all_regions"
    tagPackage := "aws_sdk_queues_of_all_regions"
    tagOperation := "TagEveryQueueOfTheRegionThatIsNamed"
    batchSize := some 10
    identifierIsSequence := true
    resourceTypeField := some "TypeOfTheResource"
    untagValue := .keyObjects }

theorem renamedQueues_overridden : Overridden (Service.resolve "sqs") renamedQueues where
  name := .inr (by decide)
  crateAlias := .inl rfl
  tagPackage := .inr (by decide)
  clientType := .inl rfl
  tagOperation := .inr (by decide)
  untagOperation := .inl rfl
  identifierField := .inl rfl
  resourceTypeField := .inr (by decide)
  tagsField := .inl rfl
  untagTagsField := .inl rfl
  tagValue := .inl rfl
  untagValue := .inr (by decide)

theorem renamedQueues_readsAs : ∃ items, ReadsAs (String.join (unitParts [renamedQueues]) ++ "\n") items := by
  have hnames : UnitNames renamedQueues :=
    { name := by decide
      package := (by decide : IsIdentifier renamedQueues.tagPackage).takesWord
      crateAlias := alias_takesWord (by decide : IsIdentifier "sqs")
      client := rfl
      packageName := by decide
      aliasName := (resolve_unitNames (by decide : Admissible "sqs")).aliasName }
  have hmembers : PlainMembers renamedQueues :=
    { resolve_members "sqs" with
      tagOperation := by decide
      resourceTypeField := by decide }
  have hoperations : NamedOperations renamedQueues := { resolve_namedOperations "sqs" with tag := by decide +kernel }
  obtain ⟨_, _, -, -, -, -, _, _, hvalues⟩ := known_payloads hnames.name renamedQueues_overridden.knownExpressions
  have hfunction := function_isPart hnames hmembers hoperations hvalues
  have himport := import_isPart hnames.package hnames.crateAlias (.inl hnames.packageName) (.inl hnames.aliasName)
  exact ⟨_, by simpa [unitParts, String.join_cons, String.append_assoc] using himport.before (shared_isPart.before (hfunction.before .end))⟩

theorem format_format_renamedQueues : ∃ text unit, render updateTags [renamedQueues] = .ok text ∧ format text = .ok unit ∧
    HeadedOnce unit ∧ format unit = .ok unit := by
  obtain ⟨items, hread⟩ := renamedQueues_readsAs
  have hservices : ∀ service ∈ [renamedQueues], ∃ name, IsIdentifier name ∧ Overridden (Service.resolve name) service := by
    simpa using ⟨"sqs", by decide, renamedQueues_overridden⟩
  exact ⟨_, _, render_parts _, format_eq hread, format_format hservices (render_parts _) (format_eq hread)⟩

end Retag.SourceUnit
