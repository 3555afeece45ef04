/-
Names that are words of ASCII, reserved or not. The name of a service stands in its
unit as an alias, at the head of a path and inside longer words, and each place has
words that cannot stand there. Whatever is reserved is written raw or with an
underscore, with one exception: no table has `Self`, so there is no unit of a
service of this name (`word_has_unit`).
-/
import Retag.Proofs.Code.Layout
import Retag.Proofs.SourceUnit.Refused

namespace Retag.SourceUnit

open Code

variable {name : String}

theorem admissible_of_word (h : IsWord name) (hblank : name ≠ "_") (hself : name ≠ "Self") : Admissible name :=
  ⟨h.isIdentifier, hblank, hself⟩

/-- The crate of `Self` cannot be imported under this name. -/
theorem source_self (unit : String) : source updateTags ["Self"] ≠ .ok unit := by
  intro hunit
  have hread : File.read (renderedText ["Self"]) = none := read_inadmissible (by decide) (by decide)
  rw [source_of_render (render_services _)] at hunit
  exact format_ok hunit hread

/-- Where there is no unit, what is rendered makes no file; nothing else can fail. -/
theorem source_eq_error (h : ∀ unit, source updateTags [name] ≠ .ok unit) :
    source updateTags [name] = .error .notFormatted := by
  rw [source_of_render (render_services _)] at h ⊢
  unfold format at h ⊢
  cases hread : File.read (renderedText (distinctNames [name])) with
  | none => rfl
  | some file =>
    rw [hread] at h
    exact absurd rfl (h _)

theorem infix_join {names : List String} (text : String → String) (h : name ∈ names) :
    (text name).toList <:+: (String.join (names.map text)).toList := by
  obtain ⟨earlier, later, rfl⟩ := List.append_of_mem h
  rw [List.map_append, List.map_cons, String.join_append, String.join_cons, String.toList_append, String.toList_append]
  exact List.infix_append' ..

/-- The signature of the function of a service stands in the unit. -/
theorem unitText_function {names : List String} (h : name ∈ names) :
    ("pub async fn " ++ name ++ "_update_tags(").toList <:+: (unitText names).toList := by
  have hsignature : "pub async fn " ++ name ++ "_update_tags(" = Visibility.text .everyone ++
      String.join ((functionSignature (Service.resolve name)).qualifiers.map (· ++ " ")) ++ "fn " ++
      (functionSignature (Service.resolve name)).name ++ "(" := by
    show _ = "pub " ++ String.join ["async" ++ " "] ++ "fn " ++ (name ++ "_update_tags") ++ "("
    simp [String.append_assoc]
  have htext := function_text ((functionDocs (Service.resolve name)).map .doc) .everyone
    (s := functionSignature (Service.resolve name)) rfl
    (bodyStmts (Service.resolve name) (payloadExpr "updated_tags" (tagPayload? (Service.resolve name)))
      (payloadExpr "removed_tags" (untagPayload? (Service.resolve name))))
  rw [← hsignature] at htext
  refine (htext.trans (infix_join (fun name => (functionOf name).text) h)).trans ?_
  rw [unitText, String.toList_append]
  exact (List.suffix_append ..).isInfix

/-- **Every word of ASCII but `Self` has a unit**, reserved or not. The crate is
imported under the alias, the client of the function has a type of the crate of this
alias, and the function is named after the service. -/
theorem word_has_unit (h : IsWord name) (hblank : name ≠ "_") :
    (name ≠ "Self" → ∃ text, render updateTags (services [name]) = .ok text ∧
      File.read text = some ⟨none, [], [importItem (Service.resolve name), sharedItem, functionOf name]⟩ ∧
      source updateTags [name] = .ok (unitText [name]) ∧
      ("pub async fn " ++ name ++ "_update_tags(").toList <:+: (unitText [name]).toList) ∧
    (name = "Self" → source updateTags [name] = .error .notFormatted) := by
  refine ⟨fun hself => ?_, fun hself => ?_⟩
  · have hadmissible : ∀ other ∈ [name], Admissible other := by
      simpa using admissible_of_word h hblank hself
    have hdistinct : distinctNames [name] = [name] := rfl
    refine ⟨_, render_services _, ?_, ?_, unitText_function List.mem_cons_self⟩
    · rw [hdistinct, (reads_unitItems hadmissible).read]
      rfl
    · rw [source_admissible hadmissible, hdistinct]
  · subst hself
    exact source_eq_error source_self

theorem word_has_unit_type :
    (IsWord "type" ∧ "type" ≠ "_") ∧ source updateTags ["type"] = .ok (unitText ["type"]) ∧
      importLine "type" = "use aws_sdk_type as r#type;\n" := by
  have hword : IsWord "type" := by decide
  obtain ⟨_, -, -, hsource, -⟩ := (word_has_unit hword (by decide)).1 (by decide)
  exact ⟨⟨hword, by decide⟩, hsource, by decide +kernel⟩

/-- `Self` is a word, and it has no unit. -/
theorem self_unnameable : IsWord "Self" ∧ "Self" ≠ "_" ∧ ¬∃ unit, source updateTags ["Self"] = .ok unit := by
  refine ⟨by decide, by decide, ?_⟩
  rintro ⟨unit, hunit⟩
  exact source_self unit hunit

end Retag.SourceUnit
