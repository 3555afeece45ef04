/-
The names that a unit brings into scope: one for each service, under which its crate is
imported, and the two that the functions share.

The aliases are not chosen to be distinct. A word of paths is lengthened by an
underscore, and the name that this gives may itself be one of a service
(`crateAlias_eq_iff`). Nor does anything keep a service from having one of the shared
names. Reading a unit only looks at its form, so there is a unit in either case, with
one name for two things. In no other case are two names of a scope equal
(`scope_of_source`).
-/
import Retag.Proofs.SourceUnit.Unbroken

namespace Retag.Code

/-- A name without the mark `r#`, which is no part of it. -/
def unmarked (s : String) : String :=
  match s.toList with
  | 'r' :: '#' :: cs => String.ofList cs
  | _ => s

mutual

/-- The names that an import brings into scope, if they are written; a star brings
others. `outer` is the name that leads to the import, which `self` stands for. -/
def UseTree.scope (outer : List String) : UseTree → List String
  | .name s => if s = "self" then outer else [unmarked s]
  | .renamed _ t => if t = "_" then [] else [unmarked t]
  | .all => []
  | .path s rest => rest.scope [unmarked s]
  | .group items => UseTree.scopes outer items

def UseTree.scopes (outer : List String) : List UseTree → List String
  | [] => []
  | item :: items => item.scope outer ++ UseTree.scopes outer items

end

def ItemKind.scope : ItemKind → List String
  | .use _ tree => tree.scope []
  | _ => []

/-- The names that the imports of a file bring into scope, in the order of the file. -/
def File.scope (file : File) : List String := file.items.flatMap (·.kind.scope)

end Retag.Code

namespace Retag.SourceUnit

open Code
open Text (isIdentifierPart)

variable {name : String} {names : List String}

/-! ## Aliases that are equal -/

/-- The alias of one name is another name. -/
def Escapes (a b : String) : Prop :=
  (a ∈ Registry.pathKeywords ∧ b = a ++ "_") ∨ (a ∈ Registry.keywords ∧ b = "r#" ++ a)

theorem unmarked_raw (s : String) : unmarked ("r#" ++ s) = s := by
  have hlist : ("r#" ++ s).toList = 'r' :: '#' :: s.toList := by simp
  unfold unmarked
  rw [hlist]
  exact String.ofList_toList

/-- With an underscore a word of paths is no keyword, and has no mark. -/
theorem pathKeyword_lengthened : ∀ k ∈ Registry.pathKeywords,
    k ++ "_" ∉ Registry.pathKeywords ++ Registry.keywords ∧ unmarked (k ++ "_") = k ++ "_" := by decide +kernel

theorem keyword_marked : ∀ k ∈ Registry.keywords,
    k ∉ Registry.pathKeywords ∧ "r#" ++ k ∉ Registry.pathKeywords ++ Registry.keywords := by decide +kernel

theorem crateAlias_of_not_mem (h : name ∉ Registry.pathKeywords ++ Registry.keywords) : Registry.crateAlias name = name := by
  rw [List.mem_append, not_or] at h
  obtain ⟨hpath, -⟩ | ⟨hkeyword, -⟩ | ⟨-, -, halias⟩ := crateAlias_cases name
  · exact absurd hpath h.1
  · exact absurd hkeyword h.2
  · exact halias

/-- An alias that is not the name itself is no keyword. -/
theorem Escapes.crateAlias {a b : String} (h : Escapes a b) : Registry.crateAlias a = b ∧ Registry.crateAlias b = b := by
  obtain ⟨hpath, rfl⟩ | ⟨hkeyword, rfl⟩ := h
  · refine ⟨?_, crateAlias_of_not_mem (pathKeyword_lengthened a hpath).1⟩
    obtain ⟨-, halias⟩ | ⟨hkeyword, -⟩ | ⟨hother, -⟩ := crateAlias_cases a
    · exact halias
    · exact absurd hpath (keyword_marked a hkeyword).1
    · exact absurd hpath hother
  · obtain ⟨hpath, hmarked⟩ := keyword_marked a hkeyword
    refine ⟨?_, crateAlias_of_not_mem hmarked⟩
    obtain ⟨hother, -⟩ | ⟨-, halias⟩ | ⟨-, hother, -⟩ := crateAlias_cases a
    · exact absurd hother hpath
    · exact halias
    · exact absurd hkeyword hother

theorem alias_self_or_escapes (name : String) :
    Registry.crateAlias name = name ∨ Escapes name (Registry.crateAlias name) := by
  obtain ⟨hpath, halias⟩ | ⟨hkeyword, halias⟩ | ⟨-, -, halias⟩ := crateAlias_cases name
  · exact .inr (.inl ⟨hpath, halias⟩)
  · exact .inr (.inr ⟨hkeyword, halias⟩)
  · exact .inl halias

/-- Two keywords do not share an alias. -/
theorem Escapes.injective {a b c : String} (ha : Escapes a c) (hb : Escapes b c) : a = b := by
  have hapart : ∀ k ∈ Registry.pathKeywords, ∀ l ∈ Registry.keywords, k ++ "_" ≠ "r#" ++ l := by
    intro k hk l hl heq
    obtain ⟨hlonger, hunmarked⟩ := pathKeyword_lengthened k hk
    rw [heq, unmarked_raw] at hunmarked
    exact hlonger (List.mem_append_right _ (heq ▸ hunmarked ▸ hl))
  obtain ⟨hpath, rfl⟩ | ⟨hkeyword, rfl⟩ := ha
  · obtain ⟨-, heq⟩ | ⟨hother, heq⟩ := hb
    · exact (String.append_left_inj _).1 heq
    · exact absurd heq (hapart a hpath b hother)
  · obtain ⟨hother, heq⟩ | ⟨-, heq⟩ := hb
    · exact absurd heq.symm (hapart b hother a hkeyword)
    · exact (String.append_right_inj _).1 heq

/-- Two services have one alias only if the alias of the one is the name of the other. -/
theorem crateAlias_eq_iff {a b : String} :
    Registry.crateAlias a = Registry.crateAlias b ↔ a = b ∨ Escapes a b ∨ Escapes b a := by
  constructor
  · intro h
    obtain ha | ha := alias_self_or_escapes a <;> obtain hb | hb := alias_self_or_escapes b
    · exact .inl (ha.symm.trans (h.trans hb))
    · exact .inr (.inr (by rwa [← h, ha] at hb))
    · exact .inr (.inl (by rwa [h, hb] at ha))
    · exact .inl (ha.injective (h ▸ hb))
  · rintro (rfl | h | h)
    · rfl
    · exact h.crateAlias.1.trans h.crateAlias.2.symm
    · exact h.crateAlias.2.trans h.crateAlias.1.symm

/-! ## The scope of a unit -/

/-- What the crate of a service is called in the scope of a unit. -/
def crateName (name : String) : String := unmarked (Registry.crateAlias name)

theorem unmarked_of_parts {s : String} (h : ∀ c ∈ s.toList, isIdentifierPart c = true) : unmarked s = s := by
  unfold unmarked
  split
  next cs hlist => exact absurd (h '#' (by rw [hlist]; simp)) (by decide)
  next => rfl

/-- A name is kept, but for the words of paths. -/
theorem crateName_eq (hparts : ∀ c ∈ name.toList, isIdentifierPart c = true) :
    crateName name = if name ∈ Registry.pathKeywords then name ++ "_" else name := by
  unfold crateName
  obtain ⟨hpath, halias⟩ | ⟨hkeyword, halias⟩ | ⟨hpath, -, halias⟩ := crateAlias_cases name
  · rw [halias, if_pos hpath, (pathKeyword_lengthened name hpath).2]
  · rw [halias, if_neg (keyword_marked name hkeyword).1, unmarked_raw]
  · rw [halias, if_neg hpath, unmarked_of_parts hparts]

theorem crateName_eq_iff {a b : String} (ha : ∀ c ∈ a.toList, isIdentifierPart c = true)
    (hb : ∀ c ∈ b.toList, isIdentifierPart c = true) : crateName a = crateName b ↔
      a = b ∨ (a ∈ Registry.pathKeywords ∧ b = a ++ "_") ∨ (b ∈ Registry.pathKeywords ∧ a = b ++ "_") := by
  have hlonger : ∀ k ∈ Registry.pathKeywords, k ++ "_" ∉ Registry.pathKeywords := fun k hk hmem =>
    (pathKeyword_lengthened k hk).1 (List.mem_append_left _ hmem)
  rw [crateName_eq ha, crateName_eq hb]
  split <;> split
  next hpath hother =>
    rw [String.append_left_inj]
    refine ⟨.inl, ?_⟩
    rintro (heq | ⟨-, rfl⟩ | ⟨-, rfl⟩)
    · exact heq
    · exact absurd hother (hlonger a hpath)
    · exact absurd hpath (hlonger b hother)
  next hpath hother =>
    refine ⟨fun heq => .inr (.inl ⟨hpath, heq.symm⟩), ?_⟩
    rintro (rfl | ⟨-, heq⟩ | ⟨hmem, -⟩)
    · exact absurd hpath hother
    · exact heq.symm
    · exact absurd hmem hother
  next hother hpath =>
    refine ⟨fun heq => .inr (.inr ⟨hpath, heq⟩), ?_⟩
    rintro (rfl | ⟨hmem, -⟩ | ⟨-, heq⟩)
    · exact absurd hpath hother
    · exact absurd hmem hother
    · exact heq
  next hpath hother => simp [hpath, hother]

theorem crateName_eq_shared {shared : String} (hparts : ∀ c ∈ name.toList, isIdentifierPart c = true)
    (h : shared ∈ ["KeyValueTags", "UpdateTagsError"]) : crateName name = shared ↔ name = shared := by
  have hapart : ∀ k ∈ Registry.pathKeywords, ∀ shared ∈ ["KeyValueTags", "UpdateTagsError"],
      k ++ "_" ≠ shared ∧ k ≠ shared := by decide_cbv
  rw [crateName_eq hparts]
  split
  next hpath => exact iff_of_false (hapart name hpath shared h).1 (hapart name hpath shared h).2
  next => rfl

theorem scope_unitItems (h : ∀ name ∈ names, Admissible name) :
    (File.mk none [] (unitItems names)).scope = names.map crateName ++ ["KeyValueTags", "UpdateTagsError"] := by
  have hshared : sharedItem.kind.scope = ["KeyValueTags", "UpdateTagsError"] := by decide_cbv
  have hfunction : ∀ name, (functionOf name).kind.scope = [] := fun _ => rfl
  have himport : ∀ name ∈ names, (importItem (Service.resolve name)).kind.scope = [crateName name] := by
    intro name hname
    have hword := alias_isName (h name hname).notBlank (h name hname).notSelf
    have hblank : Registry.crateAlias name ≠ "_" := fun heq => absurd (heq ▸ hword) (by decide)
    exact if_neg hblank
  have himports : names.flatMap (fun name => (importItem (Service.resolve name)).kind.scope) = names.map crateName := by
    rw [← List.flatMap_pure_eq_map]
    exact List.flatMap_congr himport
  unfold File.scope unitItems
  simp only [List.flatMap_append, List.flatMap_map, List.flatMap_cons, hshared, hfunction, himports]
  simp

theorem nodup_crateNames_iff (hnodup : names.Nodup) (hparts : ∀ name ∈ names, ∀ c ∈ name.toList, isIdentifierPart c = true) :
    (names.map crateName).Nodup ↔ ∀ k ∈ Registry.pathKeywords, k ∈ names → k ++ "_" ∉ names := by
  have hlonger : ∀ k ∈ Registry.pathKeywords, k ≠ k ++ "_" := fun k hk heq =>
    (pathKeyword_lengthened k hk).1 (List.mem_append_left _ (heq ▸ hk))
  rw [List.nodup_map_iff_inj_on hnodup]
  constructor
  · intro hinjective k hpath hk hlong
    have heq := (crateName_eq_iff (hparts k hk) (hparts _ hlong)).2 (.inr (.inl ⟨hpath, rfl⟩))
    exact hlonger k hpath (hinjective k hk _ hlong heq)
  · intro hfree a ha b hb heq
    obtain heq | ⟨hpath, rfl⟩ | ⟨hpath, rfl⟩ := (crateName_eq_iff (hparts a ha) (hparts b hb)).1 heq
    · exact heq
    · exact absurd hb (hfree a hpath ha)
    · exact absurd ha (hfree b hpath hb)

theorem nodup_scope_iff (hnodup : names.Nodup) (hparts : ∀ name ∈ names, ∀ c ∈ name.toList, isIdentifierPart c = true) :
    (names.map crateName ++ ["KeyValueTags", "UpdateTagsError"]).Nodup ↔
      (∀ k ∈ Registry.pathKeywords, k ∈ names → k ++ "_" ∉ names) ∧ "KeyValueTags" ∉ names ∧ "UpdateTagsError" ∉ names := by
  have hshared : ∀ shared ∈ ["KeyValueTags", "UpdateTagsError"], shared ∈ names.map crateName ↔ shared ∈ names := by
    intro shared hmem
    rw [List.mem_map]
    constructor
    · rintro ⟨name, hname, heq⟩
      exact (crateName_eq_shared (hparts name hname) hmem).1 heq ▸ hname
    · exact fun hname => ⟨shared, hname, (crateName_eq_shared (hparts shared hname) hmem).2 rfl⟩
  have hapart : ["KeyValueTags", "UpdateTagsError"].Nodup := by decide
  rw [List.nodup_append, nodup_crateNames_iff hnodup hparts, ← hshared "KeyValueTags" (by simp),
    ← hshared "UpdateTagsError" (by simp)]
  refine and_congr_right' ⟨fun ⟨_, h⟩ => ?_, fun ⟨hset, herror⟩ => ⟨hapart, fun name hname shared hmem heq => ?_⟩⟩
  · exact ⟨fun hmem => h _ hmem _ (by simp) rfl, fun hmem => h _ hmem _ (by simp) rfl⟩
  · subst heq
    simp only [List.mem_cons, List.not_mem_nil, or_false] at hmem
    obtain rfl | rfl := hmem
    · exact hset hname
    · exact herror hname

/-- **The names of a unit are distinct, but for three pairs of names and two single
ones**: unless one service has a word of paths for its name and another has this word
with an underscore, or one has the name of what the functions share. Aliases in
general are equal only if the alias of one service is the name of the other. -/
theorem scope_of_source (hunbroken : ∀ name ∈ names, Unbroken name.toList) {unit : String}
    (hsource : source updateTags names = .ok unit) :
    (∃ text file, render updateTags (services names) = .ok text ∧ File.read text = some file ∧
      unit = header ++ "\n\n" ++ file.text ∧ unit = unitText (distinctNames names) ∧
      file.scope = (distinctNames names).map crateName ++ ["KeyValueTags", "UpdateTagsError"] ∧
      (file.scope.Nodup ↔ (∀ k ∈ Registry.pathKeywords, k ∈ names → k ++ "_" ∉ names) ∧
        "KeyValueTags" ∉ names ∧ "UpdateTagsError" ∉ names)) ∧
    ∀ a b, Registry.crateAlias a = Registry.crateAlias b ↔ a = b ∨ Escapes a b ∨ Escapes b a := by
  refine ⟨?_, fun a b => crateAlias_eq_iff⟩
  have hadmissible : ∀ name ∈ distinctNames names, Admissible name := fun name hname =>
    (source_ok_iff hunbroken).1 ⟨unit, hsource⟩ name (mem_distinctNames.1 hname)
  have hread := reads_unitItems hadmissible
  have hscope := scope_unitItems hadmissible
  have hdistinct : (distinctNames names).Nodup := (distinctNames_ascending names).imp String.ne_of_lt
  have hnodup := nodup_scope_iff hdistinct fun name hname => (hadmissible name hname).identifier.parts
  simp only [mem_distinctNames] at hnodup
  have hformat := format_eq hread
  rw [← source_of_render (render_services names), hsource] at hformat
  obtain rfl := Except.ok.inj hformat
  refine ⟨_, ⟨none, [], unitItems (distinctNames names)⟩, render_services names, hread.read, ?_, unitItems_text _, hscope, ?_⟩
  · rw [file_text]
  · rw [hscope]
    exact hnodup

theorem scope_of_source_self :
    ((∀ name ∈ ["sqs", "type", "self"], Unbroken name.toList) ∧
      source updateTags ["sqs", "type", "self"] = .ok (unitText ["self", "sqs", "type"])) ∧
    ∃ text file, render updateTags (services ["sqs", "type", "self"]) = .ok text ∧ File.read text = some file ∧
      file.scope = ["self_", "sqs", "type", "KeyValueTags", "UpdateTagsError"] ∧ file.scope.Nodup := by
  have hunbroken : ∀ name ∈ ["sqs", "type", "self"], Unbroken name.toList := by
    simp only [List.forall_mem_cons]
    exact ⟨⟨by decide, by decide⟩, ⟨by decide, by decide⟩, ⟨by decide, by decide⟩, by simp⟩
  have hdistinct : distinctNames ["sqs", "type", "self"] = ["self", "sqs", "type"] := by decide +kernel
  have hsource : source updateTags ["sqs", "type", "self"] = .ok (unitText ["self", "sqs", "type"]) := by
    have hadmissible : ∀ name ∈ ["sqs", "type", "self"], Admissible name := by decide
    rw [source_admissible hadmissible, hdistinct]
  obtain ⟨⟨text, file, hrender, hread, -, -, hscope, hnodup⟩, -⟩ := scope_of_source hunbroken hsource
  have hnames : (distinctNames ["sqs", "type", "self"]).map crateName = ["self_", "sqs", "type"] := by
    rw [hdistinct]
    decide +kernel
  rw [hnames] at hscope
  exact ⟨⟨hunbroken, hsource⟩, text, file, hrender, hread, hscope, hnodup.2 (by decide)⟩

/-- Two services with one alias have a unit, which imports two crates under it. -/
theorem scope_collides : ∃ unit text file, source updateTags ["self", "self_"] = .ok unit ∧
    render updateTags (services ["self", "self_"]) = .ok text ∧ File.read text = some file ∧
    "self" ≠ "self_" ∧ Registry.crateAlias "self" = Registry.crateAlias "self_" ∧ ¬file.scope.Nodup := by
  have hadmissible : ∀ name ∈ distinctNames ["self", "self_"], Admissible name := by decide +kernel
  refine ⟨_, _, _, source_admissible (by decide), render_services _, (reads_unitItems hadmissible).read, by decide,
    by decide +kernel, ?_⟩
  rw [scope_unitItems hadmissible]
  decide +kernel

end Retag.SourceUnit
