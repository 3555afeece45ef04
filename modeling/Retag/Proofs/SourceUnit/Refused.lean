/-
Identifiers that no unit is made for, `Self` and `_`. What is rendered for a list of
identifiers with one of them among it makes no file (`read_inadmissible`): the reading
ends at the import of `Self`, or behind all imports at the function of `_`.
-/
import Retag.Proofs.Code.Failing
import Retag.Proofs.SourceUnit.Admissible

namespace Retag.SourceUnit

open Code

variable {name : String} {names : List String} {tail : List Char}

/-! ## Imports -/

theorem alias_beginsWith (h : IsIdentifier name) (hbreaks : BreaksOff tail) :
    BeginsWith ((Registry.crateAlias name).toList ++ tail) [.word (Registry.crateAlias name)] tail := by
  obtain hword | ⟨hraw, halias⟩ := alias_word h
  · exact hword.beginsWith hbreaks
  · rw [halias]
    exact h.beginsWith_raw hraw hbreaks

theorem importText_toList (name : String) : (importText (Service.resolve name)).toList ++ tail =
    '\n' :: ("use".toList ++ ' ' :: ((Service.resolve name).tagPackage.toList ++ ' ' :: ("as".toList ++ ' ' ::
      ((Registry.crateAlias name).toList ++ ';' :: tail)))) := by
  have halias : (Service.resolve name).crateAlias = Registry.crateAlias name := rfl
  rw [importText, halias]
  simp

/-- The tokens of an import, up to the alias. -/
theorem import_beginsWith (h : IsIdentifier name) :
    BeginsWith ((importText (Service.resolve name)).toList ++ tail)
      [.word "use", .word (Service.resolve name).tagPackage, .word "as"]
      ((Registry.crateAlias name).toList ++ ';' :: tail) := by
  have huse : IsIdentifier "use" := by decide
  have has : IsIdentifier "as" := by decide
  rw [importText_toList]
  exact .blank isSpace_feed (huse.beginsWith_spaced.trans ((resolve_package h.parts).beginsWith_spaced.trans has.beginsWith_spaced))

/-- No table has `Self`, so its crate is imported under a word that is reserved. -/
theorem import_self_refused {ts : List Token} {fuel : Nat}
    (hread : readTokens fuel ((importText (Service.resolve "Self")).toList ++ tail) = some ts) : Refused ts := by
  have hidentifier : IsIdentifier "Self" := by decide
  obtain ⟨_, _, halias, rfl⟩ := import_beginsWith hidentifier _ _ hread
  obtain ⟨_, later, hend, rfl⟩ := alias_beginsWith hidentifier (breaksOff_cons (by decide)) _ _ halias
  obtain ⟨_, later, -, rfl⟩ := beginsWith_sign (by decide) _ _ hend
  refine .first rfl fun fuel hfuel => ?_
  obtain ⟨fuel, rfl⟩ : ∃ n, fuel = n + 3 := ⟨fuel - 3, by simp only [List.length_cons] at hfuel; omega⟩
  have hself : (isName (Registry.crateAlias "Self") || Registry.crateAlias "Self" == "_") = false := by decide +kernel
  refine (readItem_renamed fuel).trans (if_neg ?_)
  rw [hself, Bool.and_false]
  decide

/-- Imports with that of `Self` among them, whatever follows. -/
theorem imports_refused (h : ∀ name ∈ names, IsIdentifier name) (hself : "Self" ∈ names) {fuel : Nat} {ts : List Token}
    (hread : readTokens fuel ((String.join (names.map fun name => importText (Service.resolve name))).toList ++ tail) = some ts) :
    Refused ts := by
  induction names generalizing fuel ts with
  | nil => cases hself
  | cons name names ih =>
    obtain ⟨hname, hnames⟩ := List.forall_mem_cons.1 h
    rw [List.map_cons, String.join_cons, String.toList_append, List.append_assoc] at hread
    by_cases hne : name = "Self"
    · subst hne
      exact import_self_refused hread
    · obtain ⟨_, _, halias, rfl⟩ := import_beginsWith hname _ _ hread
      obtain ⟨_, _, hend, rfl⟩ := alias_beginsWith hname (breaksOff_cons (by decide)) _ _ halias
      obtain ⟨_, later, hlater, rfl⟩ := beginsWith_sign (by decide) _ _ hend
      have hmem : "Self" ∈ names := (List.mem_cons.1 hself).resolve_left (Ne.symm hne)
      -- Whether or not this import is one, nothing more than its tokens is read for it.
      show Refused (.word "use" :: .word (Service.resolve name).tagPackage :: .word "as" ::
        .word (Registry.crateAlias name) :: .sign ';' (beginsSign _) :: later)
      refine .later rfl ?_ (fun fuel hfuel item rest hitem => ?_) (ih hnames hmem hlater)
      · simp only [List.length_cons]
        omega
      · obtain ⟨fuel, rfl⟩ : ∃ n, fuel = n + 3 := ⟨fuel - 3, by simp only [List.length_cons] at hfuel; omega⟩
        have hrest := (readItem_renamed fuel).symm.trans hitem
        split at hrest
        next => exact (Prod.mk.inj (Option.some.inj hrest)).2.symm
        next => cases hrest

/-! ## The function of the blank -/

variable {rest : List Token}

/-- A type is a blank or begins with a path, and no path begins with a blank. -/
theorem readParameters_blank (fuel : Nat) :
    readList (readBinding (fuel + 3) true) .parenthesis (fuel + 3)
      (.word "conn" :: .sign ':' false :: .sign '&' false :: .word "_" :: .sign ':' true :: rest) = none := by
  have hbinding : readBinding (fuel + 3) true
      (.word "conn" :: .sign ':' false :: .sign '&' false :: .word "_" :: .sign ':' true :: rest) =
      some (parameter "conn" (.reference none false .inferred), .sign ':' true :: rest) := rfl
  have hcomma : sign "," (.sign ':' true :: rest) = none := rfl
  simp [readList, closing, hbinding, hcomma]

/-- A function whose parameters cannot be read, with the type of the client among them. -/
theorem function_no_parameters {service : Service} {client : List Token} (h : ∀ fuel rest, 3 ≤ fuel →
    readList (readBinding fuel true) .parenthesis fuel
      (.word "conn" :: .sign ':' false :: .sign '&' false :: (client ++ .sign ',' false :: rest)) = none)
    (tagTokens untagTokens rest : List Token) :
    Refused (functionTokens service client tagTokens untagTokens ++ rest) := by
  unfold functionTokens
  simp only [List.append_assoc, List.cons_append]
  exact .function fun fuel hfuel => readFunction_no_parameters (isName_function _) rfl (h fuel _ (by omega))

theorem function_blank (service : Service) (tagTokens untagTokens rest : List Token) :
    Refused (functionTokens service (clientTokens "_") tagTokens untagTokens ++ rest) := by
  refine function_no_parameters (fun fuel rest hfuel => ?_) tagTokens untagTokens rest
  obtain ⟨fuel, rfl⟩ : ∃ n, fuel = n + 3 := ⟨fuel - 3, by omega⟩
  exact readParameters_blank fuel

/-- The tokens of functions, whatever can be read of them. -/
theorem functions_onNewLine (h : ∀ name ∈ names, IsIdentifier name) :
    ∃ ts, OnNewLine (String.join (names.map fun name => functionText (Service.resolve name)) ++ "\n") ts := by
  induction names with
  | nil => exact ⟨[], ⟨[], by simp⟩, by simpa using Lexes.nil.blank, rfl⟩
  | cons name names ih =>
    obtain ⟨hname, hnames⟩ := List.forall_mem_cons.1 h
    obtain ⟨tr, hline⟩ := ih hnames
    obtain ⟨tagTokens, untagTokens, hvalues⟩ := functionOf_valued hname
    rw [List.map_cons, String.join_cons, String.append_assoc]
    exact ⟨_, function_onNewLine (resolve_unitWords hname) (resolve_members name) hvalues hline⟩

theorem functions_refused (h : ∀ name ∈ names, Importable name) (hblank : "_" ∈ names) :
    RefusedAs (String.join (names.map fun name => functionText (Service.resolve name)) ++ "\n") := by
  induction names with
  | nil => cases hblank
  | cons name names ih =>
    obtain ⟨hname, hnames⟩ := List.forall_mem_cons.1 h
    rw [List.map_cons, String.join_cons, String.append_assoc]
    by_cases hne : name = "_"
    · subst hne
      obtain ⟨tr, hline⟩ := functions_onNewLine fun name hmem => (hnames name hmem).identifier
      obtain ⟨tagTokens, untagTokens, hvalues⟩ := functionOf_valued hname.identifier
      have hall := function_onNewLine (resolve_unitWords hname.identifier) (resolve_members "_") hvalues hline
      exact ⟨_, hall, function_blank _ tagTokens untagTokens tr⟩
    · have hmem : "_" ∈ names := (List.mem_cons.1 hblank).resolve_left (Ne.symm hne)
      exact (functionOf_isPart ⟨hname.identifier, hne, hname.notSelf⟩).beforeRefused (ih hnames hmem)

/-! ## Lists without a unit -/

theorem read_inadmissible (hnames : ∀ name ∈ names, IsIdentifier name) (h : ∃ name ∈ names, ¬Admissible name) :
    File.read (renderedText names) = none := by
  by_cases hself : "Self" ∈ names
  · obtain ⟨cs, hcs⟩ : ∃ cs, (renderedText names).toList = '\n' :: cs := by
      cases names with
      | nil => cases hself
      | cons name names =>
        rw [renderedText, List.map_cons, String.join_cons, String.append_assoc, String.toList_append, importText_toList]
        exact ⟨_, rfl⟩
    refine File.read_refused hcs fun ts htokens => ?_
    rw [renderedText, String.toList_append] at htokens
    exact imports_refused hnames hself htokens
  · have himport : ∀ name ∈ names, Importable name := fun name hname => ⟨hnames name hname, fun heq => hself (heq ▸ hname)⟩
    have hblank : "_" ∈ names := by
      obtain ⟨name, hmem, hname⟩ := h
      by_contra hblank
      exact hname ⟨hnames name hmem, fun heq => hblank (heq ▸ hmem), (himport name hmem).notSelf⟩
    have hfunctions := functions_refused himport hblank
    exact (RefusedAs.join (fun name hname => resolve_import_isPart (himport name hname))
      (shared_isPart.beforeRefused hfunctions)).read

theorem format_ok {text unit : String} (h : format text = .ok unit) : File.read text ≠ none := by
  intro hread
  rw [format, hread] at h
  cases h

end Retag.SourceUnit
