/-
Descriptions with any identifiers in the places of their names. Whether the import and the
function of such a service are read depends on a few words: which ones name a crate, a type
or a method. Each part of the text is decided by itself (`Decided`): it is one item that is
read back when it is laid out, or nothing that begins with it is read. So the same holds of
a whole text (`read_decided`).
-/
import Retag.Proofs.Code.Numbers
import Retag.Proofs.SourceUnit.Memberless
import Retag.Proofs.SourceUnit.Printed
import Retag.Proofs.SourceUnit.Refused

namespace Retag.SourceUnit

open Code
open Text (isIdentifierPart isIdentifierStart isAsciiDigit)

variable {service : Service} {name operation text w : String} {ts : List Token} {fuel : Nat}

/-! ## Operations -/

/-- How the name of an operation begins in snake case: not at all, with a digit, as a name
does, or with what only continues names. -/
theorem operationTokens_cases (h : IsIdentifier operation) :
    (Text.snakeCase operation = "" ∧ operationTokens operation = []) ∨
      ((Text.snakeCase operation).toList.head?.any isAsciiDigit = true ∧
        operationTokens operation = [.literal (Text.snakeCase operation)]) ∨
      (IsIdentifier (Text.snakeCase operation) ∧ operationTokens operation = [.word (Text.snakeCase operation)]) ∨
      (∃ c cs, (Text.snakeCase operation).toList = c :: cs ∧ isIdentifierStart c = false ∧ isAsciiDigit c = false) ∧
        operationTokens operation = [] := by
  have hparts := Text.snakeCase_identifierParts h.parts
  unfold operationTokens
  cases hchars : (Text.snakeCase operation).toList with
  | nil => exact .inl ⟨String.toList_eq_nil_iff.1 hchars, rfl⟩
  | cons c cs =>
    by_cases hdigit : isAsciiDigit c = true
    · exact .inr (.inl ⟨by simpa using hdigit, if_pos hdigit⟩)
    · by_cases hstart : isIdentifierStart c = true
      · exact .inr (.inr (.inl ⟨⟨hparts, c, cs, hchars, hstart⟩, by simp [hdigit, hstart]⟩))
      · exact .inr (.inr (.inr ⟨⟨c, cs, rfl, by simpa using hstart, by simpa using hdigit⟩, by simp [hdigit, hstart]⟩))

theorem called_snakeCase (h : IsIdentifier operation) (rest : List Char) :
    Called (fun cs ts => BeginsWith cs ts rest) (Text.snakeCase operation) (operationTokens operation) := by
  have hparts := Text.snakeCase_identifierParts h.parts
  refine ⟨hparts, fun tail tt htail => BeginsWith.trans ?_ htail⟩
  rcases operationTokens_cases h with ⟨hw, htokens⟩ | ⟨hdigit, htokens⟩ | ⟨hw, htokens⟩ | ⟨⟨c, cs, hw, hstart, hdigit⟩, htokens⟩
  · rw [hw, htokens]
    exact BeginsWith.refl _
  · rw [htokens]
    exact beginsWith_digits hparts hdigit
  · rw [htokens]
    exact hw.beginsWith (breaksOff_cons (by decide))
  · rw [htokens, hw]
    intro fuel ts hread
    rw [List.cons_append, readTokens_not_start (hparts c (hw ▸ List.mem_cons_self)) hstart hdigit] at hread
    cases hread

/-- The call of an operation is an expression that is read back, or it is none. -/
theorem operation_decided (h : IsIdentifier operation) :
    (∃ call, ReadsCall operation call ∧ PrintsChain true call) ∨ Memberless operation := by
  have hparts := Text.snakeCase_identifierParts h.parts
  have hconn : ∀ {rest}, sign "::" (.sign '.' false :: rest) = none := rfl
  have hread : ∀ {rest}, ReadsChain (.word "conn" :: .sign '.' false :: rest) (.names ["conn"]) (.sign '.' false :: rest) :=
    .path (.name rfl hconn) rfl
  have hprint : PrintsChain true (.names ["conn"]) := .name (label (by decide))
  unfold ReadsCall Memberless
  rcases operationTokens_cases h with ⟨-, htokens⟩ | ⟨-, htokens⟩ | ⟨hw, htokens⟩ | ⟨-, htokens⟩
  · rw [htokens]
    exact .inr .call
  · rw [htokens]
    have hdot : '.' ∉ (Text.snakeCase operation).toList := fun hmem => absurd (hparts _ hmem) (by decide)
    cases hposition : position? (Text.snakeCase operation).toList with
    | none => exact .inr fun rest => .number (by rw [positions?_whole hdot, hposition]; rfl) _
    | some n =>
      have hpositions : positions? (Text.snakeCase operation) = some [toString n] := by
        rw [positions?_whole hdot, hposition]
        rfl
      exact .inl ⟨.call (.field (.names ["conn"]) (toString n)) [], fun rest => (hread.position hpositions).call (.nil rest),
        hprint.position (positions?_number (position?_lt hposition)) .nil⟩
  · rw [htokens]
    by_cases hname : isName (Text.snakeCase operation) = true
    · exact .inl ⟨operationCall operation, fun rest => hread.method hname (.nil rest), hprint.method (.of_word ⟨hw, hname⟩) .nil⟩
    by_cases hawait : Text.snakeCase operation = "await"
    · rw [hawait]
      exact .inl ⟨.call (.await (.names ["conn"])) [], fun rest => hread.await.call (.nil rest), hprint.await.call .nil⟩
    · exact .inr fun rest => .word (by simpa using hname) hawait _
  · rw [htokens]
    exact .inr .call

theorem method_decided (htag : IsIdentifier service.tagOperation) (huntag : IsIdentifier service.untagOperation) :
    (∃ tagCall untagCall, (ReadsCall service.tagOperation tagCall ∧ PrintsChain true tagCall) ∧
      ReadsCall service.untagOperation untagCall ∧ PrintsChain true untagCall) ∨ LacksMethod service := by
  rcases operation_decided huntag with ⟨untagCall, huntag⟩ | huntag
  · rcases operation_decided htag with ⟨tagCall, htag⟩ | htag
    · exact .inl ⟨tagCall, untagCall, htag, huntag⟩
    · exact .inr (.tag huntag.1 htag)
  · exact .inr (.untag huntag)

/-! ## Crates and clients -/

/-- An identifier, or what stands for a crate that is named by one. -/
def IsCrateWord (w : String) : Prop := IsIdentifier w ∨ ∃ name, IsIdentifier name ∧ w = Registry.crateAlias name

theorem IsCrateWord.takesWord (h : IsCrateWord w) : TakesWord w := by
  rcases h with h | ⟨name, hname, rfl⟩
  · exact h.takesWord
  · exact alias_takesWord hname

theorem IsCrateWord.spells (h : IsCrateWord w) : SpellsWord w := by
  rcases h with h | ⟨name, hname, rfl⟩
  · exact h.spells
  · rcases alias_word hname with hword | ⟨hraw, halias⟩
    · exact hword.spells
    · rw [halias]
      exact hname.spellsRaw hraw

/-- The type of a client: an identifier, or that of a crate named by one. -/
def IsClient (w : String) : Prop := IsIdentifier w ∨ ∃ name, IsIdentifier name ∧ w = Registry.clientType name

/-- No parameter has the type. -/
def Untyped (client : List Token) : Prop := ∀ fuel rest, 3 ≤ fuel →
  readList (readBinding fuel true) .parenthesis fuel
    (.word "conn" :: .sign ':' false :: .sign '&' false :: (client ++ .sign ',' false :: rest)) = none

theorem untyped_reserved (hpath : inPath w = false) (hblank : w ≠ "_") : Untyped [.word w] := by
  intro fuel rest hfuel
  obtain ⟨fuel, rfl⟩ : ∃ n, fuel = n + 3 := ⟨fuel - 3, by omega⟩
  have hbinding : readBinding (fuel + 3) true
      (.word "conn" :: .sign ':' false :: .sign '&' false :: ([.word w] ++ .sign ',' false :: rest)) = none := by
    have hpattern : readPattern (fuel + 3) (.word "conn" :: .sign ':' false :: .sign '&' false :: .word w ::
        .sign ',' false :: rest) = some (.name false false "conn", .sign ':' false :: .sign '&' false :: .word w ::
        .sign ',' false :: rest) := rfl
    have hcolon : sign ":" (.sign ':' false :: .sign '&' false :: .word w :: .sign ',' false :: rest) =
        some (.sign '&' false :: .word w :: .sign ',' false :: rest) := rfl
    unfold readBinding
    simp [hpattern, hcolon, readTy_reference_reserved hpath hblank]
  have hopen : closing .parenthesis
      (.word "conn" :: .sign ':' false :: .sign '&' false :: ([.word w] ++ .sign ',' false :: rest)) = none := rfl
  rw [readList, hopen]
  simp only [hbinding, Option.bind_eq_bind, Option.bind_none]

theorem client_decided (h : IsClient w) : ∃ client, (∀ {P}, Tokenizes P → Borrowed P w client) ∧
    ((∃ t, ReadsClient client t ∧ PrintsTy t) ∨ Untyped client) := by
  rcases h with h | ⟨name, hname, rfl⟩
  · refine ⟨[.word w], fun hP => borrowed_word hP h.takesWord, ?_⟩
    by_cases hpath : inPath w = true
    · have hmut : w ≠ "mut" := by rintro rfl; cases hpath
      exact .inl ⟨.reference none false (.path [.mk w []] false), fun rest => .reference hmut (.path (.name hpath rfl rfl)),
        (PrintsTypePath.name h.spells hpath).reference⟩
    by_cases hblank : w = "_"
    · subst hblank
      exact .inl ⟨.reference none false .inferred, fun rest => .reference (by decide) (.inferred _), .inferredReference⟩
    · exact .inr (untyped_reserved (by simpa using hpath) hblank)
  · refine ⟨clientTokens (Registry.crateAlias name), fun hP => borrowed_client hP (alias_takesWord hname), ?_⟩
    have hcrate : IsCrateWord (Registry.crateAlias name) := .inr ⟨name, hname, rfl⟩
    have hclient : PrintsTypePath [.mk "Client" []] := prints_typeName (by decide)
    by_cases hblank : name = "_"
    · subst hblank
      refine .inr fun fuel rest hfuel => ?_
      obtain ⟨fuel, rfl⟩ : ∃ n, fuel = n + 3 := ⟨fuel - 3, by omega⟩
      have halias : Registry.crateAlias "_" = "_" := by decide +kernel
      rw [halias]
      exact readParameters_blank fuel
    · have halias : inPath (Registry.crateAlias name) = true := by
        by_cases hself : name = "Self"
        · subst hself
          decide +kernel
        · exact inPath_of_name (alias_isName hblank hself)
      exact .inl ⟨clientTy _, reads_clientTy halias, (PrintsTypePath.cons hcrate.spells halias hclient).reference⟩

/-! ## Parts -/

/-- A text on a new line that is one item which is read back, or which nothing is read of. -/
structure Decided (text : String) : Prop where
  feed : ∃ cs, text.toList = '\n' :: cs
  decided : ∃ ts, (∀ cs, BeginsWith (text.toList ++ '\n' :: cs) ts ('\n' :: cs)) ∧
    (∀ later, (ts ++ later).head?.all Token.beginsItem = true) ∧
    ((∃ item, PrintsItem item ∧ ∀ later, ReadsItem (ts ++ later) item later) ∨ ∀ later, Refused (ts ++ later))

theorem import_decided (hpackage : IsIdentifier service.tagPackage) (halias : IsCrateWord service.crateAlias) :
    Decided (importText service) := by
  refine ⟨⟨"use ".toList ++ (service.tagPackage ++ " as " ++ service.crateAlias ++ ";").toList, by simp [importText]⟩,
    importTokens service, fun cs => ?_, fun _ => rfl, ?_⟩
  · have hall := importText_fits (BeginsWith.tokenizes ('\n' :: cs)) hpackage.takesWord halias.takesWord (BeginsWith.refl ('\n' :: cs))
    rwa [List.append_nil] at hall
  · by_cases hread : (isName service.tagPackage = true ∨ service.tagPackage ∈ pathWords) ∧
        (isName service.crateAlias = true ∨ service.crateAlias = "_")
    · have hpart := import_isPart hpackage.takesWord halias.takesWord hread.1 hread.2
      exact .inl ⟨importItem service, prints_importItem hpackage.spells halias.spells hpart, .renamed hread.1 hread.2⟩
    · refine .inr fun later => .first rfl fun fuel hfuel => ?_
      obtain ⟨fuel, rfl⟩ : ∃ n, fuel = n + 3 := ⟨fuel - 3, by simp only [List.length_cons] at hfuel; omega⟩
      exact (readItem_renamed fuel).trans (if_neg (by simpa using hread))

theorem shared_decided : Decided sharedImportText := by
  refine ⟨⟨_, rfl⟩, sharedTokens, fun cs => ?_, fun _ => rfl, .inl ⟨sharedItem, prints_sharedItem, .grouped rfl rfl rfl⟩⟩
  have hstarts : ∀ c ∈ ('\n' :: cs).head?, c ∈ pieceStarts := by rintro _ ⟨rfl⟩; decide
  have hall := (shared_isPiece.fits (BeginsWith.tokenizes ('\n' :: cs))).reads _ _ hstarts (BeginsWith.refl ('\n' :: cs))
  rwa [List.append_nil] at hall

/-- What is asked of the names that a function is made with. -/
structure FunctionNames (service : Service) : Prop extends Spelled service where
  name : IsIdentifier service.name
  client : IsClient service.clientType
  tagOperation : IsIdentifier service.tagOperation
  untagOperation : IsIdentifier service.untagOperation

theorem function_decided (h : FunctionNames service) (hexpressions : KnownExpressions service) :
    Decided (functionText service) := by
  obtain ⟨client, hborrowed, hclient⟩ := client_decided h.client
  obtain ⟨tagPayload, untagPayload, htag, huntag, -, -, tagTokens, untagTokens, hvalues⟩ :=
    known_payloads h.name hexpressions
  refine ⟨⟨_, by rw [← String.append_empty (s := functionText service), functionText_eq, String.toList_append]; rfl⟩,
    functionTokens service client tagTokens untagTokens, fun cs => ?_, fun _ => rfl, ?_⟩
  · have hP := BeginsWith.tokenizes ('\n' :: cs)
    have hstarts : ∀ c ∈ (String.ofList ('\n' :: cs)).toList.head?, c ∈ pieceStarts := by
      rw [String.toList_ofList]
      rintro _ ⟨rfl⟩
      decide
    have hall := functionText_fits hP h.name (hborrowed hP) h.toSpelled
      ⟨called_snakeCase h.tagOperation _, called_snakeCase h.untagOperation _⟩ hvalues hstarts
      (by rw [String.toList_ofList]; exact BeginsWith.refl ('\n' :: cs))
    rwa [List.append_nil, String.toList_append, String.toList_ofList] at hall
  · rcases hclient with ⟨t, hreads, hprints⟩ | huntyped
    · rcases method_decided h.tagOperation h.untagOperation with ⟨tagCall, untagCall, htagCall, huntagCall⟩ | hlacks
      · have hparts : PrintsParts tagCall untagCall (tagPayload.expr "updated_tags") (untagPayload.expr "removed_tags") :=
          ⟨htagCall.2, huntagCall.2, prints_payload (label (by decide)) (tagPayload_names h.name htag),
            prints_payload (label (by decide)) (untagPayload_names h.name huntag)⟩
        exact .inl ⟨_, prints_functionWith h.name h.toSpelled hprints hparts,
          reads_functionWith hreads htagCall.1 huntagCall.1 hvalues⟩
      · exact .inr (function_no_method hreads hlacks hvalues)
    · exact .inr (function_no_parameters huntyped tagTokens untagTokens)

/-! ### Parts of what the registry knows -/

theorem resolve_import_decided (h : IsIdentifier name) : Decided (importText (Service.resolve name)) :=
  import_decided (resolve_package h.parts) (.inr ⟨name, h, rfl⟩)

theorem resolve_function_decided (h : IsIdentifier name) : Decided (functionText (Service.resolve name)) :=
  function_decided
    { toSpelled := (resolve_members name).spelled
      name := h
      client := .inr ⟨name, h, rfl⟩
      tagOperation := isIdentifier_of_plain (resolve_members name).tagOperation
      untagOperation := isIdentifier_of_plain (resolve_members name).untagOperation }
    (resolve_knownExpressions name)

/-- Whether or not a part is read, nothing can be before what cannot be. -/
theorem Decided.beforeRefused (h : Decided text) {cs : List Char}
    (hlater : ∀ fuel ts, readTokens fuel ('\n' :: cs) = some ts → Refused ts)
    (hread : readTokens fuel (text.toList ++ '\n' :: cs) = some ts) : Refused ts := by
  obtain ⟨front, hbegins, hfront, hdecided⟩ := h.decided
  obtain ⟨_, later, hback, rfl⟩ := hbegins cs _ _ hread
  rcases hdecided with ⟨item, -, hitem⟩ | hrefused
  · exact (hitem later).beforeRefused (hfront later) (hlater _ _ hback)
  · exact hrefused later

/-! ## Texts -/

theorem decided_feed {texts : List String} (h : ∀ text ∈ texts, Decided text) :
    ∃ cs, (String.join texts ++ "\n").toList = '\n' :: cs := by
  cases texts with
  | nil => exact ⟨[], by simp⟩
  | cons text texts =>
    obtain ⟨cs, hcs⟩ := (h text List.mem_cons_self).feed
    exact ⟨_, by rw [String.join_cons, String.append_assoc, String.toList_append, hcs]; rfl⟩

theorem items_decided {texts : List String} (h : ∀ text ∈ texts, Decided text)
    (hread : readTokens fuel (String.join texts ++ "\n").toList = some ts) :
    ts.head?.all Token.beginsItem = true ∧
      ((∃ items, (∀ item ∈ items, PrintsItem item) ∧ ReadsItems ts items) ∨ Refused ts) := by
  induction texts generalizing fuel ts with
  | nil =>
    have hlist : (String.join [] ++ "\n").toList = ['\n'] := by simp
    obtain rfl : ts = [] := by
      rw [hlist, readTokens_blank isSpace_feed] at hread
      cases fuel with
      | zero => cases hread
      | succ fuel => exact (Option.some.inj hread).symm
    exact ⟨rfl, .inl ⟨[], by simp, .nil⟩⟩
  | cons text texts ih =>
    obtain ⟨htext, htexts⟩ := List.forall_mem_cons.1 h
    obtain ⟨front, hbegins, hfront, hdecided⟩ := htext.decided
    obtain ⟨cs, hcs⟩ := decided_feed htexts
    rw [String.join_cons, String.append_assoc, String.toList_append, hcs] at hread
    obtain ⟨_, later, hlater, rfl⟩ := hbegins cs _ _ hread
    refine ⟨hfront later, ?_⟩
    rcases hdecided with ⟨item, hprints, hitem⟩ | hrefused
    · rcases (ih htexts (hcs ▸ hlater)).2 with ⟨items, hitems, hreads⟩ | hrefused
      · exact .inl ⟨item :: items, List.forall_mem_cons.2 ⟨hprints, hitems⟩, .cons (hitem later) hreads⟩
      · exact .inr ((hitem later).beforeRefused (hfront later) hrefused)
    · exact .inr (hrefused later)

/-- **A text is decided if its parts are.** -/
theorem read_decided {texts : List String} (h : ∀ text ∈ texts, Decided text) {file : File}
    (hread : File.read (String.join texts ++ "\n") = some file) :
    ∃ items, file = ⟨none, [], items⟩ ∧ ∀ item ∈ items, PrintsItem item := by
  obtain ⟨cs, hcs⟩ := decided_feed h
  cases htokens : tokens (String.join texts ++ "\n").toList with
  | none =>
    rw [File.read_no_tokens hcs htokens] at hread
    cases hread
  | some ts =>
    obtain ⟨hbegins, hdecided⟩ := items_decided h htokens
    have henough : 16 * ts.length ≤ fuelFor ts := by unfold fuelFor; omega
    rw [File.read_feed hcs htokens hbegins] at hread
    rcases hdecided with ⟨items, hprints, hitems⟩ | hrefused
    · rw [hitems _ _ henough (Nat.le_refl _)] at hread
      exact ⟨items, (Option.some.inj hread).symm, hprints⟩
    · rw [hrefused.reads _ _ henough] at hread
      cases hread

end Retag.SourceUnit
