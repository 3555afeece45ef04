/-
The parts of a source unit: an import for each service, the import of what the
functions share, and the function of each service. Each is one item of source code,
wherever it stands (`import_isPart`, `shared_isPart`, `function_isPart`), so the items
of a unit are those of its parts.
-/
import Retag.Proofs.Code.Items
import Retag.Proofs.SourceUnit.Payload

namespace Retag.SourceUnit

open Code

variable {service : Service} {ts tr tagTokens untagTokens : List Token} {rest : String} {tagExpr untagExpr : Expr}
  {P : List Char → List Token → Prop}

/-! ## Items -/

def importItem (service : Service) : Item :=
  .mk [] .inherited (.use false (.renamed service.tagPackage service.crateAlias))

def sharedItem : Item :=
  .mk [] .inherited (.use false (.path "tagsync_tags" (.group [.name "KeyValueTags", .name "UpdateTagsError"])))

/-- A parameter of a type. -/
def parameter (x : String) (t : Ty) : Binding := ⟨.name false false x, some t⟩

def textTy : Ty := .reference none false (.path [.mk "str" []] false)

/-- Everything that can be made into a tag set. -/
def tagsTy : Ty := .bounded "impl" [.path [.mk "Into" [.path [.mk "KeyValueTags" []] false]] false]

/-- What is told about the function of a service. -/
def functionDocs (service : Service) : List String :=
  [" Updates " ++ service.name ++ " service tags.", "",
    " The identifier is typically the Amazon Resource Name (ARN), although",
    " it may also be a different identifier depending on the service."]

def functionSignature (service : Service) : Signature where
  qualifiers := ["async"]
  name := service.name ++ "_update_tags"
  generics := []
  receiver := none
  parameters :=
    parameter "conn" (.reference none false (.path [.mk service.crateAlias [], .mk "Client" []] false)) ::
      parameter "identifier" textTy ::
      ((if (resourceType? service).isSome then [parameter "resource_type" textTy] else []) ++
        [parameter "old_tags" tagsTy, parameter "new_tags" tagsTy])
  result := some (.path [.mk "Result" [.tuple [], .path [.mk "UpdateTagsError" []] false]] false)

/-- The same with the client's type. -/
def signatureWith (service : Service) (client : Ty) : Signature where
  qualifiers := ["async"]
  name := service.name ++ "_update_tags"
  generics := []
  receiver := none
  parameters :=
    parameter "conn" client :: parameter "identifier" textTy ::
      ((if (resourceType? service).isSome then [parameter "resource_type" textTy] else []) ++
        [parameter "old_tags" tagsTy, parameter "new_tags" tagsTy])
  result := some (.path [.mk "Result" [.tuple [], .path [.mk "UpdateTagsError" []] false]] false)

/-- The function of a service, with the client's type and the statements of the body. -/
def functionWith (service : Service) (client : Ty) (body : List Stmt) : Item :=
  .mk ((functionDocs service).map .doc) .everyone (.function (signatureWith service client) body)

/-- The function of a service, with the values that carry the tags. -/
def functionItem (service : Service) (tagValue untagValue : Expr) : Item :=
  .mk ((functionDocs service).map .doc) .everyone
    (.function (functionSignature service) (bodyStmts service tagValue untagValue))

/-- A reference to the client of a crate. -/
def clientTy (crateAlias : String) : Ty := .reference none false (.path [.mk crateAlias [], .mk "Client" []] false)

theorem functionItem_eq (service : Service) (tagValue untagValue : Expr) : functionItem service tagValue untagValue =
    functionWith service (clientTy service.crateAlias) (bodyStmts service tagValue untagValue) := rfl

/-! ## Imports -/

/-- What is asked of the names that the text of a unit is made from. -/
structure UnitWords (service : Service) : Prop where
  name : IsIdentifier service.name
  package : TakesWord service.tagPackage
  crateAlias : TakesWord service.crateAlias
  client : service.clientType = service.crateAlias ++ "::Client"

/-- What is asked of the names that a unit is made from. -/
structure UnitNames (service : Service) : Prop extends UnitWords service where
  packageName : isName service.tagPackage = true
  aliasName : isName service.crateAlias = true

def importTokens (service : Service) : List Token :=
  [.word "use", .word service.tagPackage, .word "as", .word service.crateAlias, .sign ';' false]

theorem importText_fits (hP : Tokenizes P) (hpackage : TakesWord service.tagPackage) (halias : TakesWord service.crateAlias)
    {tail : List Char} (htail : P ('\n' :: tail) tr) :
    P ((importText service).toList ++ '\n' :: tail) (importTokens service ++ tr) := by
  have huse : scan "\nuse ".toList = some [.word "use"] ∧ endsApart "\nuse " = true := by decide
  have has : scan " as ".toList = some [.word "as"] ∧ endsApart " as " = true := by decide
  have hsemicolon := hP.step (.sign (c := ';') (by decide)) htail
  have hrenamed := hP.word halias has (breaksOff_cons (by decide)) hsemicolon
  have hall := hP.word hpackage huse (breaksOff_text " as " (by decide) _) hrenamed
  rw [show beginsSign ('\n' :: tail) = false from rfl] at hall
  simpa [importText, importTokens] using hall

theorem import_onNewLine (hpackage : TakesWord service.tagPackage) (halias : TakesWord service.crateAlias)
    (hrest : OnNewLine rest tr) : OnNewLine (importText service ++ rest) (importTokens service ++ tr) := by
  obtain ⟨cs, hcs⟩ := hrest.feed
  have hlexes := hrest.lexes
  rw [hcs] at hlexes
  refine ⟨⟨"use ".toList ++ (service.tagPackage ++ " as " ++ service.crateAlias ++ ";" ++ rest).toList, by simp [importText]⟩, ?_, rfl⟩
  rw [String.toList_append, hcs]
  exact importText_fits Lexes.tokenizes hpackage halias hlexes

theorem import_isPart (hpackage : TakesWord service.tagPackage) (halias : TakesWord service.crateAlias)
    (hpackageName : isName service.tagPackage = true ∨ service.tagPackage ∈ pathWords)
    (haliasName : isName service.crateAlias = true ∨ service.crateAlias = "_") :
    IsPart (importText service) (importItem service) :=
  ⟨importTokens service, fun _ _ => import_onNewLine hpackage halias, fun rest => .renamed hpackageName haliasName rest⟩

def sharedTokens : List Token :=
  [.word "use", .word "tagsync_tags", .sign ':' true, .sign ':' false, .opening .brace, .word "KeyValueTags",
    .sign ',' false, .word "UpdateTagsError", .closing .brace, .sign ';' false]

theorem shared_isPiece : IsPiece sharedImportText sharedTokens := .ofList (by decide +kernel)

/-- Plain text that is one item, whatever follows. -/
theorem isPart_of_piece {text : String} {cs : List Char} {item : Item} (h : IsPiece text ts) (hfeed : text.toList = '\n' :: cs)
    (hbegins : ∀ tr, (ts ++ tr).head?.all Token.beginsItem = true) (hread : ∀ rest, ReadsItem (ts ++ rest) item rest) :
    IsPart text item := by
  refine ⟨ts, fun rest tr hrest => ⟨⟨cs ++ rest.toList, by rw [String.toList_append, hfeed]; rfl⟩, ?_, hbegins tr⟩, hread⟩
  rw [String.toList_append]
  exact (h.fits Lexes.tokenizes).reads _ _ hrest.starts hrest.lexes

theorem shared_isPart : IsPart sharedImportText sharedItem :=
  isPart_of_piece shared_isPiece rfl (fun _ => rfl) fun rest => .grouped rfl rfl rfl rest

/-! ## Functions -/

/-- What stands behind the type of the client and its comma, up to the body. -/
def signatureText (service : Service) : String :=
  "\n    identifier: &str," ++ (if (resourceType? service).isSome then "\n    resource_type: &str," else "") ++
    "\n    old_tags: impl Into<KeyValueTags>," ++ "\n    new_tags: impl Into<KeyValueTags>," ++ resultText

def textParameterTokens (x : String) : List Token :=
  [.word x, .sign ':' false, .sign '&' false, .word "str", .sign ',' false]

def tagsParameterTokens (x : String) : List Token :=
  [.word x, .sign ':' false, .word "impl", .word "Into", .sign '<' false, .word "KeyValueTags", .sign '>' true,
    .sign ',' false]

def resultTokens : List Token :=
  [.closing .parenthesis, .sign '-' true, .sign '>' false, .word "Result", .sign '<' false, .opening .parenthesis,
    .closing .parenthesis, .sign ',' false, .word "UpdateTagsError", .sign '>' false]

def signatureTokens (service : Service) : List Token :=
  textParameterTokens "identifier" ++ (if (resourceType? service).isSome then textParameterTokens "resource_type" else []) ++
    tagsParameterTokens "old_tags" ++ tagsParameterTokens "new_tags" ++ resultTokens

theorem signature_isPiece (service : Service) : IsPiece (signatureText service) (signatureTokens service) := by
  have hidentifier : IsPiece "\n    identifier: &str," (textParameterTokens "identifier") := .ofList (by decide +kernel)
  have htype : IsPiece (if (resourceType? service).isSome then "\n    resource_type: &str," else "")
      (if (resourceType? service).isSome then textParameterTokens "resource_type" else []) := by
    cases (resourceType? service).isSome with
    | true => exact .ofList (by decide +kernel)
    | false => exact .nil
  have hold : IsPiece "\n    old_tags: impl Into<KeyValueTags>," (tagsParameterTokens "old_tags") := .ofList (by decide +kernel)
  have hnew : IsPiece "\n    new_tags: impl Into<KeyValueTags>," (tagsParameterTokens "new_tags") := .ofList (by decide +kernel)
  have hresult : IsPiece resultText resultTokens := .ofList (by decide +kernel)
  exact (((hidentifier.append htype).append hold).append hnew).append hresult

/-- The tokens of a function whose client has a type of the given tokens. -/
def functionTokens (service : Service) (client tagValue untagValue : List Token) : List Token :=
  (functionDocs service).map (.doc false) ++
    .word "pub" :: .word "async" :: .word "fn" :: .word (service.name ++ "_update_tags") :: .opening .parenthesis ::
    .word "conn" :: .sign ':' false :: .sign '&' false ::
    (client ++ .sign ',' false :: (signatureTokens service ++ bodyTokens service tagValue untagValue))

theorem functionText_eq (service : Service) (rest : String) :
    functionText service ++ rest = "\n" ++ (String.join ((functionDocs service).map docLine) ++ ("pub async fn " ++
      ((service.name ++ "_update_tags") ++ ("(\n    conn: &" ++ (service.clientType ++ ("," ++
        ((signatureText service ++ bodyText service ++ "\n") ++ rest))))))) := by
  have hfirst : "\n/// Updates " = "\n" ++ ("///" ++ " Updates ") := by simp
  have hsecond : " service tags.\n///\n" = " service tags." ++ ("\n" ++ ("///" ++ "\n")) := by simp
  have hthird : "/// The identifier is typically the Amazon Resource Name (ARN), although\n" =
      "///" ++ (" The identifier is typically the Amazon Resource Name (ARN), although" ++ "\n") := by simp
  have hfourth : "/// it may also be a different identifier depending on the service.\n" =
      "///" ++ (" it may also be a different identifier depending on the service." ++ "\n") := by simp
  have hopen : "_update_tags(" = "_update_tags" ++ "(" := by simp
  have hconn : "(\n    conn: &" = "(" ++ "\n    conn: &" := by simp
  have hcomma : ",\n    identifier: &str," = "," ++ "\n    identifier: &str," := by simp
  unfold functionText headText signatureText functionDocs docLine
  simp only [hfirst, hsecond, hthird, hfourth, hopen, hconn, hcomma, List.map_cons, List.map_nil, String.join_cons,
    String.join_nil, String.append_assoc, String.append_empty, String.empty_append]

theorem functionDocs_lines (h : IsIdentifier service.name) :
    ∀ line ∈ functionDocs service, IsLine line.toList ∧ line.toList.head? ≠ some '/' := by
  have hname : IsLine service.name.toList := by
    rw [isLine_iff]
    intro c hc
    have hpart := h.parts c hc
    constructor
    · rintro rfl
      exact absurd hpart (by decide)
    · rintro rfl
      exact absurd hpart (by decide)
  have hfirst : IsLine (" Updates " ++ service.name ++ " service tags.").toList := by
    rw [String.toList_append, String.toList_append]
    exact ((by decide : IsLine " Updates ".toList).append hname).append (by decide)
  simp only [functionDocs, List.forall_mem_cons]
  have hblank : (" Updates " ++ service.name ++ " service tags.").toList.head? = some ' ' := by
    rw [String.toList_append, String.toList_append]
    rfl
  exact ⟨⟨hfirst, by rw [hblank]; decide⟩, by decide, by decide, by decide, by simp⟩

/-- The name of a function is a word. -/
theorem isIdentifier_function {name : String} (h : IsIdentifier name) : IsIdentifier (name ++ "_update_tags") :=
  h.append (List.all_eq_true.1 (by decide : "_update_tags".toList.all Text.isIdentifierPart = true))

/-- It is not reserved, whatever it begins with. -/
theorem isName_function (name : String) : isName (name ++ "_update_tags") = true := isName_suffix (by decide)

/-- A type behind the sign of a reference, before a comma. -/
structure Borrowed (P : List Char → List Token → Prop) (type : String) (client : List Token) : Prop where
  first : ∃ c cs, type.toList = c :: cs ∧ Text.isIdentifierPart c = true
  noPoint : ∀ tt, beginsPoint (client ++ .sign ',' false :: tt) = false
  reads : ∀ tail tt, P (',' :: tail) tt → P (type.toList ++ ',' :: tail) (client ++ tt)

theorem borrowed_word (hP : Tokenizes P) {w : String} (hw : TakesWord w) : Borrowed P w [.word w] :=
  ⟨hw.first, fun _ => rfl, fun _ _ h => hP.step (hw.step _ (breaksOff_cons (by decide))) h⟩

/-- The client of a crate. -/
def clientTokens (crateAlias : String) : List Token :=
  [.word crateAlias, .sign ':' true, .sign ':' false, .word "Client"]

theorem borrowed_client (hP : Tokenizes P) {crateAlias : String} (halias : TakesWord crateAlias) :
    Borrowed P (crateAlias ++ "::Client") (clientTokens crateAlias) := by
  obtain ⟨c, cs, heq, hpart⟩ := halias.first
  refine ⟨⟨c, cs ++ "::Client".toList, by rw [String.toList_append, heq]; rfl, hpart⟩, fun _ => rfl, fun tail tt h => ?_⟩
  have hclient : TakesWord "Client" := (by decide : IsIdentifier "Client").takesWord
  have hcolons : scan "::".toList = some [.sign ':' true, .sign ':' false] ∧ endsApart "::" = true := by decide
  have hpath := hP.word hclient hcolons (breaksOff_cons (by decide)) h
  have hall := hP.step (halias.step _ (breaksOff_text "::" (by decide) _)) hpath
  simpa [clientTokens] using hall

theorem functionText_fits (hP : Tokenizes P) {client : List Token} (hname : IsIdentifier service.name)
    (hclient : Borrowed P service.clientType client) (hfields : Spelled service) (hoperations : CalledOperations P service)
    (hvalues : Valued service tagTokens untagTokens tagExpr untagExpr) (hstarts : ∀ c ∈ rest.toList.head?, c ∈ pieceStarts)
    (hrest : P rest.toList tr) :
    P (functionText service ++ rest).toList (functionTokens service client tagTokens untagTokens ++ tr) := by
  have hend : IsPiece "\n" [] := .ofList (by decide)
  have hsignature := (((signature_isPiece service).fits hP).append (body_fits hP hfields hoperations hvalues)).append (hend.fits hP)
  have hstarted : ∃ cs, (signatureText service ++ bodyText service ++ "\n").toList ++ rest.toList = '\n' :: cs := by
    unfold signatureText
    simp only [String.append_assoc, String.toList_append]
    exact ⟨_, rfl⟩
  obtain ⟨cs, hcs⟩ := hstarted
  have hbody := hsignature.reads rest.toList tr hstarts hrest
  rw [hcs] at hbody
  have hcomma := hclient.reads _ _ (hP.step (.sign (c := ',') (by decide)) hbody)
  obtain ⟨c, more, hfirst, hpart⟩ := hclient.first
  have hopen : scan "(\n    conn: &".toList = some [.opening .parenthesis, .word "conn", .sign ':' false, .sign '&' false] := by
    decide
  have hconn := hP.plain hcomma hopen (by rw [hfirst]; exact precedes_of_part (by decide) hpart (hclient.noPoint _))
  have hword : IsIdentifier (service.name ++ "_update_tags") := isIdentifier_function hname
  have hfn : scan "pub async fn ".toList = some [.word "pub", .word "async", .word "fn"] ∧
      endsApart "pub async fn " = true := by decide
  have hpub := hP.word hword.takesWord hfn (breaksOff_text "(\n    conn: &" (by decide) _) hconn
  have hall := hP.blank isSpace_feed (hP.docs hpub (functionDocs_lines hname))
  rw [functionText_eq]
  simp only [String.toList_append, List.append_assoc] at hall hcs ⊢
  rw [hcs]
  rw [show beginsSign ('\n' :: cs) = false from rfl] at hall
  simpa [functionTokens] using hall

theorem function_onNewLine (h : UnitWords service) (hmembers : PlainMembers service)
    (hvalues : Valued service tagTokens untagTokens tagExpr untagExpr) (hrest : OnNewLine rest tr) :
    OnNewLine (functionText service ++ rest)
      (functionTokens service (clientTokens service.crateAlias) tagTokens untagTokens ++ tr) := by
  have hclient : Borrowed Lexes service.clientType (clientTokens service.crateAlias) :=
    h.client ▸ borrowed_client Lexes.tokenizes h.crateAlias
  refine ⟨⟨_, by rw [functionText_eq, String.toList_append]; rfl⟩, ?_, rfl⟩
  exact functionText_fits Lexes.tokenizes h.name hclient hmembers.spelled (hmembers.called Lexes.tokenizes) hvalues
    hrest.starts hrest.lexes

/-! ### What is read of them -/

theorem reads_textTy (rest : List Token) :
    ReadsTy (.sign '&' false :: .word "str" :: .sign ',' false :: rest) textTy (.sign ',' false :: rest) :=
  .reference (by decide) (.path (.name rfl rfl rfl))

theorem reads_tagsTy (rest : List Token) :
    ReadsTy (.word "impl" :: .word "Into" :: .sign '<' false :: .word "KeyValueTags" :: .sign '>' true ::
      .sign ',' false :: rest) tagsTy (.sign ',' false :: rest) := by
  have hset : ReadsTy (.word "KeyValueTags" :: .sign '>' true :: .sign ',' false :: rest) (.path [.mk "KeyValueTags" []] false)
      (.sign '>' true :: .sign ',' false :: rest) := .path (.name rfl rfl rfl)
  exact .bounded (.applied rfl (.one (by simp) rfl hset) rfl rfl) rfl

theorem reads_result (rest : List Token) :
    ReadsTy (.word "Result" :: .sign '<' false :: .opening .parenthesis :: .closing .parenthesis :: .sign ',' false ::
      .word "UpdateTagsError" :: .sign '>' false :: .opening .brace :: rest)
      (.path [.mk "Result" [.tuple [], .path [.mk "UpdateTagsError" []] false]] false) (.opening .brace :: rest) := by
  have herror : ReadsTy (.word "UpdateTagsError" :: .sign '>' false :: .opening .brace :: rest)
      (.path [.mk "UpdateTagsError" []] false) (.sign '>' false :: .opening .brace :: rest) := .path (.name rfl rfl rfl)
  exact .path (.applied rfl (.cons (by simp) rfl (.unit _) (.one (by simp) rfl herror)) rfl rfl)

/-- A type before a comma. -/
def ReadsClient (client : List Token) (t : Ty) : Prop := ∀ rest,
  ReadsTy (.sign '&' false :: (client ++ .sign ',' false :: rest)) t (.sign ',' false :: rest)

theorem reads_clientTy {crateAlias : String} (halias : inPath crateAlias = true) :
    ReadsClient (clientTokens crateAlias) (clientTy crateAlias) := fun _ =>
  .reference (fun heq => by rw [heq] at halias; cases halias) (.path (.cons halias (.name rfl rfl rfl)))

variable {client : List Token} {t : Ty} {tagCall untagCall : Expr}

theorem reads_signature (hclient : ReadsClient client t) (rest : List Token) :
    ReadsSignature (.word "conn" :: .sign ':' false :: .sign '&' false ::
        (client ++ .sign ',' false :: (signatureTokens service ++ .opening .brace :: rest)))
      (signatureWith service t).parameters (.sign '-' true :: .sign '>' false :: .word "Result" :: .sign '<' false ::
        .opening .parenthesis :: .closing .parenthesis :: .sign ',' false :: .word "UpdateTagsError" :: .sign '>' false ::
        .opening .brace :: rest) := by
  have htext : ∀ {x : String} {ts : List Token} {bs : List Binding} {rest : List Token}, isName x = true →
      ReadsSignature ts bs rest →
      ReadsSignature (textParameterTokens x ++ ts) (parameter x textTy :: bs) rest :=
    fun hx hlater => .cons (.typed hx (reads_textTy _)) hlater
  have htags : ∀ {x : String} {ts : List Token} {bs : List Binding} {rest : List Token}, isName x = true →
      ReadsSignature ts bs rest →
      ReadsSignature (tagsParameterTokens x ++ ts) (parameter x tagsTy :: bs) rest :=
    fun hx hlater => .cons (.typed hx (reads_tagsTy _)) hlater
  have hsets := fun tail => htags (x := "old_tags") rfl (htags (x := "new_tags") rfl (ReadsSignature.nil tail))
  unfold signatureTokens signatureWith
  simp only [List.append_assoc]
  refine .cons (.typed rfl (hclient _)) (htext rfl ?_)
  cases (resourceType? service).isSome with
  | true => exact htext rfl (hsets _)
  | false => exact hsets _

theorem reads_functionWith (hclient : ReadsClient client t) (htag : ReadsCall service.tagOperation tagCall)
    (huntag : ReadsCall service.untagOperation untagCall)
    (hvalues : Valued service tagTokens untagTokens tagExpr untagExpr) (rest : List Token) :
    ReadsItem (functionTokens service client tagTokens untagTokens ++ rest)
      (functionWith service t (bodyOf service tagCall untagCall tagExpr untagExpr)) rest := by
  unfold functionTokens
  simp only [List.append_assoc, List.cons_append]
  exact .function (isName_function service.name) rfl (reads_signature hclient _) (reads_result _) (reads_bodyOf htag huntag hvalues rest)

/-- **A function is one item.** -/
theorem function_isPart (h : UnitNames service) (hmembers : PlainMembers service) (hoperations : NamedOperations service)
    (hvalues : Valued service tagTokens untagTokens tagExpr untagExpr) :
    IsPart (functionText service) (functionItem service tagExpr untagExpr) := by
  rw [functionItem_eq, bodyStmts_eq]
  exact ⟨functionTokens service (clientTokens service.crateAlias) tagTokens untagTokens,
    fun _ _ => function_onNewLine h.toUnitWords hmembers hvalues,
    reads_functionWith (reads_clientTy (inPath_of_name h.aliasName))
      (readsCall_operation hmembers.tagOperation hoperations.tag)
      (readsCall_operation hmembers.untagOperation hoperations.untag) hvalues⟩

end Retag.SourceUnit
