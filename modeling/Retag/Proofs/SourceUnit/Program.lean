/-
The function body of a service as a program: its statements, and that its text
reads as them. Every piece of the text comes with its tokens and with what the
readers make of these where they stand.
-/
import Retag.Proofs.Code.Lexing
import Retag.Proofs.Code.Reading
import Retag.Proofs.Text.SnakeCase
import Retag.Proofs.SourceUnit.Text

namespace Retag.SourceUnit

open Code

variable {service : Service} {ts rest : List Token} {e : Expr} {text : String}

/-! ## Statements of the body -/

/-- A value that is there. -/
def someOf (e : Expr) : Expr := .call (.names ["Some"]) [e]

def identifierExpr (service : Service) : Expr :=
  someOf <|
    if service.identifierIsSequence then
      .macroCall ⟨["vec"], false, .square,
        [.word "identifier", .sign '.' false, .word "to_owned", .opening .parenthesis, .closing .parenthesis]⟩
    else .method (.names ["identifier"]) "to_owned" [] []

/-- A request with its identifier and its resource type. -/
def resourceExpr (service : Service) (request : Expr) : Expr :=
  let identified := .method request (setter service.identifierField) [] [identifierExpr service]
  match resourceType? service with
  | some field => .method identified (setter field) [] [someOf (.method (.names ["resource_type"]) "into" [] [])]
  | none => identified

/-- The user's tags of a set, converted. -/
def conversionExpr (tags conversion : String) : Expr :=
  .method (.method (.names [tags]) "ignore_aws" [] []) conversion [] []

/-- A value that a builder builds from one field. -/
def builtExpr (type : List String) (field : String) (value : Expr) : Expr :=
  .method (.method (.call (.names (type ++ ["builder"])) []) field [] [someOf value]) "build" [] []

/-- A failure told with the identifier, else the value. -/
def checkedExpr (failure : String) (e : Expr) : Expr :=
  .attempt <| .method e "map_err" []
    [.closure false [⟨.name false false "err", none⟩]
      (.call (.names ["UpdateTagsError", failure]) [.names ["identifier"], .names ["err"]])]

/-- A request on its way, with its answer looked at. -/
def sentExpr (failure : String) (request : Expr) : Expr :=
  checkedExpr failure (.await (.method request "send" [] []))

def requestExpr (service : Service) (operation tagsField : String) (value : Expr) (failure : String) : Expr :=
  sentExpr failure <|
    .method (resourceExpr service (.method (.names ["conn"]) (Text.snakeCase operation) [] [])) (setter tagsField) []
      [someOf value]

/-- The difference of the two sets in a variable. -/
def differenceStmt (x difference : String) : Stmt :=
  .binding ⟨.name false false x, none⟩
    (some (.method (.names ["old_tags"]) difference [] [.reference false (.names ["new_tags"])]))

/-- Statements for a set that has tags. -/
def unlessEmpty (tags : String) (body : List Stmt) : Stmt :=
  .expr (.conditional (.unary "!" (.method (.names [tags]) "is_empty" [] [])) body none) false

/-- A request for the parts of a set, in a loop if there is a limit. -/
def partsStmt (service : Service) (tags : String) (request : Expr) : Stmt :=
  match limit? service with
  | some n =>
    .expr (.loop (.name false false tags)
      (.attempt (.method (.names [tags]) "chunks" [] [.literal (toString n)])) [.expr request true]) false
  | none => .expr request true

/-- The requests of one direction. -/
def directionStmt (service : Service) (tags : String) (request : Expr) : Stmt :=
  unlessEmpty tags [partsStmt service tags request]

/-- The tags of an argument as a tag set. -/
def convertStmt (x : String) : Stmt :=
  .binding ⟨.name false false x, some (.path [.mk "KeyValueTags" []] false)⟩
    (some (.method (.names [x]) "into" [] []))

/-- Success without a value. -/
def doneExpr : Expr := .call (.names ["Ok"]) [.tuple []]

def separateStmts (service : Service) (tagValue untagValue : Expr) : List Stmt :=
  [differenceStmt "removed_tags" "removed",
    directionStmt service "removed_tags"
      (requestExpr service service.untagOperation service.untagTagsField untagValue "untagging"),
    differenceStmt "updated_tags" "updated",
    directionStmt service "updated_tags" (requestExpr service service.tagOperation service.tagsField tagValue "tagging")]

/-- Sets a field of the request if a set has tags. -/
def setStmt (tags field : String) (value : Expr) : Stmt :=
  unlessEmpty tags
    [.expr (.assign (.names ["request"]) (.method (.names ["request"]) (setter field) [] [someOf value])) true]

/-- Leaves if there is nothing to change. -/
def stopStmt : Stmt :=
  .expr (.conditional (.binary "&&" (.method (.names ["removed_tags"]) "is_empty" [] [])
    (.method (.names ["updated_tags"]) "is_empty" [] [])) [.expr (.ret (some doneExpr)) true] none) false

/-- The request that takes both kinds of tags. -/
def declareStmt (service : Service) : Stmt :=
  .binding ⟨.name false true "request", none⟩
    (some (resourceExpr service (.method (.names ["conn"]) (Text.snakeCase service.tagOperation) [] [])))

def combinedStmts (service : Service) (tagValue untagValue : Expr) : List Stmt :=
  [differenceStmt "removed_tags" "removed",
    differenceStmt "updated_tags" "updated",
    stopStmt,
    declareStmt service,
    setStmt "updated_tags" service.tagsField tagValue,
    setStmt "removed_tags" service.untagTagsField untagValue,
    .expr (sentExpr "tagging" (.names ["request"])) true]

/-- The statements of the body, with the values that carry the tags. -/
def bodyStmts (service : Service) (tagValue untagValue : Expr) : List Stmt :=
  [convertStmt "old_tags", convertStmt "new_tags"] ++
    (if service.usesSingleEndpoint then combinedStmts service tagValue untagValue
      else separateStmts service tagValue untagValue) ++
    [.expr doneExpr false]

/-! ### From the calls that make the requests

What an operation is called with is one method for most services. -/

/-- The call of an operation's method. -/
def operationCall (operation : String) : Expr := .method (.names ["conn"]) (Text.snakeCase operation) [] []

def requestOf (service : Service) (call : Expr) (tagsField : String) (value : Expr) (failure : String) : Expr :=
  sentExpr failure (.method (resourceExpr service call) (setter tagsField) [] [someOf value])

def separateOf (service : Service) (tagCall untagCall tagValue untagValue : Expr) : List Stmt :=
  [differenceStmt "removed_tags" "removed",
    directionStmt service "removed_tags" (requestOf service untagCall service.untagTagsField untagValue "untagging"),
    differenceStmt "updated_tags" "updated",
    directionStmt service "updated_tags" (requestOf service tagCall service.tagsField tagValue "tagging")]

/-- The request that takes both kinds of tags, from the call that makes it. -/
def declareOf (service : Service) (call : Expr) : Stmt :=
  .binding ⟨.name false true "request", none⟩ (some (resourceExpr service call))

def combinedOf (service : Service) (call tagValue untagValue : Expr) : List Stmt :=
  [differenceStmt "removed_tags" "removed",
    differenceStmt "updated_tags" "updated",
    stopStmt,
    declareOf service call,
    setStmt "updated_tags" service.tagsField tagValue,
    setStmt "removed_tags" service.untagTagsField untagValue,
    .expr (sentExpr "tagging" (.names ["request"])) true]

/-- The statements of the body, with the calls that make the requests and the values
that carry the tags. -/
def bodyOf (service : Service) (tagCall untagCall tagValue untagValue : Expr) : List Stmt :=
  [convertStmt "old_tags", convertStmt "new_tags"] ++
    (if service.usesSingleEndpoint then combinedOf service tagCall tagValue untagValue
      else separateOf service tagCall untagCall tagValue untagValue) ++
    [.expr doneExpr false]

theorem bodyStmts_eq (service : Service) (tagValue untagValue : Expr) : bodyStmts service tagValue untagValue =
    bodyOf service (operationCall service.tagOperation) (operationCall service.untagOperation) tagValue untagValue := rfl

/-! ## Names -/

/-- A word that ends unlike every reserved one is a name. -/
theorem isName_suffix {w suffix : String} (h : ∀ r ∈ reserved, ¬suffix.toList <:+ r.toList) :
    isName (w ++ suffix) = true := by
  simp only [isName, Bool.not_eq_true', List.contains_eq_mem, decide_eq_false_iff_not]
  intro hr
  exact h _ hr (by rw [String.toList_append]; exact List.suffix_append _ _)

/-- A word that begins unlike every reserved one is a name. -/
theorem isName_start {start w : String} (h : ∀ r ∈ reserved, ¬start.toList <+: r.toList) :
    isName (start ++ w) = true := by
  simp only [isName, Bool.not_eq_true', List.contains_eq_mem, decide_eq_false_iff_not]
  intro hr
  exact h _ hr (by rw [String.toList_append]; exact List.prefix_append _ _)

theorem isName_setter (field : String) : isName (setter field) = true := isName_start (by decide)

theorem isIdentifier_setter {field : String} (h : ∀ c ∈ field.toList, Text.isIdentifierPart c = true) :
    IsIdentifier (setter field) :=
  (by decide : IsIdentifier "set_").append (Text.snakeCase_identifierParts h)

theorem parts_of_plain {field : String} (h : Text.isPlainName field = true) :
    ∀ c ∈ field.toList, Text.isIdentifierPart c = true := by
  obtain ⟨_, _, hlist, -, hletters⟩ := Text.letters_of_plain h
  rw [hlist]
  exact fun c hc => isIdentifierPart_of_part (Text.isPlainPart_of_letter (hletters c hc))

theorem isIdentifier_of_plain {name : String} (h : Text.isPlainName name = true) : IsIdentifier name := by
  obtain ⟨c, cs, hlist, hletter, -⟩ := Text.letters_of_plain h
  have hascii : c.toNat < 0x80 := isPlainPart_ascii (Text.isPlainPart_of_letter (by simp [Text.isPlainLetter, hletter]))
  exact ⟨parts_of_plain h, c, cs, hlist, by simp [Text.isIdentifierStart, hascii, hletter]⟩

theorem isIdentifier_operation {operation : String} (h : Text.isPlainName operation = true) :
    IsIdentifier (Text.snakeCase operation) := (Text.snakeCase_isWord h).isIdentifier

/-! ## Values -/

/-- A text that is read as an expression before a closing bracket. -/
structure IsValue (text : String) (ts : List Token) (e : Expr) : Prop where
  tokens : scan text.toList = some ts
  ends : EndsOpen ts
  begins : ∀ rest, closing .parenthesis (ts ++ rest) = none
  reads : ∀ rest, ReadsExpr (ts ++ .closing .parenthesis :: rest) e (.closing .parenthesis :: rest)

/-- The tokens of a method without arguments. -/
def invokeTokens (m : String) : List Token :=
  [.sign '.' false, .word m, .opening .parenthesis, .closing .parenthesis]

def conversionTokens (tags conversion : String) : List Token :=
  .word tags :: (invokeTokens "ignore_aws" ++ invokeTokens conversion)

theorem reads_invoke {m : String} (h : ReadsChain ts e (invokeTokens m ++ rest)) (hm : isName m = true) :
    ReadsChain ts (.method e m [] []) rest :=
  h.method hm (.nil rest)

theorem reads_conversion {tags conversion : String} (htags : isName tags = true) (hname : isName conversion = true)
    (rest : List Token) : ReadsExpr (conversionTokens tags conversion ++ .closing .parenthesis :: rest)
      (conversionExpr tags conversion) (.closing .parenthesis :: rest) := by
  have hset : ReadsChain (conversionTokens tags conversion ++ .closing .parenthesis :: rest) (.names [tags])
      (invokeTokens "ignore_aws" ++ (invokeTokens conversion ++ .closing .parenthesis :: rest)) :=
    .path (.name htags rfl) rfl
  exact .of_chain (reads_invoke (reads_invoke hset rfl) hname) rfl

/-- The user's tags of a set, converted by a method of a name. -/
theorem conversion_isValue {before tags conversion : String}
    (hscan : scan before.toList = some (.word tags :: (invokeTokens "ignore_aws" ++ [.sign '.' false])))
    (hends : endsApart before = true) (htags : isName tags = true) (hword : IsIdentifier conversion)
    (hname : isName conversion = true) :
    IsValue (before ++ conversion ++ "()") (conversionTokens tags conversion) (conversionExpr tags conversion) := by
  have hcall : IsPiece "()" [.opening .parenthesis, .closing .parenthesis] := by decide
  refine ⟨?_, by simp [EndsOpen, conversionTokens, invokeTokens], fun rest => rfl, reads_conversion htags hname⟩
  have hconverted := scan_append hscan hword.scan (border_word hword.parts hends rfl)
  have hall := scan_append hconverted hcall.tokens (border_of_starts hcall.starts fun h => by cases h)
  rw [String.toList_append, String.toList_append]
  exact hall

/-- An argument that is there. -/
def argumentTokens (ts : List Token) :
    List Token := .opening .parenthesis :: .word "Some" :: .opening .parenthesis :: ts

theorem argument_isPiece (h : IsValue text ts e) : IsPiece ("(Some(" ++ text) (argumentTokens ts) := by
  have hopen : IsPiece "(Some(" [.opening .parenthesis, .word "Some", .opening .parenthesis] := by decide
  exact hopen.andThen (by decide) h.tokens h.ends

theorem readsArgs_someOf {value : Expr} (hbegins : closing .parenthesis ts = none)
    (h : ReadsExpr ts value (.closing .parenthesis :: .closing .parenthesis :: rest)) :
    ReadsArgs (.word "Some" :: .opening .parenthesis :: ts) [someOf value] rest := by
  have hsome : ReadsChain (.word "Some" :: .opening .parenthesis :: ts) (.names ["Some"]) (.opening .parenthesis :: ts) :=
    .path (.name rfl rfl) rfl
  exact .one rfl (.of_chain (hsome.call (.one hbegins h)) rfl)

/-- A method that is given a value. -/
theorem reads_give {m : String} {tm : List Token} {value : Expr} (hvalue : IsValue text tm value) (hm : isName m = true)
    (h : ReadsChain ts e (.sign '.' false :: .word m ::
      (argumentTokens tm ++ .closing .parenthesis :: .closing .parenthesis :: rest))) :
    ReadsChain ts (.method e m [] [someOf value]) rest :=
  h.method hm (readsArgs_someOf (hvalue.begins _) (hvalue.reads _))

/-! ## Requests -/

def identifierTokens (service : Service) : List Token :=
  if service.identifierIsSequence then
    argumentTokens [.word "vec", .sign '!' false, .opening .square, .word "identifier", .sign '.' false, .word "to_owned",
      .opening .parenthesis, .closing .parenthesis, .closing .square] ++
      [Token.closing .parenthesis, .closing .parenthesis]
  else
    argumentTokens (.word "identifier" :: invokeTokens "to_owned") ++
      [Token.closing .parenthesis, .closing .parenthesis]

theorem identifier_isPiece (service : Service) : IsPiece (identifierText service) (identifierTokens service) := by
  unfold identifierText identifierTokens
  cases service.identifierIsSequence with
  | true => decide
  | false => decide

theorem reads_identifier {m : String} (hm : isName m = true)
    (h : ReadsChain ts e (.sign '.' false :: .word m :: (identifierTokens service ++ rest))) :
    ReadsChain ts (.method e m [] [identifierExpr service]) rest := by
  unfold identifierTokens at h
  unfold identifierExpr
  cases hsequence : service.identifierIsSequence with
  | true =>
    rw [hsequence, if_pos rfl] at h
    have hvec : ReadsChain (.word "vec" :: .sign '!' false :: .opening .square :: .word "identifier" :: .sign '.' false ::
        .word "to_owned" :: .opening .parenthesis :: .closing .parenthesis :: .closing .square ::
        .closing .parenthesis :: .closing .parenthesis :: rest)
        (.macroCall ⟨["vec"], false, .square,
          [.word "identifier", .sign '.' false, .word "to_owned", .opening .parenthesis, .closing .parenthesis]⟩)
        (.closing .parenthesis :: .closing .parenthesis :: rest) :=
      .listCall rfl rfl (by simp only [List.length_cons]; omega)
    exact h.method hm (readsArgs_someOf rfl (.of_chain hvec rfl))
  | false =>
    rw [hsequence, if_neg Bool.false_ne_true] at h
    have hidentifier : ReadsChain (.word "identifier" :: (invokeTokens "to_owned" ++
        (.closing .parenthesis :: .closing .parenthesis :: rest))) (.names ["identifier"])
        (invokeTokens "to_owned" ++ (.closing .parenthesis :: .closing .parenthesis :: rest)) :=
      .path (.name rfl rfl) rfl
    exact h.method hm (readsArgs_someOf rfl (.of_chain (reads_invoke hidentifier rfl) rfl))

def resourceTypeTokens (field : String) : List Token :=
  [Token.sign '.' false, .word (setter field)] ++
    (argumentTokens (.word "resource_type" :: invokeTokens "into") ++
      [Token.closing .parenthesis, .closing .parenthesis])

def resourceTokens (service : Service) : List Token :=
  [Token.sign '.' false, .word (setter service.identifierField)] ++ identifierTokens service ++
    match resourceType? service with
    | some field => resourceTypeTokens field
    | none => []

/-- The blanks before a method on a line of its own. -/
structure IsMargin (margin : String) : Prop where
  piece : IsPiece (margin ++ ".") [.sign '.' false]
  ends : endsApart (margin ++ ".") = true

/-- What is asked of the names of fields in a service's description. -/
structure Spelled (service : Service) : Prop where
  identifierField : ∀ c ∈ service.identifierField.toList, Text.isIdentifierPart c = true
  resourceTypeField : ∀ field ∈ service.resourceTypeField, ∀ c ∈ field.toList, Text.isIdentifierPart c = true
  tagsField : ∀ c ∈ service.tagsField.toList, Text.isIdentifierPart c = true
  untagTagsField : ∀ c ∈ service.untagTagsField.toList, Text.isIdentifierPart c = true

theorem Spelled.resourceType (h : Spelled service) :
    ∀ field ∈ resourceType? service, ∀ c ∈ field.toList, Text.isIdentifierPart c = true :=
  fun field hfield => h.resourceTypeField field (Option.filter_eq_some_iff.1 hfield).1

theorem resource_isPiece {margin : String} (hmargin : IsMargin margin) (h : Spelled service) :
    IsPiece (resourceText margin service) (resourceTokens service) := by
  have hfirst := (hmargin.piece.word hmargin.ends (isIdentifier_setter h.identifierField)).append (identifier_isPiece service)
  refine hfirst.append ?_
  cases hfield : resourceType? service with
  | none => exact .nil
  | some field =>
    have hvalue : IsPiece "(Some(resource_type.into()))"
        (argumentTokens (.word "resource_type" :: invokeTokens "into") ++ [.closing .parenthesis, .closing .parenthesis]) :=
      .ofList (by decide +kernel)
    exact (hmargin.piece.word hmargin.ends (isIdentifier_setter (h.resourceType field hfield))).append hvalue

theorem reads_resource (h : ReadsChain ts e (resourceTokens service ++ rest)) :
    ReadsChain ts (resourceExpr service e) rest := by
  unfold resourceTokens at h
  unfold resourceExpr
  cases hfield : resourceType? service with
  | none =>
    rw [hfield] at h
    simp only [List.append_assoc, List.cons_append, List.nil_append] at h
    exact reads_identifier (isName_setter _) h
  | some field =>
    rw [hfield] at h
    simp only [List.append_assoc, List.cons_append, List.nil_append] at h
    have hidentified := reads_identifier (isName_setter _) h
    have htype : ReadsChain (.word "resource_type" :: (invokeTokens "into" ++
        (.closing .parenthesis :: .closing .parenthesis :: rest))) (.names ["resource_type"])
        (invokeTokens "into" ++ (.closing .parenthesis :: .closing .parenthesis :: rest)) :=
      .path (.name rfl rfl) rfl
    exact hidentified.method (isName_setter _) (readsArgs_someOf rfl (.of_chain (reads_invoke htype rfl) rfl))

/-- A failure is told with the identifier. -/
def checkedTokens (failure : String) : List Token :=
  [.sign '.' false, .word "map_err", .opening .parenthesis, .sign '|' false, .word "err", .sign '|' false,
    .word "UpdateTagsError", .sign ':' true, .sign ':' false, .word failure, .opening .parenthesis, .word "identifier",
    .sign ',' false, .word "err", .closing .parenthesis, .closing .parenthesis]

def sendTokens (failure : String) : List Token :=
  invokeTokens "send" ++ [Token.sign '.' false, .word "await"] ++ checkedTokens failure ++
    [Token.sign '?' true, .sign ';' false]

theorem send_isPiece {margin failure : String}
    (h : (margin, failure) ∈ [("\n            ", "untagging"), ("\n            ", "tagging"), ("\n        ", "tagging")]) :
    IsPiece (sendText margin failure) (sendTokens failure) := by
  simp only [List.mem_cons, List.not_mem_nil, or_false, Prod.mk.injEq] at h
  rcases h with ⟨rfl, rfl⟩ | ⟨rfl, rfl⟩ | ⟨rfl, rfl⟩
  · decide +kernel
  · decide +kernel
  · decide +kernel

theorem reads_checked {failure : String} {j : Bool} (hfailure : isName failure = true)
    (h : ReadsChain ts e (checkedTokens failure ++ .sign '?' j :: rest)) : ReadsChain ts (checkedExpr failure e) rest := by
  have herr : ReadsExpr (.word "err" :: .closing .parenthesis :: .closing .parenthesis :: .sign '?' j :: rest)
      (.names ["err"]) (.closing .parenthesis :: .closing .parenthesis :: .sign '?' j :: rest) :=
    .of_chain (.path (.name rfl rfl) rfl) rfl
  have hidentifier : ReadsExpr (.word "identifier" :: .sign ',' false :: .word "err" :: .closing .parenthesis ::
      .closing .parenthesis :: .sign '?' j :: rest) (.names ["identifier"])
      (.sign ',' false :: .word "err" :: .closing .parenthesis :: .closing .parenthesis :: .sign '?' j :: rest) :=
    .of_chain (.path (.name rfl rfl) rfl) rfl
  have hpath : ReadsChain (.word "UpdateTagsError" :: .sign ':' true :: .sign ':' false :: .word failure ::
      .opening .parenthesis :: .word "identifier" :: .sign ',' false :: .word "err" :: .closing .parenthesis ::
      .closing .parenthesis :: .sign '?' j :: rest) (.names ["UpdateTagsError", failure])
      (.opening .parenthesis :: .word "identifier" :: .sign ',' false :: .word "err" :: .closing .parenthesis ::
        .closing .parenthesis :: .sign '?' j :: rest) :=
    .path (.cons rfl (.name hfailure rfl)) rfl
  have htold := ReadsExpr.of_chain (hpath.call (.cons rfl hidentifier (.one rfl herr))) rfl
  exact (h.method rfl (.one rfl (.closure rfl htold rfl))).attempt

/-- A request is sent, and the statement ends. -/
theorem reads_sent {failure : String} (hfailure : isName failure = true)
    (h : ReadsChain ts e (sendTokens failure ++ rest)) : ReadsChain ts (sentExpr failure e) (.sign ';' false :: rest) := by
  unfold sendTokens at h
  simp only [List.append_assoc, List.cons_append, List.nil_append] at h
  have hawait := (reads_invoke h rfl).await
  exact reads_checked hfailure hawait

/-- The method of an operation, which may be a number as far as tokens go, or nothing. -/
def operationTokens (operation : String) : List Token :=
  match (Text.snakeCase operation).toList with
  | [] => []
  | c :: _ =>
    if Text.isAsciiDigit c then [.literal (Text.snakeCase operation)]
    else if Text.isIdentifierStart c then [.word (Text.snakeCase operation)]
    else []

theorem operationTokens_word {operation : String} (h : IsIdentifier (Text.snakeCase operation)) :
    operationTokens operation = [.word (Text.snakeCase operation)] := by
  obtain ⟨c, cs, heq, hstart⟩ := h.start
  unfold operationTokens
  rw [heq]
  simp [(digitOf_of_start hstart).1, hstart]

/-- The call of an operation is read as an expression. -/
def ReadsCall (operation : String) (call : Expr) : Prop := ∀ rest, ReadsChain (.word "conn" :: .sign '.' false ::
  (operationTokens operation ++ .opening .parenthesis :: .closing .parenthesis :: rest)) call rest

theorem readsCall_operation {operation : String} (hplain : Text.isPlainName operation = true)
    (hname : isName (Text.snakeCase operation) = true) : ReadsCall operation (operationCall operation) := by
  intro rest
  rw [operationTokens_word (isIdentifier_operation hplain)]
  exact (ReadsChain.path (.name rfl rfl) rfl).method hname (.nil rest)

/-- The request of one direction. -/
def requestTokens (service : Service) (operation tagsField : String) (value : List Token) (failure : String) :
    List Token :=
  [Token.word "conn", .sign '.' false] ++ operationTokens operation ++
    [Token.opening .parenthesis, .closing .parenthesis] ++ resourceTokens service ++ [Token.sign '.' false] ++
    [Token.word (setter tagsField)] ++ argumentTokens value ++ [Token.closing .parenthesis, .closing .parenthesis] ++
    sendTokens failure

/-- What is asked of the names of operations and fields in a service's description. -/
structure PlainMembers (service : Service) : Prop where
  tagOperation : Text.isPlainName service.tagOperation = true
  untagOperation : Text.isPlainName service.untagOperation = true
  identifierField : Text.isPlainName service.identifierField = true
  resourceTypeField : ∀ field ∈ service.resourceTypeField, Text.isPlainName field = true
  tagsField : Text.isPlainName service.tagsField = true
  untagTagsField : Text.isPlainName service.untagTagsField = true

/-- What is asked of the names in a service's description. -/
structure PlainNames (service : Service) : Prop where
  name : IsWord service.name
  tagOperation : Text.isPlainName service.tagOperation = true
  untagOperation : Text.isPlainName service.untagOperation = true
  identifierField : Text.isPlainName service.identifierField = true
  resourceTypeField : ∀ field ∈ service.resourceTypeField, Text.isPlainName field = true
  tagsField : Text.isPlainName service.tagsField = true
  untagTagsField : Text.isPlainName service.untagTagsField = true

theorem PlainNames.members (h : PlainNames service) : PlainMembers service :=
  ⟨h.tagOperation, h.untagOperation, h.identifierField, h.resourceTypeField, h.tagsField, h.untagTagsField⟩

instance : Coe (PlainNames service) (PlainMembers service) := ⟨PlainNames.members⟩

theorem wide_isMargin : IsMargin "\n            " := ⟨by decide, by decide⟩

theorem narrow_isMargin : IsMargin "\n        " := ⟨by decide, by decide⟩

variable {operation tagsField failure : String} {value : List Token} {v call : Expr} {P : List Char → List Token → Prop}

theorem PlainMembers.spelled (h : PlainMembers service) : Spelled service :=
  ⟨parts_of_plain h.identifierField, fun field hfield => parts_of_plain (h.resourceTypeField field hfield),
    parts_of_plain h.tagsField, parts_of_plain h.untagTagsField⟩

theorem called_operation (hP : Tokenizes P) (h : Text.isPlainName operation = true) :
    Called P (Text.snakeCase operation) (operationTokens operation) := by
  rw [operationTokens_word (isIdentifier_operation h)]
  exact (isIdentifier_operation h).called hP

theorem request_fits (hP : Tokenizes P) (h : Spelled service)
    (hoperation : Called P (Text.snakeCase operation) (operationTokens operation))
    (hfield : ∀ c ∈ tagsField.toList, Text.isIdentifierPart c = true) (hvalue : IsValue text value v)
    (hfailure : failure ∈ ["untagging", "tagging"]) :
    Fits P (requestText service operation tagsField text failure) (requestTokens service operation tagsField value failure) := by
  have hconn : IsPiece "\n        conn." [.word "conn", .sign '.' false] := .ofList (by decide +kernel)
  have hdot : IsPiece "\n            ." [.sign '.' false] := .ofList (by decide +kernel)
  have hclose : IsPiece "))" [.closing .parenthesis, .closing .parenthesis] := by decide
  have hsend : IsPiece (sendText "\n            " failure) (sendTokens failure) := send_isPiece (by
    simp only [List.mem_cons, List.not_mem_nil, or_false] at hfailure
    rcases hfailure with rfl | rfl <;> simp)
  have hset := ((resource_isPiece wide_isMargin h).append hdot).word (endsApart_append _ (by decide)) (isIdentifier_setter hfield)
  have hall := (hconn.call hP (by decide) hoperation).append
    ((((hset.append (argument_isPiece hvalue)).append hclose).append hsend).fits hP)
  unfold requestText requestTokens
  simpa only [String.append_assoc, List.append_assoc] using hall

theorem reads_request (hcall : ReadsCall operation call) (hvalue : IsValue text value v) (hfailure : isName failure = true) :
    ReadsStmt (requestTokens service operation tagsField value failure ++ rest)
      (.expr (requestOf service call tagsField v failure) true) true rest := by
  unfold requestTokens
  simp only [List.append_assoc, List.cons_append, List.nil_append]
  refine .expr (.of_chain (reads_sent hfailure ?_) rfl) (by decide) rfl rfl (by intro m h; cases h)
  exact reads_give hvalue (isName_setter _) (reads_resource (hcall _))

/-! ## Directions -/

def unlessTokens (tags : String) : List Token :=
  [Token.word "if", .sign '!' false, .word tags] ++ invokeTokens "is_empty" ++ [Token.opening .brace]

/-- The head of the loop over batches. -/
def loopTokens (tags : String) (n : Nat) : List Token :=
  [Token.word "for", .word tags, .word "in", .word tags, .sign '.' false, .word "chunks", .opening .parenthesis] ++
    .literal (toString n) :: [.closing .parenthesis, .sign '?' false, .opening .brace]

def directionTokens (service : Service) (tags : String) (request : List Token) : List Token :=
  unlessTokens tags ++
    (match limit? service with
      | some n => loopTokens tags n ++ request ++ [Token.closing .brace]
      | none => request) ++
    [Token.closing .brace]

theorem limit_ne_zero {n : Nat} (h : limit? service = some n) : n ≠ 0 := by
  simpa using (Option.filter_eq_some_iff.1 h).2

theorem direction_fits (hP : Tokenizes P) {tags value : String} {request : List Token}
    (htags : tags ∈ ["removed_tags", "updated_tags"])
    (hrequest : Fits P (requestText service operation tagsField value failure) request) :
    Fits P (directionText service tags operation tagsField value failure) (directionTokens service tags request) := by
  have hunless : IsPiece ("\n    if !" ++ tags ++ ".is_empty() \x7b") (unlessTokens tags) := by
    simp only [List.mem_cons, List.not_mem_nil, or_false] at htags
    rcases htags with rfl | rfl <;> decide +kernel
  have hfor : IsPiece ("\n        for " ++ tags ++ " in " ++ tags ++ ".chunks(") [.word "for", .word tags, .word "in",
      .word tags, .sign '.' false, .word "chunks", .opening .parenthesis] := by
    simp only [List.mem_cons, List.not_mem_nil, or_false] at htags
    rcases htags with rfl | rfl <;> decide +kernel
  have hbrace : IsPiece ")? \x7b" [.closing .parenthesis, .sign '?' false, .opening .brace] := by decide
  have hinner : IsPiece "\n        \x7d" [.closing .brace] := .ofList (by decide +kernel)
  have houter : IsPiece "\n    \x7d" [.closing .brace] := .ofList (by decide +kernel)
  unfold directionText directionTokens
  cases limit? service with
  | none => exact ((hunless.fits hP).append hrequest).append (houter.fits hP)
  | some n =>
    have hloop := hfor.number (endsApart_append _ (by decide)) n hbrace rfl (by simp)
    exact ((hunless.fits hP).append (((hloop.fits hP).append hrequest).append (hinner.fits hP))).append (houter.fits hP)

/-- Whether a set has tags, before a block. -/
theorem reads_isEmpty {tags : String} (htags : isName tags = true) (ts : List Token) :
    ReadsExpr (.sign '!' false :: .word tags :: (invokeTokens "is_empty" ++ .opening .brace :: ts))
      (.unary "!" (.method (.names [tags]) "is_empty" [] [])) (.opening .brace :: ts) := by
  have hset : ReadsChain (.word tags :: (invokeTokens "is_empty" ++ .opening .brace :: ts)) (.names [tags])
      (invokeTokens "is_empty" ++ .opening .brace :: ts) := .path (.name htags rfl) rfl
  exact .of_unary (.not (.of_chain (reads_invoke hset rfl) rfl)) rfl

theorem reads_unlessEmpty {tags : String} {body : List Stmt} (htags : isName tags = true)
    (hbody : ReadsStmts ts body rest) (hend : EndsBlock rest) :
    ReadsStmt (unlessTokens tags ++ ts) (unlessEmpty tags body) true rest := by
  unfold unlessTokens
  simp only [List.append_assoc, List.cons_append, List.nil_append]
  exact .when (reads_isEmpty htags ts) (.intro hbody) hend

/-- The batches of a set, before a block. -/
theorem reads_chunks {tags : String} (htags : isName tags = true) (n : Nat) (ts : List Token) :
    ReadsExpr (.word tags :: .sign '.' false :: .word "chunks" :: .opening .parenthesis :: .literal (toString n) ::
        .closing .parenthesis :: .sign '?' false :: .opening .brace :: ts)
      (.attempt (.method (.names [tags]) "chunks" [] [.literal (toString n)])) (.opening .brace :: ts) := by
  have hset : ReadsChain (.word tags :: .sign '.' false :: .word "chunks" :: .opening .parenthesis ::
      .literal (toString n) :: .closing .parenthesis :: .sign '?' false :: .opening .brace :: ts) (.names [tags])
      (.sign '.' false :: .word "chunks" :: .opening .parenthesis :: .literal (toString n) :: .closing .parenthesis ::
        .sign '?' false :: .opening .brace :: ts) := .path (.name htags rfl) rfl
  have hnumber : ReadsExpr (.literal (toString n) :: .closing .parenthesis :: .sign '?' false :: .opening .brace :: ts)
      (.literal (toString n)) (.closing .parenthesis :: .sign '?' false :: .opening .brace :: ts) :=
    .of_chain (.literal _ _) rfl
  exact .of_chain (hset.method rfl (.one rfl hnumber)).attempt rfl

theorem reads_direction {tags : String} {request : List Token} (htags : isName tags = true) {e : Expr}
    (hrequest : ∀ rest, ReadsStmt (request ++ rest) (.expr e true) true rest) (hend : EndsBlock rest) :
    ReadsStmt (directionTokens service tags request ++ rest) (directionStmt service tags e) true rest := by
  unfold directionTokens directionStmt partsStmt
  cases hlimit : limit? service with
  | none =>
    simp only [List.append_assoc, List.cons_append, List.nil_append]
    exact reads_unlessEmpty htags (.cons (hrequest _) (.inl rfl) (.nil rest)) hend
  | some n =>
    have hbody := ReadsStmts.cons (hrequest (.closing .brace :: .closing .brace :: rest)) (.inl rfl) (.nil _)
    have hloop := ReadsStmt.loop htags (reads_chunks htags n _) (.intro hbody) (endsBlock_closing .brace rest)
    simp only [loopTokens, List.append_assoc, List.cons_append, List.nil_append]
    exact reads_unlessEmpty htags (.cons hloop (.inl rfl) (.nil rest)) hend

/-! ## Bodies -/

def differenceTokens (x difference : String) : List Token :=
  [.word "let", .word x, .sign '=' false, .word "old_tags", .sign '.' false, .word difference, .opening .parenthesis,
    .sign '&' false, .word "new_tags", .closing .parenthesis, .sign ';' false]

theorem reads_difference {x difference : String} (hx : isName x = true) (hdifference : isName difference = true)
    (rest : List Token) : ReadsStmt (differenceTokens x difference ++ rest) (differenceStmt x difference) true rest := by
  have hnew : ReadsUnary (.word "new_tags" :: .closing .parenthesis :: .sign ';' false :: rest) (.names ["new_tags"])
      (.closing .parenthesis :: .sign ';' false :: rest) := .of_chain (.path (.name rfl rfl) rfl) rfl
  have hold : ReadsChain (.word "old_tags" :: .sign '.' false :: .word difference :: .opening .parenthesis ::
      .sign '&' false :: .word "new_tags" :: .closing .parenthesis :: .sign ';' false :: rest) (.names ["old_tags"])
      (.sign '.' false :: .word difference :: .opening .parenthesis :: .sign '&' false :: .word "new_tags" ::
        .closing .parenthesis :: .sign ';' false :: rest) := .path (.name rfl rfl) rfl
  have hargument : ReadsArgs (.sign '&' false :: .word "new_tags" :: .closing .parenthesis :: .sign ';' false :: rest)
      [.reference false (.names ["new_tags"])] (.sign ';' false :: rest) :=
    .one rfl (.of_unary (.reference (by decide) hnew) rfl)
  exact .binding (.name hx rfl (by simp)) (.of_chain (hold.method hdifference hargument) rfl)

def convertTokens (x : String) : List Token :=
  [Token.word "let", .word x, .sign ':' false, .word "KeyValueTags", .sign '=' false, .word x] ++
    invokeTokens "into" ++ [Token.sign ';' false]

theorem reads_convert {x : String} (hx : isName x = true) (rest : List Token) :
    ReadsStmt (convertTokens x ++ rest) (convertStmt x) true rest := by
  have hset : ReadsChain (.word x :: (invokeTokens "into" ++ .sign ';' false :: rest)) (.names [x])
      (invokeTokens "into" ++ .sign ';' false :: rest) := .path (.name hx rfl) rfl
  unfold convertTokens
  simp only [List.append_assoc, List.cons_append, List.nil_append]
  exact .binding (.typed hx rfl) (.of_chain (reads_invoke hset rfl) rfl)

/-- The value at the end of the body. -/
def doneTokens : List Token :=
  [.word "Ok", .opening .parenthesis, .opening .parenthesis, .closing .parenthesis, .closing .parenthesis, .closing .brace]

theorem reads_doneExpr (hend : stops rest = true) :
    ReadsExpr (.word "Ok" :: .opening .parenthesis :: .opening .parenthesis :: .closing .parenthesis ::
      .closing .parenthesis :: rest) doneExpr rest := by
  have hunit : ReadsExpr (.opening .parenthesis :: .closing .parenthesis :: .closing .parenthesis :: rest) (.tuple [])
      (.closing .parenthesis :: rest) := .of_chain (.unit _) rfl
  have hok : ReadsChain (.word "Ok" :: .opening .parenthesis :: .opening .parenthesis :: .closing .parenthesis ::
      .closing .parenthesis :: rest) (.names ["Ok"])
      (.opening .parenthesis :: .opening .parenthesis :: .closing .parenthesis :: .closing .parenthesis :: rest) :=
    .path (.name rfl rfl) rfl
  exact .of_chain (hok.call (.one rfl hunit)) hend

theorem reads_done (rest : List Token) : ReadsStmts (doneTokens ++ rest) [.expr doneExpr false] rest :=
  .last (reads_doneExpr rfl) (by decide) rfl rfl (by intro m h; cases h)

def separateTokens (service : Service) (tagValue untagValue : List Token) : List Token :=
  differenceTokens "removed_tags" "removed" ++
    directionTokens service "removed_tags"
      (requestTokens service service.untagOperation service.untagTagsField untagValue "untagging") ++
    differenceTokens "updated_tags" "updated" ++
    directionTokens service "updated_tags"
      (requestTokens service service.tagOperation service.tagsField tagValue "tagging")

/-- What is known of the values that carry the tags of a service. -/
structure Valued (service : Service) (tagTokens untagTokens : List Token) (tagExpr untagExpr : Expr) : Prop where
  tag : IsValue (tagText service) tagTokens tagExpr
  untag : IsValue (untagText service) untagTokens untagExpr

/-- What is asked of the operations: their methods are names. -/
structure NamedOperations (service : Service) : Prop where
  tag : isName (Text.snakeCase service.tagOperation) = true
  untag : isName (Text.snakeCase service.untagOperation) = true

variable {tagTokens untagTokens : List Token} {tagExpr untagExpr : Expr}

/-- What is asked of the operations before any text: how their methods are taken
apart. -/
structure CalledOperations (P : List Char → List Token → Prop) (service : Service) : Prop where
  tag : Called P (Text.snakeCase service.tagOperation) (operationTokens service.tagOperation)
  untag : Called P (Text.snakeCase service.untagOperation) (operationTokens service.untagOperation)

theorem PlainMembers.called (hP : Tokenizes P) (h : PlainMembers service) : CalledOperations P service :=
  ⟨called_operation hP h.tagOperation, called_operation hP h.untagOperation⟩

variable {tagCall untagCall : Expr}

theorem separate_fits (hP : Tokenizes P) (h : Spelled service) (hoperations : CalledOperations P service)
    (hvalues : Valued service tagTokens untagTokens tagExpr untagExpr) :
    Fits P (separateText service) (separateTokens service tagTokens untagTokens) := by
  have hremoved : IsPiece "\n\n    let removed_tags = old_tags.removed(&new_tags);"
      (differenceTokens "removed_tags" "removed") := .ofList (by decide +kernel)
  have hupdated : IsPiece "\n\n    let updated_tags = old_tags.updated(&new_tags);"
      (differenceTokens "updated_tags" "updated") := .ofList (by decide +kernel)
  have huntag : Fits P (directionText service "removed_tags" service.untagOperation service.untagTagsField
      (untagText service) "untagging") (directionTokens service "removed_tags" _) :=
    direction_fits hP (by simp) (request_fits hP h hoperations.untag h.untagTagsField hvalues.untag (by simp))
  have htag : Fits P (directionText service "updated_tags" service.tagOperation service.tagsField
      (tagText service) "tagging") (directionTokens service "updated_tags" _) :=
    direction_fits hP (by simp) (request_fits hP h hoperations.tag h.tagsField hvalues.tag (by simp))
  exact (((hremoved.fits hP).append huntag).append (hupdated.fits hP)).append htag

theorem reads_separate (htag : ReadsCall service.tagOperation tagCall) (huntag : ReadsCall service.untagOperation untagCall)
    (hvalues : Valued service tagTokens untagTokens tagExpr untagExpr)
    {ss : List Stmt} (hrest : ReadsStmts ts ss rest) (hend : EndsBlock ts) :
    ReadsStmts (separateTokens service tagTokens untagTokens ++ ts)
      (separateOf service tagCall untagCall tagExpr untagExpr ++ ss) rest := by
  unfold separateTokens
  simp only [List.append_assoc]
  refine .cons (reads_difference rfl rfl _) (.inl rfl) ?_
  refine .cons (reads_direction rfl (fun _ => reads_request huntag hvalues.untag rfl)
    (endsBlock_word (by decide) _)) (.inl rfl) ?_
  refine .cons (reads_difference rfl rfl _) (.inl rfl) ?_
  exact .cons (reads_direction rfl (fun _ => reads_request htag hvalues.tag rfl) hend) (.inl rfl) hrest

/-! ### The body with one request -/

def stopTokens : List Token :=
  [Token.word "if", .word "removed_tags"] ++ invokeTokens "is_empty" ++
    [Token.sign '&' true, .sign '&' false, .word "updated_tags"] ++ invokeTokens "is_empty" ++
    [Token.opening .brace, .word "return", .word "Ok", .opening .parenthesis, .opening .parenthesis,
      .closing .parenthesis, .closing .parenthesis, .sign ';' false, .closing .brace]

theorem reads_stop (hend : EndsBlock rest) : ReadsStmt (stopTokens ++ rest) stopStmt true rest := by
  have hremoved : ∀ tail, ReadsChain (.word "removed_tags" :: (invokeTokens "is_empty" ++ tail)) (.names ["removed_tags"])
      (invokeTokens "is_empty" ++ tail) := fun tail => .path (.name rfl rfl) rfl
  have hupdated : ∀ tail, ReadsChain (.word "updated_tags" :: (invokeTokens "is_empty" ++ tail)) (.names ["updated_tags"])
      (invokeTokens "is_empty" ++ tail) := fun tail => .path (.name rfl rfl) rfl
  have hreturn : ReadsStmt (.word "return" :: .word "Ok" :: .opening .parenthesis :: .opening .parenthesis ::
      .closing .parenthesis :: .closing .parenthesis :: .sign ';' false :: .closing .brace :: rest)
      (.expr (.ret (some doneExpr)) true) true (.closing .brace :: rest) :=
    .expr (.ret (by decide) (reads_doneExpr rfl) rfl) (by decide) rfl rfl (by intro m h; cases h)
  unfold stopTokens
  simp only [List.append_assoc, List.cons_append, List.nil_append]
  refine .when (.and (.of_chain (reads_invoke (hremoved _) rfl) rfl) (.of_chain (reads_invoke (hupdated _) rfl) rfl) rfl) ?_ hend
  exact .intro (.cons hreturn (.inl rfl) (.nil rest))

/-- The request, with the statement that declares it. -/
def declareTokens (service : Service) : List Token :=
  [Token.word "let", .word "mut", .word "request", .sign '=' false, .word "conn", .sign '.' false] ++
    operationTokens service.tagOperation ++ [Token.opening .parenthesis, .closing .parenthesis] ++
    resourceTokens service ++ [Token.sign ';' false]

theorem reads_declare (hcall : ReadsCall service.tagOperation tagCall) (rest : List Token) :
    ReadsStmt (declareTokens service ++ rest) (declareOf service tagCall) true rest := by
  unfold declareTokens
  simp only [List.append_assoc, List.cons_append, List.nil_append]
  exact .binding (.mutable rfl rfl) (.of_chain (reads_resource (hcall _)) rfl)

def setTokens (tags field : String) (value : List Token) : List Token :=
  unlessTokens tags ++
    [Token.word "request", .sign '=' false, .word "request", .sign '.' false, .word (setter field)] ++
    argumentTokens value ++ [Token.closing .parenthesis, .closing .parenthesis, .sign ';' false, .closing .brace]

theorem reads_set {tags field : String} (htags : isName tags = true) (hvalue : IsValue text value v)
    (hend : EndsBlock rest) :
    ReadsStmt (setTokens tags field value ++ rest) (setStmt tags field v) true rest := by
  have hleft : ∀ tail, ReadsUnary (.word "request" :: .sign '=' false :: tail) (.names ["request"]) (.sign '=' false :: tail) :=
    fun tail => .of_chain (.path (.name rfl rfl) rfl) rfl
  have hright : ∀ tail, ReadsChain (.word "request" :: .sign '.' false :: tail) (.names ["request"]) (.sign '.' false :: tail) :=
    fun tail => .path (.name rfl rfl) rfl
  unfold setTokens
  simp only [List.append_assoc, List.cons_append, List.nil_append]
  exact reads_unlessEmpty htags (.cons (.expr (.assign (hleft _)
    (.of_chain (reads_give hvalue (isName_setter _) (hright _)) rfl) rfl) (by decide) rfl rfl
    (by intro m h; cases h)) (.inl rfl) (.nil rest)) hend

def combinedTokens (service : Service) (tagValue untagValue : List Token) : List Token :=
  differenceTokens "removed_tags" "removed" ++ differenceTokens "updated_tags" "updated" ++ stopTokens ++
    declareTokens service ++ setTokens "updated_tags" service.tagsField tagValue ++
    setTokens "removed_tags" service.untagTagsField untagValue ++ .word "request" :: sendTokens "tagging"

theorem endsClosed_resource (margin : String) (service : Service) :
    endsClosed (resourceText margin service) = true := by
  unfold resourceText
  cases resourceType? service with
  | some field => exact endsClosed_append _ (endsClosed_append _ (by decide))
  | none =>
    rw [String.append_empty]
    refine endsClosed_append _ ?_
    unfold identifierText
    cases service.identifierIsSequence with
    | true => decide
    | false => decide

/-- The statements before the request. -/
theorem stop_isPiece :
    IsPiece ("\n    let removed_tags = old_tags.removed(&new_tags);" ++ "\n    let updated_tags = old_tags.updated(&new_tags);" ++
      "\n\n    if removed_tags.is_empty() && updated_tags.is_empty() \x7b" ++ "\n        return Ok(());" ++ "\n    \x7d")
      (differenceTokens "removed_tags" "removed" ++ differenceTokens "updated_tags" "updated" ++ stopTokens) := by
  have hremoved : IsPiece "\n    let removed_tags = old_tags.removed(&new_tags);" (differenceTokens "removed_tags" "removed") :=
    .ofList (by decide +kernel)
  have hupdated : IsPiece "\n    let updated_tags = old_tags.updated(&new_tags);" (differenceTokens "updated_tags" "updated") :=
    .ofList (by decide +kernel)
  have hif : IsPiece "\n\n    if removed_tags.is_empty() && updated_tags.is_empty() \x7b"
      ([.word "if", .word "removed_tags"] ++ invokeTokens "is_empty" ++ [.sign '&' true, .sign '&' false, .word "updated_tags"] ++
        invokeTokens "is_empty" ++ [.opening .brace]) := .ofList (by decide +kernel)
  have hreturn : IsPiece "\n        return Ok(());" [.word "return", .word "Ok", .opening .parenthesis, .opening .parenthesis,
      .closing .parenthesis, .closing .parenthesis, .sign ';' false] := .ofList (by decide +kernel)
  have hclose : IsPiece "\n    \x7d" [.closing .brace] := .ofList (by decide +kernel)
  refine ((((hremoved.append hupdated).append hif).append hreturn).append hclose).of_eq ?_
  simp only [stopTokens, List.append_assoc, List.cons_append, List.nil_append]

theorem combined_fits (hP : Tokenizes P) (h : Spelled service) (hoperations : CalledOperations P service)
    (hvalues : Valued service tagTokens untagTokens tagExpr untagExpr) :
    Fits P (combinedText service) (combinedTokens service tagTokens untagTokens) := by
  have hconn : IsPiece "\n\n    let mut request = conn"
      [.word "let", .word "mut", .word "request", .sign '=' false, .word "conn"] := .ofList (by decide +kernel)
  have hdot : IsPiece "\n        ." [.sign '.' false] := .ofList (by decide +kernel)
  have hhead := (stop_isPiece.append hconn).append hdot
  have hupdated : scan ";\n\n    if !updated_tags.is_empty() \x7b\n        request = request.".toList =
      some (.sign ';' false :: (unlessTokens "updated_tags" ++
        [.word "request", .sign '=' false, .word "request", .sign '.' false])) := scan_ofList (by decide +kernel)
  have hremoved : IsPiece "));\n    \x7d\n\n    if !removed_tags.is_empty() \x7b\n        request = request."
      ([.closing .parenthesis, .closing .parenthesis, .sign ';' false, .closing .brace] ++ unlessTokens "removed_tags" ++
        [.word "request", .sign '=' false, .word "request", .sign '.' false]) := .ofList (by decide +kernel)
  have hlast : IsPiece "));\n    \x7d\n\n    request"
      [.closing .parenthesis, .closing .parenthesis, .sign ';' false, .closing .brace, .word "request"] :=
    .ofList (by decide +kernel)
  have hsend : IsPiece (sendText "\n        " "tagging") (sendTokens "tagging") := send_isPiece (by simp)
  have hset := (((resource_isPiece narrow_isMargin h).andThen (endsClosed_resource _ _) hupdated (endsOpen_iff.2 rfl)).word
    (endsApart_append _ (by decide)) (isIdentifier_setter h.tagsField)).append (argument_isPiece hvalues.tag)
  have hunset := ((hset.append hremoved).word (endsApart_append _ (by decide)) (isIdentifier_setter h.untagTagsField)).append
    (argument_isPiece hvalues.untag)
  have hall := (hhead.call hP (endsApart_append _ (by decide)) hoperations.tag).append
    (((hunset.append hlast).append hsend).fits hP)
  unfold combinedText
  simp only [combinedTokens, declareTokens, setTokens]
  simpa only [String.append_assoc, List.append_assoc, List.cons_append, List.nil_append] using hall

theorem reads_combined (hcall : ReadsCall service.tagOperation tagCall)
    (hvalues : Valued service tagTokens untagTokens tagExpr untagExpr)
    {ss : List Stmt} (hrest : ReadsStmts ts ss rest) :
    ReadsStmts (combinedTokens service tagTokens untagTokens ++ ts) (combinedOf service tagCall tagExpr untagExpr ++ ss) rest := by
  have hrequest : ∀ tail, ReadsChain (.word "request" :: (sendTokens "tagging" ++ tail)) (.names ["request"])
      (sendTokens "tagging" ++ tail) := fun tail => .path (.name rfl rfl) rfl
  unfold combinedTokens
  simp only [List.append_assoc, List.cons_append]
  refine .cons (reads_difference rfl rfl _) (.inl rfl) ?_
  refine .cons (reads_difference rfl rfl _) (.inl rfl) ?_
  refine .cons (reads_stop (endsBlock_word (by decide) _)) (.inl rfl) ?_
  refine .cons (reads_declare hcall _) (.inl rfl) ?_
  refine .cons (reads_set rfl hvalues.tag (endsBlock_word (by decide) _)) (.inl rfl) ?_
  refine .cons (reads_set rfl hvalues.untag (endsBlock_word (by decide) _)) (.inl rfl) ?_
  exact .cons (.expr (.of_chain (reads_sent rfl (hrequest _)) rfl) (by decide) rfl rfl (by intro m h; cases h)) (.inl rfl) hrest

/-! ### The whole body -/

def bodyTokens (service : Service) (tagValue untagValue : List Token) : List Token :=
  .opening .brace :: (convertTokens "old_tags" ++ convertTokens "new_tags" ++
    (if service.usesSingleEndpoint then combinedTokens service tagValue untagValue
      else separateTokens service tagValue untagValue) ++ doneTokens)

theorem body_fits (hP : Tokenizes P) (h : Spelled service) (hoperations : CalledOperations P service)
    (hvalues : Valued service tagTokens untagTokens tagExpr untagExpr) :
    Fits P (bodyText service) (bodyTokens service tagTokens untagTokens) := by
  have hopen : IsPiece "\x7b" [.opening .brace] := by decide
  have hold : IsPiece "\n    let old_tags: KeyValueTags = old_tags.into();" (convertTokens "old_tags") :=
    .ofList (by decide +kernel)
  have hnew : IsPiece "\n    let new_tags: KeyValueTags = new_tags.into();" (convertTokens "new_tags") :=
    .ofList (by decide +kernel)
  have hhead := (((hopen.append hold).append hnew).of_eq (List.append_assoc _ _ _)).fits hP
  have hdone : IsPiece "\n\n    Ok(())\n\x7d" doneTokens := .ofList (by decide +kernel)
  unfold bodyText bodyTokens
  cases service.usesSingleEndpoint with
  | true => exact (hhead.append (combined_fits hP h hoperations hvalues)).append (hdone.fits hP)
  | false => exact (hhead.append (separate_fits hP h hoperations hvalues)).append (hdone.fits hP)

/-- The tokens of a body. -/
theorem tokens_bodyText (h : PlainMembers service) (hvalues : Valued service tagTokens untagTokens tagExpr untagExpr) :
    tokens (bodyText service).toList = some (bodyTokens service tagTokens untagTokens) := by
  have hlexes := (body_fits Lexes.tokenizes h.spelled (h.called Lexes.tokenizes) hvalues).reads [] [] (by simp) Lexes.nil
  rw [List.append_nil, List.append_nil] at hlexes
  exact hlexes.tokens

/-- The tokens of a body read as its statements, whatever follows. -/
theorem reads_bodyOf (htag : ReadsCall service.tagOperation tagCall) (huntag : ReadsCall service.untagOperation untagCall)
    (hvalues : Valued service tagTokens untagTokens tagExpr untagExpr) (rest : List Token) :
    ReadsBlock (bodyTokens service tagTokens untagTokens ++ rest) (bodyOf service tagCall untagCall tagExpr untagExpr) rest := by
  have hdone := reads_done rest
  have hbody : ReadsStmts ((if service.usesSingleEndpoint then combinedTokens service tagTokens untagTokens
        else separateTokens service tagTokens untagTokens) ++ (doneTokens ++ rest))
      ((if service.usesSingleEndpoint then combinedOf service tagCall tagExpr untagExpr
        else separateOf service tagCall untagCall tagExpr untagExpr) ++ [.expr doneExpr false]) rest := by
    cases service.usesSingleEndpoint with
    | true => exact reads_combined htag hvalues hdone
    | false => exact reads_separate htag huntag hvalues hdone (endsBlock_word (by decide) _)
  unfold bodyTokens bodyOf
  simp only [List.append_assoc, List.cons_append, List.nil_append]
  exact .intro (.cons (reads_convert rfl _) (.inl rfl) (.cons (reads_convert rfl _) (.inl rfl) hbody))

theorem reads_body (h : PlainMembers service) (hnames : NamedOperations service)
    (hvalues : Valued service tagTokens untagTokens tagExpr untagExpr) (rest : List Token) :
    ReadsBlock (bodyTokens service tagTokens untagTokens ++ rest) (bodyStmts service tagExpr untagExpr) rest := by
  rw [bodyStmts_eq]
  exact reads_bodyOf (readsCall_operation h.tagOperation hnames.tag) (readsCall_operation h.untagOperation hnames.untag)
    hvalues rest

/-- **The text of a body reads as its statements.** -/
theorem readFunctionBody_bodyText (h : PlainNames service) (hnames : NamedOperations service)
    (hvalues : Valued service tagTokens untagTokens tagExpr untagExpr) :
    readFunctionBody (bodyText service) = some (bodyStmts service tagExpr untagExpr) := by
  have hbody := reads_body h.members hnames hvalues []
  rw [List.append_nil] at hbody
  exact readFunctionBody_eq (tokens_bodyText h.members hvalues) hbody

end Retag.SourceUnit
