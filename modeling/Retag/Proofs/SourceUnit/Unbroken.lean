/-
Names that end no item, and begin no comment that goes on over lines. If one of such
names is no identifier, what is rendered for them makes no file (`read_unbroken`). So
there is a unit of them exactly if each is admissible (`source_ok_iff`).

The import of the crate mentions the name twice, in its package and behind the `as`. A
comment that is open at its end would hide the semicolon (`import_closed`). What is left
of the name behind its first word is thus read once where a path, another name or the
end of the import may stand, and once where only the end of what is named may: the two
have no first character in common (`alias_refused`). So nothing but blanks and comments
can be left (`import_read`), and then it is the function that is refused: a blank in its
name makes two words of it, and behind a line feed the comment before it leaves words
that are no item (`function_refused`). The parts of the names beside it that are
identifiers are decided, whatever they are followed by.
-/
import Retag.Proofs.Code.ImportTokens
import Retag.Proofs.SourceUnit.Decided

namespace Retag.SourceUnit

open Code
open Text (isIdentifierPart isIdentifierStart)

variable {name y text : String} {names : List String} {x r f b cs tail : List Char} {c : Char} {ts front end_ rest : List Token} {fuel n : Nat}
  {tree : UseTree} {j : Bool}

/-! ## The import of such a name -/

/-- No table has such a name. -/
theorem crateAlias_of_not_identifier (h : ¬IsIdentifier name) : Registry.crateAlias name = name := by
  have hwords : ∀ k ∈ Registry.pathKeywords ++ Registry.keywords, IsIdentifier k := by decide +kernel
  obtain ⟨hpath, -⟩ | ⟨hkeyword, -⟩ | ⟨-, -, halias⟩ := crateAlias_cases name
  · exact absurd (hwords name (List.mem_append_left _ hpath)) h
  · exact absurd (hwords name (List.mem_append_right _ hkeyword)) h
  · exact halias

theorem tagPackage_of_not_identifier (h : ¬IsIdentifier name) : (Service.resolve name).tagPackage = "aws_sdk_" ++ name := by
  have hkeys : ∀ entry ∈ Registry.packageSuffixes, IsIdentifier entry.1 := by decide +kernel
  have hentry : Registry.entry Registry.packageSuffixes name name = name := by
    unfold Registry.entry
    cases hfound : Registry.packageSuffixes.lookup name with
    | none => rfl
    | some suffix =>
      obtain ⟨earlier, later, htable, -⟩ := List.lookup_eq_some_iff.1 hfound
      exact absurd (hkeys (name, suffix) (by simp [htable])) h
  exact congrArg ("aws_sdk_" ++ ·) hentry

/-- The first tokens of the import, and the text that is left. -/
theorem import_beginsWith_word (h : ¬IsIdentifier name) (hname : name.toList = x ++ r)
    (hx : ∀ c ∈ x, isIdentifierPart c = true) (hr : ∀ c ∈ r.head?, isIdentifierPart c = false) :
    BeginsWith ((importText (Service.resolve name)).toList ++ tail)
      [.word "use", .word (String.ofList ("aws_sdk_".toList ++ x))]
      (r ++ ' ' :: ("as".toList ++ ' ' :: (name.toList ++ ';' :: tail))) := by
  have huse : IsIdentifier "use" := by decide
  have hpackage : ∀ later : List Char, BeginsWith ("aws_sdk_".toList ++ (x ++ (r ++ ' ' :: later)))
      [.word (String.ofList ("aws_sdk_".toList ++ x))] (r ++ ' ' :: later) := by
    intro later
    have hparts : ∀ c ∈ "aws_sdk_".toList ++ x, isIdentifierPart c = true := by
      have hstart : "aws_sdk_".toList.all isIdentifierPart = true := by decide
      exact List.forall_mem_append.2 ⟨List.all_eq_true.1 hstart, hx⟩
    have hends : ∀ c ∈ (r ++ ' ' :: later).head?, isIdentifierPart c = false := by
      cases r with
      | nil =>
        intro c hc
        obtain rfl : ' ' = c := Option.some.inj hc
        decide
      | cons d r => exact hr
    have hlist : "aws_sdk_".toList ++ (x ++ (r ++ ' ' :: later)) = 'a' :: ("ws_sdk_".toList ++ (x ++ (r ++ ' ' :: later))) :=
      rfl
    have htoken : readToken ('a' :: ("ws_sdk_".toList ++ (x ++ (r ++ ' ' :: later)))) =
        some (.word (String.ofList ("aws_sdk_".toList ++ x)), r ++ ' ' :: later) := by
      rw [readToken_start (by decide) (by decide) (by decide), ← hlist, ← List.append_assoc, takeWhile_run hparts hends,
        dropWhile_run hparts hends]
    rw [hlist]
    exact (Step.of_readToken (by simp only [List.length_cons, List.length_append]; omega) (isSpace_of_part (by decide))
      (by decide) htoken).beginsWith
  have hlist : (Service.resolve name).tagPackage.toList = "aws_sdk_".toList ++ (x ++ r) := by
    rw [tagPackage_of_not_identifier h, String.toList_append, hname]
  rw [importText_toList, crateAlias_of_not_identifier h, hlist]
  refine .blank isSpace_feed (huse.beginsWith_spaced.trans ?_)
  simp only [List.append_assoc]
  exact hpackage _

/-- The text behind an import: another import on a new line. -/
structure NextImport (tail : List Char) : Prop where
  feed : tail.head? = some '\n'
  reads : ∀ fuel ts, readTokens fuel tail = some ts → ts.head? = some (.word "use")

theorem NextImport.line (h : NextImport tail) : (lineComment tail).2 = tail := by
  cases tail with
  | nil => rfl
  | cons c tail =>
    obtain rfl : c = '\n' := Option.some.inj h.feed
    rfl

/-- An import does not go on with what follows it. -/
theorem NextImport.not_taken (h : NextImport tail) (hread : readTokens fuel tail = some ts)
    (hfront : ∀ t ∈ front, t.isSemicolon = false) : ¬Takes (front ++ ts) (.sign ';' j :: rest) := by
  intro htakes
  have hhead := h.reads _ _ hread
  cases ts with
  | nil => cases hhead
  | cons t ts =>
    obtain rfl := Option.some.inj hhead
    exact (htakes.no_other hfront).2 rfl

/-- A comment that is open at the end of the alias would hide the end of the import. -/
theorem alias_closed (h : Unbroken r) (htail : NextImport tail) (hread : readTokens fuel (r ++ ';' :: tail) = some ts)
    (hfront : ∀ t ∈ front, t.isSemicolon = false) (htakes : Takes (front ++ ts) (.sign ';' j :: rest)) : ¬EndsInComment r := by
  intro hopen
  obtain ⟨mid, back, rfl, hmid, hback⟩ := readTokens_border h (by decide) (by decide) hread
  have hall : ∀ t ∈ front ++ mid, t.isSemicolon = false := List.forall_mem_append.2 ⟨hfront, hmid⟩
  rw [← List.append_assoc] at htakes
  cases hback with
  | across heq ht =>
    subst heq
    simp [(htakes.no_other hall).1] at ht
  | behind hclosed => exact hclosed hopen
  | below _ hlater =>
    rw [htail.line] at hlater
    exact htail.not_taken hlater hall htakes

/-- No comment is open at the end of the name of an import that is read. Behind that of
the package, it would hide the `as`; but then the last line is read once more, behind
the alias. -/
theorem import_closed (h : Unbroken r) (hx : '\n' ∉ x) (htail : NextImport tail) {w : String}
    (hread : readTokens fuel (r ++ ' ' :: ("as".toList ++ ' ' :: (x ++ (r ++ ';' :: tail)))) = some ts)
    (hitem : readUseTree n (.word w :: ts) = some (tree, .sign ';' j :: rest)) : ¬EndsInComment r := by
  intro hopen
  obtain ⟨front, back, rfl, hfront, hback⟩ := readTokens_border h (by decide) (by decide) hread
  have htakes : Takes ((.word w :: front) ++ back) (.sign ';' j :: rest) := readUseTree_takes hitem
  have hall : ∀ t ∈ Token.word w :: front, t.isSemicolon = false := List.forall_mem_cons.2 ⟨rfl, hfront⟩
  cases hback with
  | across heq ht =>
    subst heq
    simp [(htakes.no_other hall).1] at ht
  | behind hclosed => exact hclosed hopen
  | below _ hlater =>
    by_cases hfeed : '\n' ∈ r
    · obtain ⟨line, last, rfl, hline⟩ := List.eq_append_cons_of_mem hfeed
      have hhidden : '\n' ∉ "as".toList ++ ' ' :: (x ++ line) := by simp [hx, hline]
      have hlist : "as".toList ++ ' ' :: (x ++ (line ++ '\n' :: last ++ ';' :: tail)) =
          ("as".toList ++ ' ' :: (x ++ line)) ++ '\n' :: (last ++ ';' :: tail) := by simp
      rw [hlist, lineComment_rest hhidden, readTokens_blank isSpace_feed] at hlater
      exact alias_closed (h.suffix ⟨line ++ ['\n'], by simp⟩) htail hlater hall htakes (endsInComment_feed.1 hopen)
    · have hhidden : '\n' ∉ "as".toList ++ ' ' :: (x ++ (r ++ [';'])) := by simp [hx, hfeed]
      have hlist : "as".toList ++ ' ' :: (x ++ (r ++ ';' :: tail)) = ("as".toList ++ ' ' :: (x ++ (r ++ [';']))) ++ tail := by simp
      rw [hlist, lineComment_append hhidden, htail.line] at hlater
      exact htail.not_taken hlater hall htakes

/-- An import that is read goes on behind the `as` of the template with a name. -/
theorem import_renamed (h : Unbroken r) (hclosed : ¬EndsInComment r) {w : String}
    (hread : readTokens fuel (r ++ ' ' :: ("as".toList ++ ' ' :: cs)) = some ts)
    (hitem : readUseTree n (.word w :: ts) = some (tree, .sign ';' j :: rest)) :
    ∃ y end_ m, (isName y || y == "_") = true ∧ endsTree end_ = true ∧
      readTokens m cs = some (.word y :: (end_ ++ .sign ';' j :: rest)) := by
  have hword : IsIdentifier "as" := by decide
  obtain ⟨front, back, rfl, hfront, hback⟩ := readTokens_border h (by decide) (by decide) hread
  have htakes : Takes ((.word w :: front) ++ back) (.sign ';' j :: rest) := readUseTree_takes hitem
  have hall : ∀ t ∈ Token.word w :: front, t.isSemicolon = false := List.forall_mem_cons.2 ⟨rfl, hfront⟩
  cases hback with
  | across heq ht =>
    subst heq
    simp [(htakes.no_other hall).1] at ht
  | behind _ hback =>
    rw [readTokens_blank isSpace_blank] at hback
    obtain ⟨m, later, hlater, rfl⟩ := hword.beginsWith_spaced _ _ hback
    obtain hnamed | ⟨-, y, end_, rfl, hy, hend⟩ := htakes.names hall rfl
    · cases hnamed
    · exact ⟨y, end_, m, hy, hend, hlater⟩
  | below hopen => exact absurd hopen hclosed

/-- What stands behind the name of the package, if it is more than blanks and comments. -/
theorem import_next (h : Unbroken (f ++ c :: b)) (hf : Skipped f) (hc : isSpace c = false)
    (hfirst : ∀ line, c :: b = '/' :: '/' :: line → Documents line) {w : String}
    (hread : readTokens fuel (f ++ (c :: b ++ ' ' :: cs)) = some ts)
    (hitem : readUseTree n (.word w :: ts) = some (tree, .sign ';' j :: rest)) :
    c = ':' ∨ (c :: b).takeWhile isIdentifierPart = "as".toList := by
  have hb : Unbroken (c :: b) := h.suffix (List.suffix_append ..)
  obtain ⟨_, hread⟩ := hf.readTokens hread
  obtain ⟨t, later, rfl, hsecond⟩ := readUseTree_second hitem
  -- A comment that documents is not among what may stand here.
  have hline : ∀ line, c :: b ≠ '/' :: '/' :: line := by
    intro line heq
    rw [heq] at hread
    obtain ⟨-, _, _, _, hdoc⟩ | ⟨hplain, -⟩ := readTokens_line hread
    · obtain ⟨rfl, -⟩ := List.cons.inj hdoc
      obtain h | h | h := hsecond <;> cases h
    · exact hplain ((documents_append (by decide) (by decide)).2 (hfirst line heq))
  obtain ⟨_, _, _, _, -, htoken, -, heq⟩ := readTokens_first hb (by decide) hc hline hread
  obtain ⟨rfl, rfl⟩ := List.cons.inj heq
  obtain hcolon | rfl | hsemicolon := hsecond
  · exact .inl (readToken_initial htoken hcolon)
  · obtain ⟨-, hraw⟩ | ⟨-, hplain⟩ := readToken_border_word (by decide) htoken
    · exact absurd hraw (by decide)
    · exact .inr hplain.symm
  · exact absurd hsemicolon (by simp [readToken_no_semicolon hb htoken])

/-- What `import_next` leaves cannot stand behind the alias, nor begin it. -/
theorem alias_refused (h : Unbroken (f ++ c :: b)) (hx : ∀ d ∈ x, isIdentifierPart d = true)
    (hends : ∀ d ∈ (f ++ c :: b).head?, isIdentifierPart d = false) (hf : Skipped f) (hc : isSpace c = false)
    (hfirst : c = ':' ∨ (c :: b).takeWhile isIdentifierPart = "as".toList)
    (hy : (isName y || y == "_") = true) (hend : endsTree end_ = true) :
    readTokens fuel (x ++ (f ++ (c :: b ++ ';' :: tail))) ≠ some (.word y :: (end_ ++ .sign ';' j :: rest)) := by
  intro hread
  have hb : Unbroken (c :: b) := h.suffix (List.suffix_append ..)
  have hmark : c ∈ [':', 'a'] := by
    obtain rfl | htake := hfirst
    · decide
    · rw [List.takeWhile_cons] at htake
      split at htake
      next =>
        obtain rfl : c = 'a' := (List.cons.inj htake).1
        decide
      next => cases htake
  have hline : ∀ line, c :: b ≠ '/' :: '/' :: line := by
    rintro line heq
    obtain rfl : c = '/' := (List.cons.inj heq).1
    exact absurd hmark (by decide)
  by_cases hword : x = []
  · rw [hword, List.nil_append] at hread
    obtain ⟨_, hread⟩ := hf.readTokens hread
    obtain ⟨_, t, _, _, -, htoken, -, heq⟩ := readTokens_first hb (by decide) hc hline hread
    obtain ⟨rfl, -⟩ := List.cons.inj heq
    obtain ⟨rfl, -⟩ | ⟨hstart, hplain⟩ := readToken_border_word (by decide) htoken
    · exact absurd hmark (by decide)
    · obtain rfl | htake := hfirst
      · exact absurd hstart (by decide)
      · obtain rfl : y = "as" := String.toList_inj.1 (hplain.trans htake)
        exact absurd hy (by decide)
  · have hrest : ∀ d ∈ (f ++ (c :: b ++ ';' :: tail)).head?, isIdentifierPart d = false ∧ d ≠ '#' := by
      cases f with
      | nil =>
        intro d hd
        obtain rfl : c = d := Option.some.inj hd
        exact ⟨hends c rfl, by rintro rfl; exact absurd hmark (by decide)⟩
      | cons e f => exact hf.head
    obtain ⟨-, -, _, hlater⟩ := readTokens_word hx hword hrest hread
    obtain ⟨_, hlater⟩ := hf.readTokens hlater
    obtain ⟨_, t, _, _, -, htoken, -, heq⟩ := readTokens_first hb (by decide) hc hline hlater
    obtain ⟨d, hd, hmem⟩ := endsTree_initial hend heq
    obtain rfl := readToken_initial htoken hd
    simp only [List.mem_cons, List.not_mem_nil, or_false] at hmark hmem
    obtain rfl | rfl := hmark <;> exact absurd hmem (by decide)

/-- An alias of which only blanks and comments are left behind its first word is read as
this word. -/
theorem alias_read (hx : ∀ d ∈ x, isIdentifierPart d = true) (hf : Skipped f) (hend : endsTree end_ = true)
    (hread : readTokens fuel (x ++ (f ++ ';' :: tail)) = some (.word y :: (end_ ++ .sign ';' j :: rest))) :
    y.toList = x ∧ IsIdentifier y ∧ ∃ m, readTokens m tail = some rest := by
  have hsemicolon : BeginsWith (f ++ ';' :: tail) [.sign ';' (beginsSign tail)] tail := (beginsWith_sign (by decide)).skipped hf
  by_cases hword : x = []
  · rw [hword, List.nil_append] at hread
    obtain ⟨_, _, -, heq⟩ := hsemicolon _ _ hread
    cases heq
  · have hrest : ∀ d ∈ (f ++ ';' :: tail).head?, isIdentifierPart d = false ∧ d ≠ '#' := by
      cases f with
      | nil =>
        intro d hd
        obtain rfl : ';' = d := Option.some.inj hd
        decide
      | cons e f => exact hf.head
    obtain ⟨hy, hidentifier, _, hlater⟩ := readTokens_word hx hword hrest hread
    obtain ⟨m, later, hlast, heq⟩ := hsemicolon _ _ hlater
    refine ⟨hy, hidentifier, m, ?_⟩
    cases end_ with
    | nil => exact (List.cons.inj heq).2 ▸ hlast
    | cons t end_ =>
      obtain ⟨rfl, -⟩ := List.cons.inj heq
      cases hend

/-- An import that is read although the name is no identifier: the name is one before
blanks and comments, and the import ends where the template ends it. -/
theorem import_read (h : ¬IsIdentifier name) (hbroken : Unbroken name.toList) (htail : NextImport tail) {item : Item}
    (hread : readTokens fuel ((importText (Service.resolve name)).toList ++ tail) = some ts)
    (hitem : readItem n ts = some (item, rest)) :
    rest.length < ts.length ∧ ∃ y f, name.toList = y.toList ++ f ∧ IsIdentifier y ∧ Skipped f ∧
      ∃ m, readTokens m tail = some rest := by
  let x := name.toList.takeWhile isIdentifierPart
  let r := name.toList.dropWhile isIdentifierPart
  have hname : name.toList = x ++ r := List.takeWhile_append_dropWhile.symm
  have hx : ∀ c ∈ x, isIdentifierPart c = true := List.all_eq_true.1 List.all_takeWhile
  have hr : ∀ c ∈ r.head?, isIdentifierPart c = false := by
    intro c hc
    have hfirst := List.head?_dropWhile_not isIdentifierPart name.toList
    rwa [show (name.toList.dropWhile isIdentifierPart).head? = some c from hc] at hfirst
  have hfeed : '\n' ∉ x := fun hmem => absurd (hx '\n' hmem) (by decide)
  have hrest : Unbroken r := hbroken.suffix (List.dropWhile_suffix _)
  let package := String.ofList ("aws_sdk_".toList ++ x)
  obtain ⟨_, ts, hlater, rfl⟩ := import_beginsWith_word h hname hx hr _ _ hread
  replace hitem : readItem n (.word "use" :: .word package :: ts) = some (item, rest) := hitem
  obtain ⟨n, tree, j, htree⟩ := readItem_use hitem
  have hshort : rest.length < ([Token.word "use", Token.word package] ++ ts).length := by
    obtain ⟨used, heq, -⟩ := readUseTree_takes htree
    have hlength := congrArg List.length heq
    simp only [List.length_append, List.length_cons, List.length_nil] at hlength ⊢
    omega
  refine ⟨hshort, ?_⟩
  rw [hname, List.append_assoc] at hlater
  have hclosed := import_closed hrest hfeed htail hlater htree
  obtain ⟨y, end_, m, hy, hend, halias⟩ := import_renamed hrest hclosed hlater htree
  obtain hskipped | ⟨f, c, b, hsplit, hf, hc, hfirst⟩ := skipped_or_first hclosed
  · obtain ⟨hword, hidentifier, hnext⟩ := alias_read hx hskipped hend halias
    exact ⟨y, r, by rw [hword, hname], hidentifier, hskipped, hnext⟩
  · rw [hsplit, List.append_assoc] at hlater halias
    rw [hsplit] at hr hrest
    have hmark := import_next hrest hf hc hfirst hlater htree
    exact absurd halias (alias_refused hrest hx hr hf hc hmark hy hend)

/-! ## What follows the import -/

theorem shared_beginsWith : BeginsWith (sharedImportText.toList ++ tail) sharedTokens ('\n' :: tail) := by
  have hlist : sharedImportText.toList ++ tail = '\n' :: '\n' :: ("use".toList ++ ' ' :: ("tagsync_tags".toList ++ ':' :: ':' ::
      '\x7b' :: ("KeyValueTags".toList ++ ',' :: ' ' :: ("UpdateTagsError".toList ++ '\x7d' :: ';' :: '\n' :: tail)))) := by
    simp [sharedImportText]
  have hword : ∀ {w : String} {c : Char} {rest : List Char}, IsIdentifier w → c ∈ breaks →
      BeginsWith (w.toList ++ c :: rest) [.word w] (c :: rest) := fun hw hc => hw.beginsWith (breaksOff_cons hc)
  rw [hlist]
  refine .blank isSpace_feed (.blank isSpace_feed ?_)
  refine IsIdentifier.beginsWith_spaced (by decide) |>.trans ?_
  refine (hword (by decide) (by decide)).trans ?_
  refine (beginsWith_sign (by decide)).trans ((beginsWith_sign (by decide)).trans ?_)
  refine (beginsWith_opening (b := .brace) rfl).trans ?_
  refine (hword (by decide) (by decide)).trans ((beginsWith_sign (by decide)).trans (.blank isSpace_blank ?_))
  exact (hword (by decide) (by decide)).trans ((beginsWith_closing (b := .brace) rfl).trans (beginsWith_sign (by decide)))

theorem shared_nextImport : NextImport (sharedImportText.toList ++ tail) where
  feed := rfl
  reads fuel ts hread := by
    obtain ⟨_, later, -, rfl⟩ := shared_beginsWith _ _ hread
    rfl

/-- A line feed behind the name ends the first line of the comment, and words that are
no item follow. -/
theorem function_refused_feed (hx : '\n' ∉ x) (hname : name.toList = x ++ '\n' :: f) (hf : Skipped f)
    (hread : readTokens fuel (functionText (Service.resolve name) ++ text).toList = some ts) : Refused ts := by
  obtain ⟨later, hlist⟩ : ∃ later, (functionText (Service.resolve name) ++ text).toList =
      '\n' :: '/' :: '/' :: '/' :: (" Updates ".toList ++ x ++ '\n' :: (f ++ (' ' :: ("service".toList ++ ' ' ::
        ("tags".toList ++ '.' :: later))))) := by
    have hself : (Service.resolve name).name = name := rfl
    rw [functionText_eq, functionDocs, List.map_cons, String.join_cons, String.append_assoc, hself]
    generalize String.join (List.map docLine _) ++ _ = more
    exact ⟨'\n' :: more.toList, by simp [docLine, hname]⟩
  have hline : '\n' ∉ " Updates ".toList ++ x := by
    rw [List.mem_append, not_or]
    exact ⟨by decide, hx⟩
  have hhead : (" Updates ".toList ++ x ++ '\n' :: (f ++ (' ' :: ("service".toList ++ ' ' ::
      ("tags".toList ++ '.' :: later))))).head? ≠ some '/' := show some ' ' ≠ some '/' by decide
  have hdoc := beginsWith_doc hhead
  rw [lineComment_rest hline] at hdoc
  have hservice : IsIdentifier "service" := by decide
  have htags : BeginsWith ("tags".toList ++ '.' :: later) [.word "tags"] ('.' :: later) :=
    IsIdentifier.beginsWith (by decide) (breaksOff_cons (by decide))
  have hwords := hservice.beginsWith_spaced.trans htags
  have hall := hdoc.trans (.blank isSpace_feed (.skipped hf (.blank isSpace_blank hwords)))
  rw [hlist] at hread
  obtain ⟨_, rest, -, rfl⟩ := hall.blank isSpace_feed _ _ hread
  refine .first rfl fun fuel hfuel => ?_
  let doc := String.ofList (lineComment (" Updates ".toList ++ x ++ '\n' :: (f ++ (' ' :: ("service".toList ++ ' ' ::
    ("tags".toList ++ '.' :: later)))))).1
  show readItem fuel ([doc].map (.doc false) ++ .word "service" :: .word "tags" :: rest) = none
  exact readItem_words rfl (by simp only [List.length_cons, List.length_nil] at hfuel ⊢; omega)

/-- Otherwise the first word of the name is that of the function, and a word follows. -/
theorem function_refused_line {y : String} (hy : IsIdentifier y) (hname : name.toList = y.toList ++ f)
    (hf : Skipped f) (hne : f ≠ []) (hfeed : '\n' ∉ name.toList)
    (hread : readTokens fuel (functionText (Service.resolve name) ++ text).toList = some ts) : Refused ts := by
  have hself : (Service.resolve name).name = name := rfl
  have hlines : ∀ line ∈ functionDocs (Service.resolve name), '\n' ∉ line.toList ∧ line.toList.head? ≠ some '/' := by
    have hfirst : '\n' ∉ (" Updates " ++ name ++ " service tags.").toList := by
      rw [String.toList_append, String.toList_append, List.mem_append, List.mem_append, not_or, not_or]
      exact ⟨⟨by decide, hfeed⟩, by decide⟩
    have hhead : (" Updates " ++ name ++ " service tags.").toList.head? ≠ some '/' := by
      rw [String.toList_append, String.toList_append]
      exact show some ' ' ≠ some '/' by decide
    simp only [functionDocs, hself, List.forall_mem_cons]
    exact ⟨⟨hfirst, hhead⟩, by decide, by decide, by decide, by simp⟩
  obtain ⟨tail, hlist⟩ : ∃ tail, (functionText (Service.resolve name) ++ text).toList =
      '\n' :: ((String.join ((functionDocs (Service.resolve name)).map docLine)).toList ++ ("pub".toList ++ ' ' ::
        ("async".toList ++ ' ' :: ("fn".toList ++ ' ' :: (y.toList ++ (f ++ ("_update_tags".toList ++ '(' :: tail))))))) := by
    rw [functionText_eq, hself]
    generalize (Service.resolve name).clientType ++ _ = more
    exact ⟨"\n    conn: &".toList ++ more.toList, by simp [hname]⟩
  obtain ⟨docs, hlength, hdocs⟩ := beginsWith_docs hlines
  have hpub : IsIdentifier "pub" := by decide
  have hasync : IsIdentifier "async" := by decide
  have hfn : IsIdentifier "fn" := by decide
  rw [hlist, readTokens_blank isSpace_feed] at hread
  obtain ⟨_, later, hlater, rfl⟩ :=
    (hdocs.trans (hpub.beginsWith_spaced.trans (hasync.beginsWith_spaced.trans hfn.beginsWith_spaced))) _ _ hread
  -- Whatever word the name of the function is, the end of the template's name comes next.
  have hwords : ∀ x rest, later = .word x :: rest → ∃ w, rest.head? = some (.word w) := by
    rintro x rest rfl
    have hrest : ∀ c ∈ (f ++ ("_update_tags".toList ++ '(' :: tail)).head?, isIdentifierPart c = false ∧ c ≠ '#' := by
      rw [List.head?_append_of_ne_nil f hne]
      exact hf.head
    have hnonempty : y.toList ≠ [] := by
      obtain ⟨c, cs, hcs, -⟩ := hy.start
      simp [hcs]
    obtain ⟨-, -, _, hend⟩ := readTokens_word hy.parts hnonempty hrest hlater
    have hsuffix : IsIdentifier "_update_tags" := by decide
    obtain ⟨_, _, -, rfl⟩ := (hsuffix.beginsWith (breaksOff_cons (by decide))).skipped hf _ _ hend
    exact ⟨"_update_tags", rfl⟩
  rw [List.append_assoc]
  obtain ⟨doc, docs, rfl⟩ := List.exists_cons_of_length_eq_add_one hlength
  refine .first rfl fun fuel hfuel => ?_
  obtain ⟨fuel, rfl⟩ : ∃ n, fuel = n + 2 := ⟨fuel - 2, by simp only [List.length_cons] at hfuel; omega⟩
  show readItem (fuel + 2) ((doc :: docs).map (.doc false) ++ .word "pub" :: .word "async" :: .word "fn" :: later) = none
  refine readItem_no_function ?_ (readFunction_words hwords)
  have hfour : (doc :: docs).length = 4 := hlength
  simp only [List.length_cons] at hfuel
  omega

/-- **No name with blanks or comments behind an identifier has a function.** -/
theorem function_refused {y : String} (hy : IsIdentifier y) (hname : name.toList = y.toList ++ f)
    (hf : Skipped f) (hne : f ≠ [])
    (hread : readTokens fuel (functionText (Service.resolve name) ++ text).toList = some ts) : Refused ts := by
  have hword : '\n' ∉ y.toList := fun hmem => absurd (hy.parts _ hmem) (by decide)
  by_cases hfeed : '\n' ∈ f
  · obtain ⟨before, later, rfl, hbefore⟩ := List.eq_append_cons_of_mem hfeed
    have hx : '\n' ∉ y.toList ++ before := by
      rw [List.mem_append, not_or]
      exact ⟨hword, hbefore⟩
    exact function_refused_feed hx (by rw [hname, List.append_assoc]) (hf.behind hbefore) hread
  · have hnone : '\n' ∉ name.toList := by
      rw [hname, List.mem_append, not_or]
      exact ⟨hword, hfeed⟩
    exact function_refused_line hy hname hf hne hnone hread

/-! ## Lists of names -/

/-- An identifier, with nothing but blanks and comments behind it. -/
def Padded (name : String) : Prop :=
  ∃ (y : String) (f : List Char), name.toList = y.toList ++ f ∧ IsIdentifier y ∧ Skipped f

theorem import_nextImport : NextImport ((importText (Service.resolve name)).toList ++ tail) where
  feed := by
    rw [importText_toList]
    rfl
  reads fuel ts hread := by
    have huse : IsIdentifier "use" := by decide
    rw [importText_toList] at hread
    obtain ⟨_, later, -, rfl⟩ := huse.beginsWith_spaced.blank isSpace_feed _ _ hread
    rfl

theorem imports_nextImport (names : List String) (htail : NextImport tail) :
    NextImport ((String.join (names.map fun name => importText (Service.resolve name))).toList ++ tail) := by
  cases names with
  | nil => simpa using htail
  | cons name names =>
    rw [List.map_cons, String.join_cons, String.toList_append, List.append_assoc]
    exact import_nextImport

/-- Imports with text behind them that cannot be read if each of the names is padded. -/
theorem imports_beforeRefused (hunbroken : ∀ name ∈ names, Unbroken name.toList) (htail : NextImport tail)
    (hlater : (∀ name ∈ names, Padded name) → ∀ fuel ts, readTokens fuel tail = some ts → Refused ts)
    (hread : readTokens fuel ((String.join (names.map fun name => importText (Service.resolve name))).toList ++ tail) = some ts) :
    Refused ts := by
  induction names generalizing fuel ts with
  | nil => exact hlater (by simp) fuel ts (by simpa using hread)
  | cons name names ih =>
    obtain ⟨hname, hnames⟩ := List.forall_mem_cons.1 hunbroken
    rw [List.map_cons, String.join_cons, String.toList_append, List.append_assoc] at hread
    have hnext := imports_nextImport names htail
    have hothers : Padded name → ∀ fuel ts,
        readTokens fuel ((String.join (names.map fun name => importText (Service.resolve name))).toList ++ tail) = some ts →
        Refused ts :=
      fun hpadded _ _ => ih hnames fun h => hlater (List.forall_mem_cons.2 ⟨hpadded, h⟩)
    by_cases hidentifier : IsIdentifier name
    · obtain ⟨cs, hcs⟩ := List.head?_eq_some_iff.1 hnext.feed
      rw [hcs] at hread hothers
      exact (resolve_import_decided hidentifier).beforeRefused (hothers ⟨name, [], by simp, hidentifier, .nil⟩) hread
    · obtain ⟨later, rfl⟩ := List.head?_eq_some_iff.1 (import_nextImport.reads _ _ hread)
      refine .behind rfl fun fuel _ item back hitem => ?_
      obtain ⟨hlt, y, f, hsplit, hy, hf, _, hback⟩ := import_read hidentifier hname hnext hread hitem
      exact ⟨Nat.le_of_lt_succ hlt, hothers ⟨y, f, hsplit, hy, hf⟩ _ _ hback⟩

theorem functions_feed (names : List String) :
    ∃ cs, (String.join (names.map fun name => functionText (Service.resolve name)) ++ "\n").toList = '\n' :: cs := by
  cases names with
  | nil => exact ⟨[], by simp⟩
  | cons name names =>
    rw [List.map_cons, String.join_cons, String.append_assoc, functionText_eq, String.toList_append]
    exact ⟨_, rfl⟩

/-- Functions of padded names, with one among them that is not the identifier itself. -/
theorem functions_padded_refused (hpadded : ∀ name ∈ names, Padded name) (h : ∃ name ∈ names, ¬IsIdentifier name)
    (hread : readTokens fuel
      (String.join (names.map fun name => functionText (Service.resolve name)) ++ "\n").toList = some ts) : Refused ts := by
  induction names generalizing fuel ts with
  | nil => simp at h
  | cons name names ih =>
    obtain ⟨⟨y, f, hsplit, hy, hf⟩, hnames⟩ := List.forall_mem_cons.1 hpadded
    rw [List.map_cons, String.join_cons, String.append_assoc] at hread
    by_cases hidentifier : IsIdentifier name
    · have hothers : ∃ name ∈ names, ¬IsIdentifier name := by simpa [hidentifier] using h
      obtain ⟨cs, hcs⟩ := functions_feed names
      rw [String.toList_append, hcs] at hread
      exact (resolve_function_decided hidentifier).beforeRefused (fun _ _ hback => ih hnames hothers (hcs ▸ hback)) hread
    · have hne : f ≠ [] := by
        rintro rfl
        rw [List.append_nil] at hsplit
        exact hidentifier (String.toList_inj.1 hsplit ▸ hy)
      exact function_refused hy hsplit hf hne hread

/-- **Of such names, only identifiers make a file.** -/
theorem read_unbroken (hunbroken : ∀ name ∈ names, Unbroken name.toList) (h : ∃ name ∈ names, ¬IsIdentifier name) :
    File.read (renderedText names) = none := by
  have hlist : (renderedText names).toList =
      (String.join (names.map fun name => importText (Service.resolve name))).toList ++ (sharedImportText.toList ++
        (String.join (names.map fun name => functionText (Service.resolve name)) ++ "\n").toList) := by
    rw [renderedText, String.toList_append, String.toList_append]
  obtain ⟨cs, hcs⟩ := List.head?_eq_some_iff.1 (imports_nextImport names shared_nextImport).feed
  refine File.read_refused (hlist.trans hcs) fun ts htokens => ?_
  rw [hlist] at htokens
  refine imports_beforeRefused hunbroken shared_nextImport (fun hpadded fuel ts hread => ?_) htokens
  obtain ⟨cs, hcs⟩ := functions_feed names
  rw [hcs] at hread
  exact shared_decided.beforeRefused (fun _ _ hback => functions_padded_refused hpadded h (hcs ▸ hback)) hread

/-- **There is a unit exactly of admissible names**, among those that end no item and
begin no comment over lines. -/
theorem source_ok_iff (hunbroken : ∀ name ∈ names, Unbroken name.toList) :
    (∃ unit, source updateTags names = .ok unit) ↔ ∀ name ∈ names, Admissible name := by
  refine ⟨fun ⟨unit, hunit⟩ => ?_, fun h => ⟨_, source_admissible h⟩⟩
  rw [source_of_render (render_services names)] at hunit
  have hread := format_ok hunit
  by_contra hnot
  have hdistinct : ∃ name ∈ distinctNames names, ¬Admissible name := by simpa [mem_distinctNames] using hnot
  by_cases hidentifiers : ∀ name ∈ distinctNames names, IsIdentifier name
  · exact hread (read_inadmissible hidentifiers hdistinct)
  · have hother : ∃ name ∈ distinctNames names, ¬IsIdentifier name := by simpa using hidentifiers
    exact hread (read_unbroken (fun name hname => hunbroken name (mem_distinctNames.1 hname)) hother)

end Retag.SourceUnit
