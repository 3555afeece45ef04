/-
Functions and files that are laid out are read back. What is told about a function
stands on lines behind strokes, which are not broken; these are the only strokes in the
text of a function.
-/
import Retag.Proofs.Code.Comments
import Retag.Proofs.Code.Items
import Retag.Proofs.Code.PrintedBlocks

namespace Retag.Code

open Doc

variable {x : String} {t : Ty} {args : List Ty} {p : List Segment} {b : Binding} {bs : List Binding} {ss : List Stmt}
  {ts rest : List Token} {ds : List Doc} {frame : Frame} {margin : Int} {after : Nat} {pen : Pen}

/-! ## Types -/

/-- Whether nothing goes on with a type. -/
def endsTy : List Token → Bool
  | [] => false
  | .sign c _ :: _ => c != ':' && c != '<' && c != '+'
  | _ => true

theorem sign_of_endsTy (h : endsTy ts = true) : sign "::" ts = none ∧ sign "<" ts = none ∧ sign "+" ts = none := by
  cases ts with
  | nil => cases h
  | cons t ts =>
    cases t with
    | sign c j =>
      simp only [endsTy, Bool.and_eq_true, bne_iff_ne] at h
      exact ⟨skipSign_of_ne (Ne.symm h.1.1), skipSign_of_ne (Ne.symm h.1.2), skipSign_of_ne (Ne.symm h.2)⟩
    | word | lifetime | literal | opening | closing | doc => exact ⟨rfl, rfl, rfl⟩

/-- Whether a type begins with a word, a bracket or the sign of a reference. -/
def opensTy : List Token → Bool
  | .word _ :: _ | .opening _ :: _ => true
  | .sign c _ :: _ => c == '&'
  | _ => false

theorem sign_of_opensTy (h : opensTy ts = true) :
    (∀ s tail, ts ≠ .lifetime s :: tail) ∧ sign ">" ts = none ∧ sign "=" ts = none := by
  unfold opensTy at h
  split at h
  next => exact ⟨by simp, rfl, rfl⟩
  next => exact ⟨by simp, rfl, rfl⟩
  next =>
    obtain rfl := beq_iff_eq.1 h
    exact ⟨by simp, rfl, rfl⟩
  next => cases h

def PrintsTypePath (p : List Segment) : Prop := PrintsAs (separated "::" (segmentsDocs false p)) .word .free
  fun ts rest => endsTy rest = true → ReadsTypePath ts p rest

def PrintsTy (t : Ty) : Prop := PrintsAs t.docs .word .free fun ts rest =>
  endsTy rest = true → ReadsTy ts t rest ∧ opensTy ts = true

theorem PrintsTypePath.name (hx : SpellsWord x) (hpath : inPath x = true) : PrintsTypePath [.mk x []] := by
  have hdocs : separated "::" (segmentsDocs false [.mk x []]) = [.text x] := by
    simp [segmentsDocs, Segment.docs, appliedDocs, separated]
  unfold PrintsTypePath
  rw [hdocs]
  refine (prints_word hx).mono rfl rfl ?_
  rintro ts rest rfl hend
  obtain ⟨hcolons, hless, -⟩ := sign_of_endsTy hend
  exact .name hpath hcolons hless

theorem PrintsTypePath.cons {s : Segment} (hx : SpellsWord x) (hpath : inPath x = true) (h : PrintsTypePath (s :: p)) :
    PrintsTypePath (.mk x [] :: s :: p) := by
  have hdocs : separated "::" (segmentsDocs false (.mk x [] :: s :: p)) =
      .text x :: .text "::" :: separated "::" (segmentsDocs false (s :: p)) := by
    simp [segmentsDocs, Segment.docs, appliedDocs, separated]
  have hcolons : PrintsAs [.text "::"] .free .number fun ts rest => ∃ j, ts = .sign ':' true :: .sign ':' j :: rest :=
    .text (spells_signs rfl (by decide) (by decide))
  unfold PrintsTypePath
  rw [hdocs]
  refine ((prints_word hx).cons (hcolons.cons h rfl) rfl).mono rfl rfl ?_
  rintro ts rest ⟨_, rfl, _, ⟨j, rfl⟩, hread⟩ hend
  exact .cons hpath (hread hend)

theorem opensTy_path (h : ReadsTypePath ts p rest) : opensTy ts = true := by
  obtain ⟨x, tail, rfl, -⟩ := h.begins
  rfl

theorem PrintsTypePath.ty (h : PrintsTypePath p) : PrintsTy (.path p false) := by
  have hdocs : (Ty.path p false).docs = separated "::" (segmentsDocs false p) := by
    rw [Ty.docs]
    rfl
  unfold PrintsTy
  rw [hdocs]
  exact h.mono rfl rfl fun ts rest hread hend => ⟨.path (hread hend), opensTy_path (hread hend)⟩

theorem prints_ampersand (t : Ty) (h : PrintsAs t.docs .word .free fun ts rest => endsTy rest = true →
    ∃ x tail, ts = .word x :: tail ∧ x ≠ "mut" ∧ ReadsTy ts t rest) : PrintsTy (.reference none false t) := by
  have hdocs : (Ty.reference none false t).docs = .text "&" :: t.docs := by
    rw [Ty.docs]
    simp
  have hamp : PrintsAs [.text "&"] .free .number fun ts rest => ∃ j, ts = .sign '&' j :: rest := prints_sign rfl (by decide)
  unfold PrintsTy
  rw [hdocs]
  refine (hamp.cons h rfl).mono rfl rfl ?_
  rintro ts rest ⟨_, ⟨j, rfl⟩, hread⟩ hend
  obtain ⟨x, tail, rfl, hx, hread⟩ := hread hend
  exact ⟨.reference hx hread, rfl⟩

theorem PrintsTypePath.reference (h : PrintsTypePath p) : PrintsTy (.reference none false (.path p false)) := by
  have hdocs : (Ty.path p false).docs = separated "::" (segmentsDocs false p) := by
    rw [Ty.docs]
    rfl
  refine prints_ampersand _ ?_
  rw [hdocs]
  refine h.mono rfl rfl fun ts rest hread hend => ?_
  have hpath := hread hend
  obtain ⟨x, tail, rfl, hx⟩ := hpath.begins
  have hmut : x ≠ "mut" := by
    rintro rfl
    cases hx
  exact ⟨x, tail, rfl, hmut, .path hpath⟩

theorem PrintsTy.inferredReference : PrintsTy (.reference none false .inferred) := by
  have hblank : SpellsWord "_" := (by decide : IsIdentifier "_").spells
  refine prints_ampersand _ ?_
  rw [Ty.docs]
  refine (prints_word hblank).mono rfl rfl ?_
  rintro ts rest rfl -
  exact ⟨_, _, rfl, by decide, .inferred rest⟩

/-- Some type with one bound. -/
theorem PrintsTypePath.bounded (h : PrintsTypePath p) : PrintsTy (.bounded "impl" [.path p false]) := by
  have hdocs : (Ty.bounded "impl" [.path p false]).docs = .text "impl " :: separated "::" (segmentsDocs false p) := by
    rw [Ty.docs]
    simp [tysDocs, Ty.docs, separated]
  have himpl : PrintsAs [.text "impl "] .free .free fun ts rest => ts = .word "impl" :: rest :=
    prints_keyword (by decide) (by simp)
  unfold PrintsTy
  rw [hdocs]
  refine (himpl.cons h rfl).mono rfl rfl ?_
  rintro ts rest ⟨_, rfl, hread⟩ hend
  exact ⟨.bounded (hread hend) (sign_of_endsTy hend).2.2, rfl⟩

theorem PrintsTy.unit : PrintsTy (.tuple []) := by
  have hdocs : (Ty.tuple []).docs = [.text "(", .text ")"] := by simp [Ty.docs, tysDocs, Doc.tuple, Doc.enclosed]
  unfold PrintsTy
  rw [hdocs]
  refine (prints_open.cons prints_close rfl).mono rfl rfl ?_
  rintro ts rest ⟨_, rfl, rfl⟩ -
  exact ⟨.unit rest, rfl⟩

/-- Types with commas between them, and maybe one at the end of a line. -/
theorem prints_types (h : ∀ t ∈ args, PrintsTy t) (hne : args ≠ []) :
    PrintsAs (commaList (tysDocs args)) .number .free fun ts rest =>
      ∀ j later, rest = .sign '>' j :: later → ReadsTypes ts args later ∧ opensTy ts = true := by
  induction args with
  | nil => contradiction
  | cons t args ih =>
    obtain ⟨ht, hargs⟩ := List.forall_mem_cons.1 h
    cases args with
    | nil =>
      simp only [tysDocs, commaList]
      refine (PrintsAs.append ht (.comma _) rfl).mono rfl rfl ?_
      rintro ts rest ⟨_, hread, rfl | rfl⟩ j later rfl
      · obtain ⟨hread, hopens⟩ := hread rfl
        obtain ⟨hbegins, hangle, -⟩ := sign_of_opensTy hopens
        exact ⟨.one hbegins hangle hread, hopens⟩
      · obtain ⟨hread, hopens⟩ := hread rfl
        obtain ⟨hbegins, hangle, -⟩ := sign_of_opensTy hopens
        exact ⟨.cons hbegins hangle hread (.nil later), hopens⟩
    | cons u args =>
      have hcomma : PrintsAs [.text ","] .free .number fun ts rest => ∃ j, ts = .sign ',' j :: rest :=
        prints_sign rfl (by decide)
      have hothers := ih hargs (by simp)
      simp only [tysDocs, commaList, List.append_assoc, List.cons_append, List.nil_append] at hothers ⊢
      refine (PrintsAs.append ht (hcomma.cons (prints_space.cons hothers rfl) rfl) rfl).mono rfl rfl ?_
      rintro ts rest ⟨_, hread, _, ⟨j, rfl⟩, _, rfl, hlater⟩ j' later rfl
      obtain ⟨hread, hopens⟩ := hread rfl
      obtain ⟨hbegins, hangle, -⟩ := sign_of_opensTy hopens
      exact ⟨.cons hbegins hangle hread (hlater j' later rfl).1, hopens⟩

theorem lifetimeDocs_eq (h : ∀ t ∈ args, ∀ s, t ≠ .lifetime s) : lifetimeDocs args = [] := by
  induction args with
  | nil => simp [lifetimeDocs]
  | cons t args ih =>
    obtain ⟨ht, hargs⟩ := List.forall_mem_cons.1 h
    cases t with
    | lifetime s => exact absurd rfl (ht s)
    | _ => simp [lifetimeDocs, ih hargs]

theorem otherDocs_eq (h : ∀ t ∈ args, ∀ s, t ≠ .lifetime s) : otherDocs args = tysDocs args := by
  induction args with
  | nil => simp [otherDocs, tysDocs]
  | cons t args ih =>
    obtain ⟨ht, hargs⟩ := List.forall_mem_cons.1 h
    cases t with
    | lifetime s => exact absurd rfl (ht s)
    | _ => simp [otherDocs, tysDocs, ih hargs]

/-- A name that is applied to types. -/
theorem PrintsTypePath.applied (hx : IsLabel x) (h : ∀ t ∈ args, PrintsTy t) (hne : args ≠ [])
    (hlifetimes : ∀ t ∈ args, ∀ s, t ≠ .lifetime s) : PrintsTypePath [.mk x args] := by
  have hdocs : separated "::" (segmentsDocs false [.mk x args]) =
      [.text x, .text "<", block (.gap .empty :: commaList (tysDocs args)), .text ">"] := by
    obtain ⟨t, args, rfl⟩ := List.exists_cons_of_ne_nil hne
    simp [segmentsDocs, Segment.docs, appliedDocs, separated, lifetimeDocs_eq hlifetimes, otherDocs_eq hlifetimes, tysDocs,
      Doc.enclosed]
  have hless : PrintsAs [.text "<"] .free .number fun ts rest => ∃ j, ts = .sign '<' j :: rest := prints_sign rfl (by decide)
  have hmore : PrintsAs [.text ">"] .free .number fun ts rest => ∃ j, ts = .sign '>' j :: rest := prints_sign rfl (by decide)
  unfold PrintsTypePath
  rw [hdocs]
  refine ((prints_word hx.spells).cons (hless.cons ((((PrintsAs.gap .free isBare_empty).cons (prints_types h hne) rfl).group).cons
    hmore rfl) rfl) rfl).mono rfl rfl ?_
  rintro ts rest ⟨_, rfl, _, ⟨j, rfl⟩, _, ⟨_, rfl, hread⟩, j', rfl⟩ hend
  obtain ⟨hread, hopens⟩ := hread j' rest rfl
  exact .applied hx.name hread (sign_of_endsTy hend).1 (sign_of_opensTy hopens).2.2

/-! ## Functions -/

/-- A parameter with its type. -/
def PrintsParameter (b : Binding) : Prop := PrintsAs b.docs .word .free fun ts rest => endsTy rest = true →
  ReadsParameter ts b rest ∧ ∃ x tail, ts = .word x :: tail ∧ isName x = true

theorem PrintsParameter.typed (hx : IsLabel x) (h : PrintsTy t) : PrintsParameter ⟨.name false false x, some t⟩ := by
  have hdocs : Binding.docs ⟨.name false false x, some t⟩ = .text x :: .text ": " :: t.docs := by
    simp [Binding.docs, Pattern.docs]
  unfold PrintsParameter
  rw [hdocs]
  refine ((prints_word hx.spells).cons (prints_colon.cons h rfl) rfl).mono rfl rfl ?_
  rintro ts rest ⟨_, rfl, _, rfl, hread⟩ hend
  exact ⟨.typed hx.name (hread hend).1, _, _, rfl, hx.name⟩

theorem readReceiver_name (hx : isName x = true) : readReceiver (.word x :: ts) = (none, .word x :: ts) := by
  have hself : x ≠ "self" := by rintro rfl; cases hx
  have hmut : x ≠ "mut" := by rintro rfl; cases hx
  have hamp : sign "&" (.word x :: ts) = none := rfl
  unfold readReceiver
  simp [hamp, optionalWord, word, hmut, hself]

/-- Parameters with commas between them, and maybe one at the end of a line. -/
theorem prints_parameters (h : ∀ b ∈ bs, PrintsParameter b) (hne : bs ≠ []) :
    PrintsAs (commaList (bs.map Binding.docs)) .number .free fun ts rest =>
      ∀ later, rest = .closing .parenthesis :: later → ReadsSignature ts bs later ∧ readReceiver ts = (none, ts) := by
  induction bs with
  | nil => contradiction
  | cons b bs ih =>
    obtain ⟨hb, hbs⟩ := List.forall_mem_cons.1 h
    cases bs with
    | nil =>
      simp only [List.map_cons, List.map_nil, commaList]
      refine (PrintsAs.append hb (.comma _) rfl).mono rfl rfl ?_
      rintro ts rest ⟨_, hread, rfl | rfl⟩ later rfl
      · obtain ⟨hread, x, tail, rfl, hx⟩ := hread rfl
        exact ⟨.one hread, readReceiver_name hx⟩
      · obtain ⟨hread, x, tail, rfl, hx⟩ := hread rfl
        exact ⟨.cons hread (.nil later), readReceiver_name hx⟩
    | cons c bs =>
      have hcomma : PrintsAs [.text ","] .free .number fun ts rest => ∃ j, ts = .sign ',' j :: rest :=
        prints_sign rfl (by decide)
      have hothers := ih hbs (by simp)
      simp only [List.map_cons, commaList, List.append_assoc, List.cons_append, List.nil_append] at hothers ⊢
      refine (PrintsAs.append hb (hcomma.cons (prints_space.cons hothers rfl) rfl) rfl).mono rfl rfl ?_
      rintro ts rest ⟨_, hread, _, ⟨j, rfl⟩, _, rfl, hlater⟩ later rfl
      obtain ⟨hread, x, tail, rfl, hx⟩ := hread rfl
      exact ⟨.cons hread (hlater later rfl).1, readReceiver_name hx⟩

/-- What is read of a function for everybody that is waited for. -/
structure ReadsHead (ts : List Token) (x : String) (bs : List Binding) (t : Ty) (ss : List Stmt) (rest : List Token) :
    Prop where
  reads : ∃ tp tr mid, ts = .word "pub" :: .word "async" :: .word "fn" :: .word x :: .opening .parenthesis :: tp ∧
    readReceiver tp = (none, tp) ∧ ReadsSignature tp bs (.sign '-' true :: .sign '>' false :: tr) ∧ ReadsTy tr t mid ∧
    ReadsBlock mid ss rest

theorem spells_arrow : Spells " -> " .free .number fun ts rest => ts = .sign '-' true :: .sign '>' false :: rest :=
  ⟨fun _ _ h _ => ⟨_, rfl, ((Step.sign (c := '-') (by decide)).lexes ((Step.sign (c := '>') (by decide)).lexes h.space)).space⟩,
    ⟨' ', _, rfl, rfl⟩, by decide⟩

/-- A function with parameters and a body, without what is told about it and without the
end of its last line. -/
def functionBody (x : String) (bs : List Binding) (t : Ty) (ss : List Stmt) : List Doc :=
  Doc.braced (.text "pub " :: Signature.docs ⟨["async"], x, [], none, bs, some t⟩ ++ [.text " "]) (stmtsDocs ss)

theorem prints_function {s : Stmt} (hx : IsLabel x) (hbs : ∀ b ∈ bs, PrintsParameter b) (hne : bs ≠ []) (ht : PrintsTy t)
    (hs : PrintsStmt s) (hss : PrintsStmts ss) :
    PrintsAs (functionBody x bs t (s :: ss)) .free .free fun ts rest => ReadsHead ts x bs t (s :: ss) rest := by
  obtain ⟨d, lines, hlines⟩ := @stmtsDocs_ne_nil s ss hs
  obtain ⟨b, bs', rfl⟩ := List.exists_cons_of_ne_nil hne
  have hdocs : functionBody x (b :: bs') t (s :: ss) = [block (.text "pub " :: .text "async " :: .text "fn " :: .text x ::
      .text "(" :: .gap .none :: .group true 0 (.gap .empty :: commaList ((b :: bs').map Binding.docs)) :: .text ")" ::
      .group true (-indent) (.text " -> " :: t.docs) :: .text " " :: .text "\x7b" :: newline ::
      shiftLast (-indent) (stmtsDocs (s :: ss))), .text "\x7d"] := by
    unfold functionBody
    rw [hlines]
    simp [Doc.braced, Signature.docs, genericsDocs]
  have hpub : PrintsAs [.text "pub "] .free .free fun ts rest => ts = .word "pub" :: rest :=
    prints_keyword (by decide) (by simp)
  have hasync : PrintsAs [.text "async "] .free .free fun ts rest => ts = .word "async" :: rest :=
    prints_keyword (by decide) (by simp)
  have hfn : PrintsAs [.text "fn "] .free .free fun ts rest => ts = .word "fn" :: rest := prints_keyword (by decide) (by simp)
  have hblank : PrintsAs [.text " "] .free .number (· = ·) := .text spells_blank
  have hresult : PrintsAs [.group true (-indent) (.text " -> " :: t.docs)] .word .number fun ts rest => endsTy rest = true →
      ∃ later, ts = .sign '-' true :: .sign '>' false :: later ∧ ReadsTy later t rest := by
    refine ((PrintsAs.text spells_arrow).cons ht rfl).group.mono rfl rfl ?_
    rintro ts rest ⟨later, rfl, hread⟩ hend
    exact ⟨later, rfl, (hread hend).1⟩
  rw [hdocs]
  refine (((hpub.cons (hasync.cons (hfn.cons ((prints_word hx.spells).cons (prints_open.cons
    ((PrintsAs.gap .free isBare_none).cons ((((PrintsAs.gap .free isBare_empty).cons (prints_parameters hbs hne) rfl).group).cons
    (prints_close.cons (hresult.cons (hblank.cons (prints_openBrace.cons ((prints_newline 0).cons
    (PrintsStmts.cons hs hss (-indent)) rfl) rfl) rfl) rfl) rfl) rfl) rfl) rfl) rfl) rfl) rfl) rfl).group).cons
    prints_closeBrace rfl).mono rfl rfl ?_
  rintro ts rest ⟨_, ⟨_, rfl, _, rfl, _, rfl, _, rfl, _, rfl, _, rfl, _, ⟨_, rfl, hparameters⟩, _, rfl, _, htype, _, rfl, _,
    rfl, _, rfl, hbody⟩, rfl⟩
  obtain ⟨tr, rfl, hread⟩ := htype rfl
  obtain ⟨hsignature, hreceiver⟩ := hparameters _ rfl
  exact ⟨_, _, _, rfl, hreceiver, hsignature, hread, .intro (hbody rest rfl).2⟩

/-! ## Strokes

The only strokes are those before what is told about a function, three in a row. -/

/-- How a comment begins that documents nothing and whose first word begins with the
given letter. -/
def commentMark : List Char := ['/', '/', ' ', 'C']

/-- No such comment begins anywhere. -/
def Unmarked (cs : List Char) : Prop := ¬commentMark <:+: cs

instance (cs : List Char) : Decidable (Unmarked cs) := inferInstanceAs (Decidable (¬_))

variable {cs a : List Char}

theorem unmarked_of_noStroke (h : '/' ∉ cs) : Unmarked cs := fun hmark => h (hmark.subset List.mem_cons_self)

theorem prefix_before_feed {mark : List Char} (h : mark <+: a ++ '\n' :: cs) (hfeed : '\n' ∉ mark) : mark <+: a := by
  induction a generalizing mark with
  | nil =>
    cases mark with
    | nil => exact List.nil_prefix
    | cons c mark => exact absurd (List.cons_prefix_cons.1 h).1 fun heq => hfeed (heq ▸ List.mem_cons_self)
  | cons c a ih =>
    cases mark with
    | nil => exact List.nil_prefix
    | cons d mark =>
      obtain ⟨rfl, hlater⟩ := List.cons_prefix_cons.1 h
      exact List.cons_prefix_cons.2 ⟨rfl, ih hlater fun hmem => hfeed (List.mem_cons_of_mem _ hmem)⟩

/-- No comment goes on over the end of a line. -/
theorem Unmarked.feed (ha : Unmarked a) (hcs : Unmarked cs) : Unmarked (a ++ '\n' :: cs) := by
  have hmark : '\n' ∉ commentMark := by decide
  induction a with
  | nil =>
    intro h
    rcases List.infix_cons_iff.1 h with hprefix | hinfix
    · exact absurd (prefix_before_feed (a := []) hprefix hmark).length_le (by decide)
    · exact hcs hinfix
  | cons c a ih =>
    intro h
    rcases List.infix_cons_iff.1 h with hprefix | hinfix
    · exact ha (prefix_before_feed (a := c :: a) hprefix hmark).isInfix
    · exact ih (fun hinfix' => ha (List.infix_cons_iff.2 (.inr hinfix'))) hinfix

/-- A line that documents something, where no further stroke stands in it. -/
theorem unmarked_doc (hcs : '/' ∉ cs) (hfirst : cs.take 2 ≠ [' ', 'C']) : Unmarked ('/' :: '/' :: '/' :: cs) := by
  intro h
  rw [List.infix_cons_iff, List.infix_cons_iff, List.infix_cons_iff] at h
  rcases h with h | h | h | h
  · simp [commentMark, List.cons_prefix_cons] at h
  · obtain ⟨later, hlater⟩ := h
    refine hfirst ?_
    obtain rfl : ' ' :: 'C' :: later = cs := by simpa [commentMark] using hlater
    rfl
  · exact hcs ((List.cons_prefix_cons.1 h).2.subset List.mem_cons_self)
  · exact hcs (h.subset List.mem_cons_self)

/-! ## Items on lines of their own -/

/-- An item whose text is read back wherever it stands on lines of its own. -/
structure PrintsItem (item : Item) : Prop where
  stands : ∃ body, item.text = body ++ "\n" ∧ StandsAs ("\n" ++ body) item
  unmarked : Unmarked item.text.toList

/-- A line that is told as it is. -/
structure IsDocLine (s : String) : Prop where
  line : IsLine s.toList
  slash : s.toList.head? ≠ some '/'
  blank : s.toList.getLast? ≠ some ' '

variable {s : String}

theorem docLines_eq (h : IsDocLine s) : docLines false s = [.text "///", .text s, newline] := by
  have hfeed : s.contains '\n' = false := by simpa using fun hmem => (isLine_iff.1 h.line _ hmem).1 rfl
  have hstart : s.startsWith "/" = false := by
    rw [Bool.eq_false_iff]
    intro hs
    obtain ⟨t, ht⟩ := String.startsWith_string_iff.1 hs
    exact h.slash (by rw [← ht]; rfl)
  have hkeeps : s.toList.reverse.dropWhile (· == ' ') = s.toList.reverse := by
    cases hlist : s.toList.reverse with
    | nil => rfl
    | cons c cs =>
      have hc : c ≠ ' ' := by
        rintro rfl
        exact h.blank (by rw [← List.head?_reverse, hlist]; rfl)
      exact List.dropWhile_cons_of_neg (by simpa using hc)
  unfold docLines
  simp [hfeed, hstart, hkeeps]

theorem renderAll_docLine (s : String) (more : List Doc) :
    (Doc.renderAll (.broken true) 0 0 (Pen.start 0) (.text "///" :: .text s :: newline :: more)).1 =
      docLine s ++ (Doc.renderAll (.broken true) 0 0 (Pen.start 0) more).1 := by
  simp [Doc.renderAll, Doc.render, Pen.write, newline, Gap.render, Gap.newline, Pen.writeSome, Pen.start, docLine,
    String.append_assoc]

theorem renderAll_docLines {docs : List String} (h : ∀ s ∈ docs, IsDocLine s) (more : List Doc) :
    (Doc.renderAll (.broken true) 0 0 (Pen.start 0) (attributesDocs false (docs.map .doc) ++ more)).1 =
      String.join (docs.map docLine) ++ (Doc.renderAll (.broken true) 0 0 (Pen.start 0) more).1 := by
  induction docs with
  | nil => simp [attributesDocs]
  | cons s docs ih =>
    obtain ⟨hs, hdocs⟩ := List.forall_mem_cons.1 h
    have hlist : attributesDocs false ((s :: docs).map .doc) ++ more =
        .text "///" :: .text s :: newline :: (attributesDocs false (docs.map .doc) ++ more) := by
      simp [attributesDocs, Attribute.docs, docLines_eq hs]
    rw [hlist, renderAll_docLine, ih hdocs, List.map_cons, String.join_cons, String.append_assoc]

theorem renderAll_line (ds : List Doc) : (Doc.renderAll (.broken true) 0 0 pen (ds ++ [newline])).1 =
    (Doc.renderAll (.broken true) 0 0 pen ds).1 ++ "\n" := by
  have hlead : Doc.lead 0 [newline] = 0 := rfl
  rw [renderAll_append_pair, hlead]
  simp [Doc.renderAll, Doc.render, newline, Gap.render, Gap.newline, Pen.writeSome]

theorem unmarked_docs {docs : List String} (h : ∀ s ∈ docs, Unmarked ("///" ++ s).toList) (ha : Unmarked a) :
    Unmarked ((String.join (docs.map docLine)).toList ++ a) := by
  induction docs with
  | nil => simpa using ha
  | cons s docs ih =>
    obtain ⟨hs, hdocs⟩ := List.forall_mem_cons.1 h
    have hlist : (String.join ((s :: docs).map docLine)).toList ++ a =
        ("///" ++ s).toList ++ '\n' :: ((String.join (docs.map docLine)).toList ++ a) := by
      simp [docLine, String.join_cons]
    rw [hlist]
    exact hs.feed (ih hdocs)

/-- A function for everybody, behind its documentation. -/
theorem PrintsItem.function {docs : List String} {s : Stmt} (hdocs : ∀ s ∈ docs, IsDocLine s)
    (hmarks : ∀ s ∈ docs, Unmarked ("///" ++ s).toList) (hx : IsLabel x) (hbs : ∀ b ∈ bs, PrintsParameter b) (hne : bs ≠ [])
    (ht : PrintsTy t) (hs : PrintsStmt s) (hss : PrintsStmts ss) :
    PrintsItem (.mk (docs.map .doc) .everyone (.function ⟨["async"], x, [], none, bs, some t⟩ (s :: ss))) := by
  have hprints := prints_function hx hbs hne ht hs hss
  let body := (Doc.renderAll (.broken true) 0 0 (Pen.start 0) (functionBody x bs t (s :: ss))).1
  have htext : (Item.mk (docs.map .doc) .everyone (.function ⟨["async"], x, [], none, bs, some t⟩ (s :: ss))).text =
      String.join (docs.map docLine) ++ (body ++ "\n") := by
    unfold Item.text Doc.lines Item.docs
    rw [renderAll_docLines hdocs, ItemKind.docs]
    exact congrArg _ (renderAll_line _)
  refine ⟨⟨String.join (docs.map docLine) ++ body, by rw [htext, String.append_assoc], ⟨fun rest tr hrest => ?_⟩⟩, ?_⟩
  · obtain ⟨cs, hcs⟩ := hrest.feed
    have hfollows : Edge.number.Holds rest.toList := by
      rw [hcs]
      exact holds_feed cs
    obtain ⟨⟨ts, hread, hlexes⟩, -⟩ := hprints.lexes (.broken true) 0 0 (Pen.start 0) _ tr hrest.lexes hfollows.joins
    obtain ⟨tp, tq, mid, rfl, hreceiver, hsignature, hresult, hbody⟩ := hread.reads
    have hall := (hlexes.docs fun s hs => ⟨(hdocs s hs).line, (hdocs s hs).slash⟩).blank
    refine ⟨_, ⟨⟨_, by rw [String.append_assoc, String.toList_append]; rfl⟩, ?_, ?_⟩,
      .function hx.name hreceiver hsignature hresult hbody⟩
    · simpa [String.toList_append] using hall
    · cases docs with
      | nil => rfl
      | cons => rfl
  · have hbody : Unmarked (body ++ "\n").toList := by
      refine unmarked_of_noStroke ?_
      rw [String.toList_append, List.mem_append, not_or]
      exact ⟨hprints.noStroke _ _ _ _, by decide⟩
    rw [htext, String.toList_append]
    exact unmarked_docs hmarks hbody

/-! ## Files -/

variable {items : List Item}

theorem ReadsAs.printed (h : ∀ item ∈ items, PrintsItem item) : ReadsAs ("\n" ++ String.join (items.map Item.text)) items := by
  induction items with
  | nil => exact .end
  | cons item items ih =>
    obtain ⟨hitem, hitems⟩ := List.forall_mem_cons.1 h
    obtain ⟨body, htext, hstands⟩ := hitem.stands
    rw [List.map_cons, String.join_cons, htext, String.append_assoc, ← String.append_assoc]
    exact hstands.before (ih hitems)

theorem unmarked_printed (h : ∀ item ∈ items, PrintsItem item) : Unmarked (String.join (items.map Item.text)).toList := by
  induction items with
  | nil => exact unmarked_of_noStroke (by simp)
  | cons item items ih =>
    obtain ⟨hitem, hitems⟩ := List.forall_mem_cons.1 h
    obtain ⟨body, htext, -⟩ := hitem.stands
    have hbody : Unmarked body.toList := by
      intro hmark
      refine hitem.unmarked (hmark.trans ?_)
      rw [htext, String.toList_append]
      exact (List.prefix_append ..).isInfix
    rw [List.map_cons, String.join_cons, htext, String.toList_append, String.toList_append, List.append_assoc]
    exact hbody.feed (ih hitems)

/-- A file behind a comment that documents nothing. -/
theorem File.read_commented {comment text : String} {line : List Char} (hcomment : comment.toList = '/' :: '/' :: ' ' :: line)
    (hline : '\n' ∉ line) (h : ReadsAs ("\n" ++ text) items) :
    File.read (comment ++ "\n\n" ++ text) = some ⟨none, [], items⟩ := by
  obtain ⟨ts, hnew, hitems⟩ := h.reads
  have hlist : (comment ++ "\n\n" ++ text).toList = '/' :: '/' :: (' ' :: line ++ '\n' :: ("\n" ++ text).toList) := by
    simp [hcomment]
  have hlexes : Lexes (comment ++ "\n\n" ++ text).toList ts := by
    have hfeed : '\n' ∉ ' ' :: line := by simpa using hline
    have hplain : ¬Documents (' ' :: line ++ '\n' :: ("\n" ++ text).toList) := by simp [Documents]
    intro fuel hfuel
    obtain ⟨fuel, rfl⟩ := Nat.exists_eq_add_one_of_ne_zero (Nat.ne_zero_of_lt hfuel)
    rw [hlist] at hfuel ⊢
    simp only [List.length_cons, List.length_append] at hfuel
    rw [readTokens, List.dropWhile_cons_of_neg (by simp)]
    simp only [openingComment_line, if_neg hplain, lineComment_rest hfeed]
    rw [readTokens_blank isSpace_feed]
    exact hnew.lexes fuel (by omega)
  rw [File.read_begun (.inr rfl) hlist hlexes.tokens hnew.begins, hitems _ _ (by unfold fuelFor; omega) (Nat.le_refl _)]
  rfl

end Retag.Code
