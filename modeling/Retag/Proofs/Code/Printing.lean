/-
Expressions that are laid out are read back. For each construct: if the parts are read
back from their text, however it is broken into lines, so is the whole.

As for reading, `PrintsChain` is about an operand that may still go on with calls and
dots, `PrintsUnary` about a whole one.
-/
import Retag.Proofs.Code.Reading
import Retag.Proofs.Code.Spelling

namespace Retag.Code

open Doc

variable {e f : Expr} {es : List Expr} {p : List String} {x m : String} {ts rest : List Token} {ds es' : List Doc}
  {needs gives : Edge} {Q : Extends} {c : Char} {b : Bracket} {s : String}

/-! ## Where names end -/

/-- Whether neither a path nor the call of a macro goes on with a name. -/
def endsName : List Token → Bool
  | [] => false
  | .sign c _ :: _ => c != ':' && c != '!'
  | _ => true

theorem sign_of_endsName (h : endsName ts = true) : sign "::" ts = none ∧ sign "!" ts = none := by
  cases ts with
  | nil => cases h
  | cons t ts =>
    cases t with
    | sign c j =>
      simp only [endsName, Bool.and_eq_true, bne_iff_ne] at h
      exact ⟨skipSign_of_ne (Ne.symm h.1), skipSign_of_ne (Ne.symm h.2)⟩
    | word | lifetime | literal | opening | closing | doc => exact ⟨rfl, rfl⟩

theorem sees_of_endsName (h : endsName ts = true) : sees "!" ts = false := by
  rw [sees, (sign_of_endsName h).2]
  rfl

theorem endsName_of_stops (h : stops ts = true) : endsName ts = true := by
  unfold stops at h
  split at h
  next => rfl
  next => rfl
  next =>
    simp only [Bool.or_eq_true, beq_iff_eq] at h
    rcases h with rfl | rfl <;> rfl
  next => cases h

/-- Tokens that begin with a name, and go on with neither a path nor a macro. -/
def Headed (ts : List Token) : Prop := ∃ x t tail, ts = .word x :: t :: tail ∧ isName x = true ∧ endsName (t :: tail) = true

/-! ## Words and marks -/

/-- A name that is read as one word. -/
structure IsLabel (x : String) : Prop where
  spells : SpellsWord x
  name : isName x = true

theorem IsLabel.of_word (h : IsIdentifier x ∧ isName x = true) : IsLabel x := ⟨h.1.spells, h.2⟩

theorem prints_word (h : SpellsWord x) : PrintsAs [.text x] .word .free fun ts rest => ts = .word x :: rest := .text h

/-- A sign but the point. -/
theorem prints_sign (hs : s.toList = [c]) (hc : c ∈ plainSigns.tail) :
    PrintsAs [.text s] .free .number fun ts rest => ∃ j, ts = .sign c j :: rest := .text (spells_sign hs hc)

theorem prints_dot : PrintsAs [.text "."] .free .word fun ts rest => ∃ j, ts = .sign '.' j :: rest := .text spells_dot

theorem prints_open : PrintsAs [.text "("] .free .number fun ts rest => ts = .opening .parenthesis :: rest :=
  .text (spells_opening rfl rfl)

theorem prints_close : PrintsAs [.text ")"] .free .number fun ts rest => ts = .closing .parenthesis :: rest :=
  .text (spells_closing rfl rfl)

theorem isBare_empty : IsBare .empty := ⟨rfl, rfl⟩

theorem isBare_space : IsBare .space := ⟨rfl, rfl⟩

theorem isBare_none : IsBare .none := ⟨rfl, rfl⟩

theorem isBare_newline : IsBare .newline := ⟨rfl, rfl⟩

theorem prints_space : PrintsAs [.gap .space] .free .number (· = ·) := .space isBare_space (by decide)

/-- Where a line begins anew. -/
theorem prints_newline (by_ : Int) : PrintsAs [.gap (Gap.newline.shift by_)] .free .number (· = ·) :=
  .space (isBare_newline.shift by_) (by show 0 < endless; decide)

theorem prints_linkGap (opensLine : Bool) (e : Expr) : PrintsAs (linkGap opensLine e) .word .word (· = ·) := by
  unfold linkGap
  split
  · exact .nil _
  · exact .gap _ isBare_empty

theorem PrintsAs.chain (place : Place) (h : PrintsAs ds needs gives Q) : PrintsAs (chain place ds) needs gives Q := by
  cases place with
  | whole => exact h.group
  | link => exact h

theorem PrintsAs.single (place : Place) (h : PrintsAs ds needs gives Q) : PrintsAs (single place ds) needs gives Q := by
  cases place with
  | whole => exact h
  | link => exact h.group

/-! ## What is read back -/

/-- An operand that is read back. If `headed`, it begins with a name that stands by
itself. -/
def PrintsChain (headed : Bool) (e : Expr) : Prop := ∀ place, PrintsAs (e.docs place) .word .free fun ts rest =>
  endsName rest = true → ReadsChain ts e rest ∧ (headed = true → Headed ts)

def PrintsUnary (e : Expr) : Prop := ∀ place, PrintsAs (e.docs place) .number .free fun ts rest =>
  trails rest = false → endsName rest = true → ReadsUnary ts e rest

def PrintsExpr (e : Expr) : Prop := ∀ place, PrintsAs (e.docs place) .number .free fun ts rest =>
  stops rest = true → ReadsExpr ts e rest

/-- Arguments between their parentheses. -/
def PrintsArgs (es : List Expr) : Prop := PrintsAs (argumentDocs es (exprsDocs es)) .free .number fun ts rest =>
  ∃ inner, ts = .opening .parenthesis :: inner ∧ ReadsArgs inner es rest

variable {headed : Bool}

theorem PrintsChain.unary (h : PrintsChain headed e) : PrintsUnary e := fun place =>
  (h place).mono rfl rfl fun _ _ hread htrails hend => .of_chain (hread hend).1 htrails

theorem PrintsUnary.expr (h : PrintsUnary e) : PrintsExpr e := fun place =>
  (h place).mono rfl rfl fun _ _ hread hstops => .of_unary (hread (trails_of_stops hstops) (endsName_of_stops hstops)) hstops

theorem PrintsChain.expr (h : PrintsChain headed e) : PrintsExpr e := h.unary.expr

/-! ## Names -/

theorem segmentsDocs_names (p : List String) : segmentsDocs true (p.map fun s => .mk s []) = p.map fun s => [.text s] := by
  induction p with
  | nil => simp [segmentsDocs]
  | cons x p ih => simp [segmentsDocs, Segment.docs, appliedDocs, ih]

theorem prints_path (hp : p ≠ []) (h : ∀ x ∈ p, IsLabel x) :
    PrintsAs (separated "::" (p.map fun s => [.text s])) .word .free fun ts rest =>
      endsName rest = true → ReadsPath ts p rest := by
  induction p with
  | nil => contradiction
  | cons x p ih =>
    obtain ⟨hx, hothers⟩ := List.forall_mem_cons.1 h
    cases p with
    | nil =>
      refine (prints_word hx.spells).mono rfl rfl ?_
      rintro ts rest rfl hend
      exact .name hx.name (sign_of_endsName hend).1
    | cons y p =>
      have hcolons : PrintsAs [.text "::"] .free .number fun ts rest => ∃ j, ts = .sign ':' true :: .sign ':' j :: rest :=
        .text (spells_signs rfl (by decide) (by decide))
      refine ((prints_word hx.spells).append (hcolons.append (ih (by simp) hothers) rfl) rfl).mono rfl rfl ?_
      rintro ts rest ⟨_, rfl, _, ⟨j, rfl⟩, hpath⟩ hend
      exact .cons hx.name (hpath hend)

theorem names_docs (place : Place) (p : List String) :
    (Expr.names p).docs place = single place (separated "::" (p.map fun s => [.text s])) := by
  rw [Expr.names, Expr.docs, pathDocs, segmentsDocs_names]
  rfl

theorem PrintsChain.path (hp : p ≠ []) (h : ∀ x ∈ p, IsLabel x) : PrintsChain false (.names p) := by
  intro place
  rw [names_docs]
  refine ((prints_path hp h).mono rfl rfl ?_).single place
  intro ts rest hpath hend
  exact ⟨.path (hpath hend) (sees_of_endsName hend), by simp⟩

theorem PrintsChain.name (h : IsLabel x) : PrintsChain true (.names [x]) := by
  intro place
  rw [names_docs]
  refine ((prints_word h.spells).mono rfl rfl ?_).single place
  rintro ts rest rfl hend
  refine ⟨.path (.name h.name (sign_of_endsName hend).1) (sees_of_endsName hend), fun _ => ?_⟩
  cases rest with
  | nil => cases hend
  | cons t tail => exact ⟨x, t, tail, rfl, h.name, hend⟩

/-! ## Operands that go on -/

theorem PrintsChain.method (h : PrintsChain headed e) (hm : IsLabel m) (hargs : PrintsArgs es) :
    PrintsChain headed (.method e m [] es) := by
  intro place
  obtain ⟨n, hdocs⟩ : ∃ n, (Expr.method e m [] es).docs place = chain place (e.docs (.link place.opensLine) ++
      (linkGap place.opensLine e ++ (.text "." :: .text m :: [.group true n (argumentDocs es (exprsDocs es))]))) := by
    cases place with
    | whole => exact ⟨_, by simp only [Expr.docs, appliedDocs, List.append_assoc, List.cons_append, List.nil_append]; rfl⟩
    | link => exact ⟨_, by simp only [Expr.docs, appliedDocs, List.append_assoc, List.cons_append, List.nil_append]; rfl⟩
  rw [hdocs]
  refine (((h _).append ((prints_linkGap _ _).append (prints_dot.cons ((prints_word hm.spells).cons hargs.group rfl) rfl)
    rfl) rfl).mono rfl rfl ?_).chain place
  rintro ts rest ⟨_, hread, _, rfl, _, ⟨j, rfl⟩, _, rfl, inner, rfl, hargs⟩ -
  obtain ⟨hread, hheaded⟩ := hread rfl
  exact ⟨hread.method hm.name hargs, hheaded⟩

theorem PrintsChain.call (h : PrintsChain headed e) (hargs : PrintsArgs es) : PrintsChain headed (.call e es) := by
  intro place
  obtain ⟨inner, hdocs⟩ : ∃ inner, (Expr.call e es).docs place = e.docs inner ++ argumentDocs es (exprsDocs es) := by
    cases place with
    | whole b => exact ⟨.whole b, by simp only [Expr.docs]⟩
    | link => exact ⟨.link false, by simp only [Expr.docs]⟩
  rw [hdocs]
  refine ((h _).append hargs rfl).mono rfl rfl ?_
  rintro ts rest ⟨_, hread, inner, rfl, hargs⟩ -
  obtain ⟨hread, hheaded⟩ := hread rfl
  exact ⟨hread.call hargs, hheaded⟩

theorem PrintsChain.attempt (h : PrintsChain headed e) : PrintsChain headed (.attempt e) := by
  intro place
  have hask : PrintsAs [.text "?"] .free .number fun ts rest => ∃ j, ts = .sign '?' j :: rest := prints_sign rfl (by decide)
  rw [Expr.docs]
  refine ((h place).append hask rfl).mono rfl rfl ?_
  rintro ts rest ⟨_, hread, j, rfl⟩ -
  obtain ⟨hread, hheaded⟩ := hread rfl
  exact ⟨hread.attempt, hheaded⟩

theorem PrintsChain.await (h : PrintsChain headed e) : PrintsChain headed (.await e) := by
  intro place
  have hawait : Spells ".await" .word .word fun ts rest => ∃ j, ts = .sign '.' j :: .word "await" :: rest := by
    have hword : SpellsWord "await" := (by decide : IsIdentifier "await").spells
    refine (spells_dot.append hword rfl).mono ?_
    rintro ts rest ⟨_, ⟨j, rfl⟩, rfl⟩
    exact ⟨j, rfl⟩
  simp only [Expr.docs, List.append_assoc]
  refine (((h _).append ((prints_linkGap _ _).append (.text hawait) rfl) rfl).mono rfl rfl ?_).chain place
  rintro ts rest ⟨_, hread, _, rfl, j, rfl⟩ -
  obtain ⟨hread, hheaded⟩ := hread rfl
  exact ⟨hread.await, hheaded⟩

/-- What the field at a position is called with. No point follows the number. -/
theorem PrintsChain.position (h : PrintsChain headed e) {n : Nat} (hn : positions? (toString n) = some [toString n])
    (hargs : PrintsArgs es) : PrintsChain headed (.call (.field e (toString n)) es) := by
  intro place
  obtain ⟨outer, hdocs⟩ : ∃ outer, (Expr.call (.field e (toString n)) es).docs place =
      chain outer (e.docs (.link outer.opensLine) ++ (linkGap outer.opensLine e ++ [.text ".", .text (toString n)])) ++
        argumentDocs es (exprsDocs es) := by
    cases place with
    | whole b => exact ⟨.whole b, by simp only [Expr.docs, List.append_assoc]⟩
    | link => exact ⟨.link false, by simp only [Expr.docs, List.append_assoc]⟩
  have hnumber : PrintsAs [.text (toString n)] .number .free fun ts rest => ts = .literal (toString n) :: rest :=
    .text (spells_number n)
  rw [hdocs]
  refine ((((h _).append ((prints_linkGap _ _).append (prints_dot.cons hnumber rfl) rfl) rfl).chain outer).append hargs
    rfl).mono rfl rfl ?_
  rintro ts rest ⟨_, ⟨_, hread, _, rfl, _, ⟨j, rfl⟩, rfl⟩, inner, rfl, hargs⟩ -
  obtain ⟨hread, hheaded⟩ := hread rfl
  exact ⟨(hread.position hn).call hargs, hheaded⟩

/-! ## Arguments -/

theorem ReadsExpr.opens (h : ReadsExpr ts e rest) : closing .parenthesis ts = none := by
  cases ts with
  | nil => rfl
  | cons t ts =>
    cases t with
    | closing b =>
      have hread := h.reads (16 * (Token.closing b :: ts).length + 16) (by omega)
      have hbar : sign "|" (.closing b :: ts) = none := rfl
      have hglobal : optionalSign "::" (.closing b :: ts) = (false, .closing b :: ts) := rfl
      rw [readExpr, readUnary_atom (by simp), readAtom] at hread
      · simp [hbar, readPath, hglobal, readSegments] at hread
      all_goals simp
    | word | lifetime | literal | sign | opening | doc => rfl

/-- Arguments with commas between them, and maybe one at the end of a line. -/
theorem prints_commaList (h : ∀ e ∈ es, PrintsExpr e) (hes : es ≠ []) :
    PrintsAs (commaList (exprsDocs es)) .number .free fun ts rest =>
      ∀ later, rest = .closing .parenthesis :: later → ReadsArgs ts es later := by
  induction es with
  | nil => contradiction
  | cons e es ih =>
    obtain ⟨he, hes⟩ := List.forall_mem_cons.1 h
    cases es with
    | nil =>
      simp only [exprsDocs, commaList]
      refine ((he _).append (.comma _) rfl).mono rfl rfl ?_
      rintro ts rest ⟨_, hread, rfl | rfl⟩ later rfl
      · exact .one (hread rfl).opens (hread rfl)
      · exact .cons (hread rfl).opens (hread rfl) (.nil later)
    | cons f es =>
      have hcomma : PrintsAs [.text ","] .free .number fun ts rest => ∃ j, ts = .sign ',' j :: rest :=
        prints_sign rfl (by decide)
      have hothers := ih hes (by simp)
      simp only [exprsDocs, commaList, List.append_assoc, List.cons_append, List.nil_append] at hothers ⊢
      refine ((he _).append (hcomma.cons (prints_space.cons hothers rfl) rfl) rfl).mono rfl rfl ?_
      rintro ts rest ⟨_, hread, _, ⟨j, rfl⟩, _, rfl, hargs⟩ later rfl
      exact .cons (hread rfl).opens (hread rfl) (hargs later rfl)

theorem PrintsArgs.nil : PrintsArgs [] := by
  have hdocs : argumentDocs [] (exprsDocs []) = [.text "(", .text ")"] := by simp only [exprsDocs, argumentDocs, Doc.enclosed]
  unfold PrintsArgs
  rw [hdocs]
  refine (prints_open.cons prints_close rfl).mono rfl rfl ?_
  rintro ts rest ⟨_, rfl, rfl⟩
  exact ⟨_, rfl, .nil rest⟩

theorem PrintsArgs.of_exprs (h : ∀ e ∈ es, PrintsExpr e) : PrintsArgs es := by
  have hlist : ∀ e es', es = e :: es' → PrintsAs (Doc.enclosed "(" (exprsDocs es) ")") .free .number fun ts rest =>
      ∃ inner, ts = .opening .parenthesis :: inner ∧ ReadsArgs inner es rest := by
    rintro e es' rfl
    have hitems : PrintsAs [block (.gap .empty :: commaList (exprsDocs (e :: es')))] .number .free fun ts rest =>
        ∃ later, ts = later ∧ ∀ after, rest = .closing .parenthesis :: after → ReadsArgs later (e :: es') after :=
      ((PrintsAs.gap .free isBare_empty).cons (prints_commaList h (by simp)) rfl).group
    have hdocs : Doc.enclosed "(" (exprsDocs (e :: es')) ")" =
        [.text "(", block (.gap .empty :: commaList (exprsDocs (e :: es'))), .text ")"] := by simp only [exprsDocs, Doc.enclosed]
    rw [hdocs]
    refine (prints_open.cons (hitems.cons prints_close rfl) rfl).mono rfl rfl ?_
    rintro ts rest ⟨_, rfl, _, ⟨_, rfl, hargs⟩, rfl⟩
    exact ⟨_, rfl, hargs rest rfl⟩
  unfold PrintsArgs
  cases es with
  | nil => exact PrintsArgs.nil
  | cons e later =>
    cases later with
    | nil =>
      by_cases hown : e.isBlocklike = true
      · have hdocs : argumentDocs [e] (exprsDocs [e]) = .text "(" :: e.docs (.whole false) ++ [.text ")"] := by
          simp [argumentDocs, exprsDocs, hown]
        rw [hdocs]
        refine (prints_open.cons ((h e (by simp) _).append prints_close rfl) rfl).mono rfl rfl ?_
        rintro ts rest ⟨_, rfl, _, hread, rfl⟩
        exact ⟨_, rfl, .one (hread rfl).opens (hread rfl)⟩
      · have hdocs : argumentDocs [e] (exprsDocs [e]) = Doc.enclosed "(" (exprsDocs [e]) ")" := by
          simp [argumentDocs, exprsDocs, hown]
        rw [hdocs]
        exact hlist e [] rfl
    | cons f later => exact hlist e (f :: later) rfl

/-! ## Signs before an operand, and between two -/

theorem PrintsUnary.not (h : PrintsUnary e) : PrintsUnary (.unary "!" e) := by
  intro place
  have hbang : PrintsAs [.text "!"] .free .number fun ts rest => ∃ j, ts = .sign '!' j :: rest := prints_sign rfl (by decide)
  rw [Expr.docs]
  refine ((hbang.cons (h _) rfl).mono rfl rfl ?_).single place
  rintro ts rest ⟨_, ⟨j, rfl⟩, hread⟩ htrails hend
  exact (hread htrails hend).not

theorem PrintsUnary.reference (h : PrintsChain true e) : PrintsUnary (.reference false e) := by
  intro place
  have hamp : PrintsAs [.text "&"] .free .number fun ts rest => ∃ j, ts = .sign '&' j :: rest := prints_sign rfl (by decide)
  have hdocs : (Expr.reference false e).docs place = single place (.text "&" :: e.docs (.whole false)) := by
    simp only [Expr.docs, Bool.false_eq_true, if_false]
  rw [hdocs]
  refine ((hamp.cons (h _) rfl).mono rfl rfl ?_).single place
  rintro ts rest ⟨_, ⟨j, rfl⟩, hread⟩ htrails hend
  obtain ⟨hread, hheaded⟩ := hread hend
  obtain ⟨x, t, tail, rfl, hx, -⟩ := hheaded rfl
  exact .reference (by rintro rfl; cases hx) (.of_chain hread htrails)

theorem PrintsExpr.and (he : PrintsUnary e) (hf : PrintsUnary f) : PrintsExpr (.binary "&&" e f) := by
  intro place
  have hand : PrintsAs [.text "&&"] .free .number fun ts rest => ∃ j, ts = .sign '&' true :: .sign '&' j :: rest :=
    .text (spells_signs rfl (by decide) (by decide))
  have hblank : PrintsAs [.text " "] .free .number (· = ·) := .text spells_blank
  rw [Expr.docs]
  simp only [List.cons_append, List.nil_append]
  refine (((he _).group.cons (prints_space.cons (hand.cons (hblank.cons (hf _) rfl) rfl) rfl) rfl).group.mono rfl rfl
    ?_).single place
  rintro ts rest ⟨_, hleft, _, rfl, _, ⟨j, rfl⟩, _, rfl, hright⟩ hstops
  exact .and (hleft rfl rfl) (hright (trails_of_stops hstops) (endsName_of_stops hstops)) hstops

/-- The sign between a place and its value. -/
theorem spells_equals : Spells " = " .free .number fun ts rest => ts = .sign '=' false :: rest := by
  have hsign : Spells "= " .free .number fun ts rest => ts = .sign '=' false :: rest := spells_signBlank rfl (by decide)
  rw [show " = " = " " ++ "= " by simp]
  refine (spells_blank.append hsign rfl).mono ?_
  rintro ts rest ⟨_, rfl, rfl⟩
  rfl

theorem prints_equals : PrintsAs [.text " = ", .gap .none] .free .number fun ts rest => ts = .sign '=' false :: rest := by
  refine ((PrintsAs.text spells_equals).cons (PrintsAs.gap .free isBare_none) rfl).mono rfl rfl ?_
  rintro ts rest ⟨_, rfl, rfl⟩
  rfl

/-! ## Operands with brackets of their own -/

theorem PrintsExpr.number (n : Nat) : PrintsExpr (.literal (toString n)) := by
  intro place
  rw [Expr.docs]
  refine ((PrintsAs.text (spells_number n)).mono rfl rfl ?_).single place
  rintro ts rest rfl hstops
  exact .of_chain (.literal _ rest) hstops

theorem PrintsExpr.unit : PrintsExpr (.tuple []) := by
  intro place
  have hdocs : (Expr.tuple []).docs place = single place [.text "(", .text ")"] := by
    simp only [Expr.docs, exprsDocs, Doc.tuple, Doc.enclosed]
  rw [hdocs]
  refine ((prints_open.cons prints_close rfl).mono rfl rfl ?_).single place
  rintro ts rest ⟨_, rfl, rfl⟩ hstops
  exact .of_chain (.unit rest) hstops

/-- A closure of one parameter. -/
theorem PrintsExpr.closure (hx : IsLabel x) (hbody : e.isBraced = false) (h : PrintsExpr e) :
    PrintsExpr (.closure false [⟨.name false false x, none⟩] e) := by
  intro place
  have hdocs : (Expr.closure false [⟨.name false false x, none⟩] e).docs place =
      single place [.group false 0 (block [.text "|", .gap .empty, .text x, .text "|", .gap (Gap.space.shift (-indent))] ::
        .gap .none :: e.docs (.whole false))] := by
    rw [Expr.docs]
    simp [closureHead, spaced, Binding.docs, Pattern.docs, closureBody, hbody]
  have hbar : PrintsAs [.text "|"] .free .number fun ts rest => ∃ j, ts = .sign '|' j :: rest := prints_sign rfl (by decide)
  have hhead : PrintsAs [block [.text "|", .gap .empty, .text x, .text "|", .gap (Gap.space.shift (-indent))]] .free .number
      fun ts rest => ∃ j j', ts = .sign '|' j :: .word x :: .sign '|' j' :: rest := by
    refine ((hbar.cons ((PrintsAs.gap .free isBare_empty).cons ((prints_word hx.spells).cons (hbar.cons
      (.space (isBare_space.shift _) (by decide)) rfl) rfl) rfl) rfl).group).mono rfl rfl ?_
    rintro ts rest ⟨_, ⟨j, rfl⟩, _, rfl, _, rfl, _, ⟨j', rfl⟩, rfl⟩
    exact ⟨j, j', rfl⟩
  rw [hdocs]
  refine ((hhead.cons ((PrintsAs.gap .free isBare_none).cons (h _) rfl) rfl).group.mono rfl rfl ?_).single place
  rintro ts rest ⟨_, ⟨j, j', rfl⟩, _, rfl, hread⟩ hstops
  exact .closure hx.name (hread hstops) hstops

/-- A list of one value that a method without arguments makes. -/
theorem PrintsExpr.list (hx : IsIdentifier x) (hm : IsIdentifier m) (hplain : x ∉ setOff ∧ m ∉ setOff) :
    PrintsExpr (.macroCall ⟨["vec"], false, .square,
      [.word x, .sign '.' false, .word m, .opening .parenthesis, .closing .parenthesis]⟩) := by
  intro place
  have hdocs : (Expr.macroCall ⟨["vec"], false, .square,
      [.word x, .sign '.' false, .word m, .opening .parenthesis, .closing .parenthesis]⟩).docs place =
      single place (.text "vec!" :: .text "[" ::
        [block (.gap .empty :: .group false 0 (.text x :: .gap .empty :: ([.text ".", .text m] ++ [.text "(", .text ")"])) ::
          [.gap (Gap.empty.shift (-indent))])] ++ [.text "]"]) := by
    rw [Expr.docs]
    simp [MacroCall.docs, tokenDocs, Passed.next, hplain.1, hplain.2, pathText, Token.text, shiftLast]
    rfl
  have hvec : Spells "vec!" .free .free fun ts rest => ∃ j, ts = .word "vec" :: .sign '!' j :: rest := by
    have hword : SpellsWord "vec" := (by decide : IsIdentifier "vec").spells
    have hbang : Spells "!" .free .number fun ts rest => ∃ j, ts = .sign '!' j :: rest := spells_sign rfl (by decide)
    refine (hword.append hbang rfl).mono ?_
    rintro ts rest ⟨_, rfl, j, rfl⟩
    exact ⟨j, rfl⟩
  have hopen : PrintsAs [.text "["] .free .number fun ts rest => ts = .opening .square :: rest :=
    .text (spells_opening rfl rfl)
  have hclose : PrintsAs [.text "]"] .free .number fun ts rest => ts = .closing .square :: rest :=
    .text (spells_closing rfl rfl)
  have hcall : PrintsAs [.group false 0 (.text x :: .gap .empty :: ([.text ".", .text m] ++ [.text "(", .text ")"]))]
      .free .free fun ts rest =>
        ts = .word x :: .sign '.' false :: .word m :: .opening .parenthesis :: .closing .parenthesis :: rest := by
    refine (((prints_word hx.spells).cons ((PrintsAs.gap .word isBare_empty).cons ((PrintsAs.texts hm.spellsDotted).append
      (prints_open.cons prints_close rfl) rfl) rfl) rfl).group).mono rfl rfl ?_
    rintro ts rest ⟨_, rfl, _, rfl, _, rfl, _, rfl, rfl⟩
    rfl
  rw [hdocs]
  refine (((PrintsAs.text hvec).cons (hopen.cons (((PrintsAs.gap .free isBare_empty).cons (hcall.cons
    (PrintsAs.gap .free (isBare_empty.shift _)) rfl) rfl).group.append hclose rfl) rfl) rfl).mono rfl rfl ?_).single place
  rintro ts rest ⟨_, ⟨j, rfl⟩, _, rfl, _, ⟨_, rfl, _, rfl, rfl⟩, rfl⟩ hstops
  exact .of_chain (.listCall rfl rfl (by simp only [List.length_cons]; omega)) hstops

/-! ## Expressions as statements -/

/-- Tokens that an expression as a statement may begin with. -/
def Opens (ts : List Token) : Prop :=
  ∃ x t tail, ts = .word x :: t :: tail ∧ x ∉ "else" :: openers ∧ endsName (t :: tail) = true

theorem Headed.opens (h : Headed ts) : Opens ts := by
  obtain ⟨x, t, tail, rfl, hx, hend⟩ := h
  refine ⟨x, t, tail, rfl, fun hopens => ?_, hend⟩
  have hreserved : ∀ w ∈ "else" :: openers, isName w = false := by decide
  rw [hreserved x hopens] at hx
  cases hx

/-- An expression that is read back as a statement. -/
def PrintsOpening (e : Expr) : Prop := ∀ place, PrintsAs (e.docs place) .number .free fun ts rest =>
  stops rest = true → ReadsExpr ts e rest ∧ Opens ts

theorem PrintsChain.opening (h : PrintsChain true e) : PrintsOpening e := fun place =>
  (h place).mono rfl rfl fun _ _ hread hstops =>
    have ⟨hread, hheaded⟩ := hread (endsName_of_stops hstops)
    ⟨.of_chain hread hstops, (hheaded rfl).opens⟩

theorem PrintsOpening.assign (he : PrintsChain true e) (hf : PrintsUnary f) : PrintsOpening (.assign e f) := by
  intro place
  rw [Expr.docs, List.append_assoc]
  refine (((he _).append (prints_equals.append (hf _) rfl) rfl).group.mono rfl rfl ?_).single place
  rintro ts rest ⟨_, hleft, _, rfl, hright⟩ hstops
  obtain ⟨hleft, hheaded⟩ := hleft rfl
  exact ⟨.assign (.of_chain hleft rfl) (hright (trails_of_stops hstops) (endsName_of_stops hstops)) hstops,
    (hheaded rfl).opens⟩

theorem PrintsOpening.ret (h : PrintsChain true e) : PrintsOpening (.ret (some e)) := by
  intro place
  have hreturn : SpellsWord "return" := (by decide : IsIdentifier "return").spells
  have hblank : PrintsAs [.text " "] .free .number (· = ·) := .text spells_blank
  rw [Expr.docs]
  refine (((prints_word hreturn).cons (hblank.cons (h _) rfl) rfl).mono rfl rfl ?_).single place
  rintro ts rest ⟨_, rfl, _, rfl, hread⟩ hstops
  obtain ⟨hread, hheaded⟩ := hread (endsName_of_stops hstops)
  obtain ⟨x, t, tail, rfl, hx, -⟩ := hheaded rfl
  exact ⟨.ret (by rintro rfl; cases hx) (.of_chain hread hstops) hstops, _, _, _, rfl, by decide, rfl⟩

end Retag.Code
