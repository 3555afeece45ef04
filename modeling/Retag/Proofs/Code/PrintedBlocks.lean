/-
Statements and blocks that are laid out are read back. A statement stands on lines of
its own, so the statements of a block follow each other whatever the lines in them are;
only the last one moves the line of the closing brace back (`PrintsStmts.cons`).
-/
import Retag.Proofs.Code.Printing

namespace Retag.Code

open Doc

variable {e : Expr} {x t : String} {b : Binding} {s : Stmt} {ss : List Stmt} {ts rest : List Token} {ds : List Doc}
  {headed : Bool}

/-! ## Braces and keywords -/

theorem prints_openBrace : PrintsAs [.text "\x7b"] .free .number fun ts rest => ts = .opening .brace :: rest :=
  .text (spells_opening rfl rfl)

theorem prints_closeBrace : PrintsAs [.text "\x7d"] .free .number fun ts rest => ts = .closing .brace :: rest :=
  .text (spells_closing rfl rfl)

theorem prints_semicolon : PrintsAs [.text ";"] .free .number fun ts rest => ∃ j, ts = .sign ';' j :: rest :=
  prints_sign rfl (by decide)

/-- A word with the blank behind it. -/
theorem prints_keyword {w text : String} (hw : IsIdentifier w) (htext : text = w ++ " ") :
    PrintsAs [.text text] .free .free fun ts rest => ts = .word w :: rest := .text (hw.spellsBlank htext)

theorem prints_colon : PrintsAs [.text ": "] .free .number fun ts rest => ts = .sign ':' false :: rest :=
  .text (spells_signBlank rfl (by decide))

/-! ## Bindings -/

/-- A pattern that is read back before the sign of its value. -/
def PrintsBinding (b : Binding) : Prop := PrintsAs b.docs .word .free fun ts rest =>
  ∀ mid, rest = .sign '=' false :: mid → ReadsBinding ts b rest

theorem PrintsBinding.name (hx : IsLabel x) : PrintsBinding ⟨.name false false x, none⟩ := by
  have hdocs : Binding.docs ⟨.name false false x, none⟩ = [.text x] := by simp [Binding.docs, Pattern.docs]
  unfold PrintsBinding
  rw [hdocs]
  refine (prints_word hx.spells).mono rfl rfl ?_
  rintro ts rest rfl mid rfl
  exact .name hx.name rfl (by simp)

theorem PrintsBinding.mutable (hx : IsLabel x) : PrintsBinding ⟨.name false true x, none⟩ := by
  have hdocs : Binding.docs ⟨.name false true x, none⟩ = [.text ("mut " ++ x)] := by simp [Binding.docs, Pattern.docs]
  have hmut : Spells "mut " .free .free fun ts rest => ts = .word "mut" :: rest :=
    (by decide : IsIdentifier "mut").spellsBlank (by simp)
  unfold PrintsBinding
  rw [hdocs]
  refine (PrintsAs.text (hmut.append hx.spells rfl)).mono rfl rfl ?_
  rintro ts rest ⟨_, rfl, rfl⟩ mid rfl
  exact .mutable hx.name rfl

theorem PrintsBinding.typed (hx : IsLabel x) (ht : IsLabel t) :
    PrintsBinding ⟨.name false false x, some (.path [.mk t []] false)⟩ := by
  have hdocs : Binding.docs ⟨.name false false x, some (.path [.mk t []] false)⟩ = [.text x, .text ": ", .text t] := by
    simp [Binding.docs, Pattern.docs, Ty.docs, segmentsDocs, Segment.docs, appliedDocs, separated]
  unfold PrintsBinding
  rw [hdocs]
  refine ((prints_word hx.spells).cons (prints_colon.cons (prints_word ht.spells) rfl) rfl).mono rfl rfl ?_
  rintro ts rest ⟨_, rfl, _, rfl, rfl⟩ mid rfl
  exact .typed hx.name ht.name

/-! ## Statements one below the other -/

/-- A statement with the end of its line, which is read back. -/
def PrintsStmt (s : Stmt) : Prop := ∀ last, ∃ ds, s.docs last = [.group false 0 ds, newline] ∧
  PrintsAs ds .free .free fun ts rest => EndsBlock ts ∧ (EndsBlock rest → ReadsStmt ts s true rest)

/-- Statements before a closing brace, on the line that the last one ends. -/
def PrintsStmts (ss : List Stmt) : Prop := ∀ n, PrintsAs (shiftLast n (stmtsDocs ss)) .free .free fun ts rest =>
  ∀ later, rest = .closing .brace :: later → EndsBlock ts ∧ ReadsStmts ts ss later

theorem PrintsStmts.nil : PrintsStmts [] := by
  intro n
  have hdocs : shiftLast n (stmtsDocs []) = [] := by simp [stmtsDocs, shiftLast]
  rw [hdocs]
  refine (PrintsAs.nil .free).mono rfl rfl ?_
  rintro ts rest rfl later rfl
  exact ⟨endsBlock_closing _ _, .nil later⟩

/-- Only the end of the last line is moved. -/
theorem shiftLast_line (n : Int) (g : Doc) (more : List Doc) :
    ∃ k, shiftLast n (g :: newline :: more) = g :: .gap (Gap.newline.shift k) :: shiftLast n more := by
  cases more with
  | nil => exact ⟨n, by simp [shiftLast, newline]⟩
  | cons d more => exact ⟨0, by simp [shiftLast, newline, Gap.shift]⟩

theorem PrintsStmts.cons (hs : PrintsStmt s) (hss : PrintsStmts ss) : PrintsStmts (s :: ss) := by
  intro n
  obtain ⟨ds, hdocs, hprints⟩ := hs ss.isEmpty
  obtain ⟨k, hshift⟩ := shiftLast_line n (.group false 0 ds) (stmtsDocs ss)
  have hall : shiftLast n (stmtsDocs (s :: ss)) =
      .group false 0 ds :: .gap (Gap.newline.shift k) :: shiftLast n (stmtsDocs ss) := by
    rw [stmtsDocs, hdocs, ← hshift]
    rfl
  rw [hall]
  refine (hprints.group.cons ((prints_newline k).cons (hss n) rfl) rfl).mono rfl rfl ?_
  rintro ts rest ⟨_, ⟨hends, hread⟩, _, rfl, hlater⟩ later hrest
  obtain ⟨hends', hstmts⟩ := hlater later hrest
  exact ⟨hends, .cons (hread hends') (.inl rfl) hstmts⟩

theorem endsBlock_opens (h : Opens ts) : EndsBlock ts := by
  obtain ⟨x, t, tail, rfl, hx, -⟩ := h
  exact endsBlock_word (fun heq => hx (heq ▸ List.mem_cons_self)) _

theorem docs_of_semicolon (hdrops : e.dropsSemicolon = false) (last : Bool) :
    (Stmt.expr e true).docs last = [.group false 0 (e.docs (.whole true) ++ [.text ";"]), newline] := by
  rw [Stmt.docs]
  simp [hdrops]

theorem docs_of_value (htakes : e.takesSemicolon = false) (last : Bool) :
    (Stmt.expr e false).docs last = [.group false 0 (e.docs (.whole true)), newline] := by
  rw [Stmt.docs]
  simp [htakes]

theorem PrintsStmt.expr (h : PrintsOpening e) (hdrops : e.dropsSemicolon = false) (hcalled : ∀ m, e ≠ .macroCall m) :
    PrintsStmt (.expr e true) := by
  intro last
  refine ⟨_, docs_of_semicolon hdrops last, ?_⟩
  refine ((h (.whole true)).append prints_semicolon rfl).mono rfl rfl ?_
  rintro ts rest ⟨_, hread, j, rfl⟩
  obtain ⟨hread, hopens⟩ := hread rfl
  refine ⟨endsBlock_opens hopens, fun _ => ?_⟩
  obtain ⟨x, t, tail, rfl, hx, hend⟩ := hopens
  obtain ⟨hcolons, hbang⟩ := sign_of_endsName hend
  exact .expr hread (fun hmem => hx (List.mem_cons_of_mem _ hmem)) hcolons hbang hcalled

/-- The value of a block. -/
theorem PrintsStmts.value (h : PrintsOpening e) (htakes : e.takesSemicolon = false) (hcalled : ∀ m, e ≠ .macroCall m) :
    PrintsStmts [.expr e false] := by
  intro n
  obtain ⟨k, hshift⟩ := shiftLast_line n (.group false 0 (e.docs (.whole true))) []
  have hdocs : shiftLast n (stmtsDocs [.expr e false]) =
      [.group false 0 (e.docs (.whole true)), .gap (Gap.newline.shift k)] := by
    rw [stmtsDocs, stmtsDocs, docs_of_value htakes, List.append_nil, hshift]
    simp [shiftLast]
  rw [hdocs]
  refine ((h (.whole true)).group.cons (prints_newline k) rfl).mono rfl rfl ?_
  rintro ts rest ⟨_, hread, rfl⟩ later rfl
  obtain ⟨hread, hopens⟩ := hread rfl
  refine ⟨endsBlock_opens hopens, ?_⟩
  obtain ⟨x, t, tail, rfl, hx, hend⟩ := hopens
  obtain ⟨hcolons, hbang⟩ := sign_of_endsName hend
  exact .last hread (fun hmem => hx (List.mem_cons_of_mem _ hmem)) hcolons hbang hcalled

theorem PrintsStmt.binding (hb : PrintsBinding b) (he : PrintsExpr e) : PrintsStmt (.binding b (some e)) := by
  intro last
  have hlet : PrintsAs [.text "let "] .free .free fun ts rest => ts = .word "let" :: rest :=
    prints_keyword (by decide) (by simp)
  refine ⟨.text "let " :: (b.docs ++ ([.text " = ", .gap .none] ++ (e.docs (.whole false) ++ [.text ";"]))), ?_, ?_⟩
  · rw [Stmt.docs]
    simp only [List.cons_append, List.append_assoc]
  refine (hlet.cons (hb.append (prints_equals.append ((he _).append prints_semicolon rfl) rfl) rfl) rfl).mono rfl rfl ?_
  rintro ts rest ⟨_, rfl, _, hbinding, mid, rfl, _, hread, j, rfl⟩
  exact ⟨endsBlock_word (by decide) _, fun _ => .binding (hbinding mid rfl) (hread rfl)⟩

/-! ## Blocks -/

/-- Statements between braces, on lines of their own. -/
theorem PrintsStmts.lines (h : PrintsStmts ss) (n : Int) :
    PrintsAs (newline :: shiftLast n (stmtsDocs ss) ++ [.text "\x7d"]) .free .number fun ts rest => ReadsStmts ts ss rest := by
  refine (((prints_newline 0).cons (h n) rfl).append prints_closeBrace rfl).mono rfl rfl ?_
  rintro ts rest ⟨_, ⟨_, rfl, hread⟩, rfl⟩
  exact (hread rest rfl).2

/-- A condition before its block. -/
theorem prints_condition (h : PrintsExpr e) :
    PrintsAs [conditionDocs e (e.docs (.whole false))] .free .free fun ts rest => stops rest = true → ReadsExpr ts e rest := by
  unfold conditionDocs
  have hend : PrintsAs [if e.endsLine then .gap .space else .text " "] .free .number (· = ·) := by
    split
    · exact prints_space
    · exact .text spells_blank
  refine (((h _).append hend rfl).group).mono rfl rfl ?_
  rintro ts rest ⟨_, hread, rfl⟩ hstops
  exact hread hstops

theorem stmtsDocs_ne_nil (hs : PrintsStmt s) : ∃ d rest, stmtsDocs (s :: ss) = d :: rest := by
  obtain ⟨ds, hdocs, -⟩ := hs ss.isEmpty
  exact ⟨_, _, by rw [stmtsDocs, hdocs, List.cons_append]⟩

/-- A choice with one branch. -/
theorem PrintsStmt.when (he : PrintsExpr e) (hs : PrintsStmt s) (hss : PrintsStmts ss) :
    PrintsStmt (.expr (.conditional e (s :: ss) none) false) := by
  intro last
  have hif : PrintsAs [.text "if "] .free .free fun ts rest => ts = .word "if" :: rest := prints_keyword (by decide) (by simp)
  have hdocs : (Expr.conditional e (s :: ss) none).docs (.whole true) =
      [block (.text "if " :: ([conditionDocs e (e.docs (.whole false))] ++ (.text "\x7b" ::
        (newline :: shiftLast (-indent) (stmtsDocs (s :: ss)) ++ [.text "\x7d"]))))] := by
    rw [Expr.docs]
    · simp only [single, List.cons_append, List.nil_append]
    · simp
  refine ⟨_, docs_of_value rfl last, ?_⟩
  rw [hdocs]
  refine ((hif.cons ((prints_condition he).append (prints_openBrace.cons
    ((PrintsStmts.cons hs hss).lines _) rfl) rfl) rfl).group).mono rfl rfl ?_
  rintro ts rest ⟨_, rfl, _, hcondition, _, rfl, hbody⟩
  exact ⟨endsBlock_word (by decide) _, .when (hcondition rfl) (.intro hbody)⟩

/-- A loop over items. -/
theorem PrintsStmt.loop (hx : IsLabel x) (he : PrintsExpr e) (hs : PrintsStmt s) (hss : PrintsStmts ss) :
    PrintsStmt (.expr (.loop (.name false false x) e (s :: ss)) false) := by
  intro last
  have hfor : PrintsAs [.text "for "] .free .free fun ts rest => ts = .word "for" :: rest :=
    prints_keyword (by decide) (by simp)
  have hin : PrintsAs [.text " in "] .free .number fun ts rest => ts = .word "in" :: rest := by
    have hword : Spells "in " .free .free fun ts rest => ts = .word "in" :: rest :=
      (by decide : IsIdentifier "in").spellsBlank (by simp)
    rw [show " in " = " " ++ "in " by simp]
    refine (PrintsAs.text (spells_blank.append hword rfl)).mono rfl rfl ?_
    rintro ts rest ⟨_, rfl, rfl⟩
    rfl
  have hdocs : (Expr.loop (.name false false x) e (s :: ss)).docs (.whole true) =
      .text "for " :: .text x :: .text " in " :: .gap .none :: ([conditionDocs e (e.docs (.whole false))] ++
        (.text "\x7b" :: .gap .none :: ([block (newline :: shiftLast (-indent) (stmtsDocs (s :: ss)))] ++ [.text "\x7d"]))) := by
    obtain ⟨d, rest, hlines⟩ := @stmtsDocs_ne_nil s ss hs
    rw [Expr.docs]
    simp [single, Pattern.docs, loopBody, hlines]
  have hbody : PrintsAs ([block (newline :: shiftLast (-indent) (stmtsDocs (s :: ss)))] ++ [.text "\x7d"]) .free .free
      fun ts rest => ReadsStmts ts (s :: ss) rest := by
    refine ((((prints_newline 0).cons (PrintsStmts.cons hs hss (-indent)) rfl).group).append prints_closeBrace rfl).mono rfl rfl ?_
    rintro ts rest ⟨_, ⟨_, rfl, hread⟩, rfl⟩
    exact (hread rest rfl).2
  refine ⟨_, docs_of_value rfl last, ?_⟩
  rw [hdocs]
  refine (hfor.cons ((prints_word hx.spells).cons (hin.cons ((PrintsAs.gap .free isBare_none).cons
    ((prints_condition he).append (prints_openBrace.cons ((PrintsAs.gap .free isBare_none).cons hbody rfl) rfl) rfl)
    rfl) rfl) rfl) rfl).mono rfl rfl ?_
  rintro ts rest ⟨_, rfl, _, rfl, _, rfl, _, rfl, _, hitems, _, rfl, _, rfl, hread⟩
  exact ⟨endsBlock_word (by decide) _, .loop hx.name (hitems rfl) (.intro hread)⟩

end Retag.Code
