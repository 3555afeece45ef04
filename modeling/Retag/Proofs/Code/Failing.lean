/-
Constructs that are not read. As for what is read, sixteen steps for every token are enough,
here to be sure that a reader answers nothing: the parts before the one that is not read are
read first.

An expression is not read where no member follows a dot (`Fails.chain`), and then neither are
the statements, the block and the function that it stands in (`readItem_no_body`).
-/
import Retag.Proofs.Code.Refusal

namespace Retag.Code

variable {α : Type} {ts mid rest tail : List Token} {e : Expr} {es : List Expr} {s : Stmt} {b : Binding} {bs : List Binding}
  {t : Ty} {x y : String} {fuel : Nat} {j j' ended : Bool}

/-- Nothing is read here, with so many steps more than the tokens take. -/
def Fails (read : Nat → List Token → Option α) (more : Nat) (ts : List Token) : Prop :=
  ∀ fuel, 16 * ts.length + more ≤ fuel → read fuel ts = none

/-! ## Expressions -/

/-- No field, method or position follows a dot. -/
inductive NoMember : List Token → Prop
  | call (tail : List Token) : NoMember (.opening .parenthesis :: tail)
  | number {n : String} (h : positions? n = none) (tail : List Token) : NoMember (.literal n :: tail)
  | word {x : String} (hx : isName x = false) (hawait : x ≠ "await") (tail : List Token) : NoMember (.word x :: tail)

theorem readTrailers_noMember (h : NoMember ts) : readTrailers fuel e (.sign '.' j :: ts) = none := by
  cases fuel with
  | zero => rfl
  | succ fuel =>
    have hask : sign "?" (.sign '.' j :: ts) = none := rfl
    have hdot : sign "." (.sign '.' j :: ts) = some ts := rfl
    cases h with
    | call tail =>
      have hrange : sees ".." (.sign '.' j :: .opening .parenthesis :: tail) = false := by cases j <;> rfl
      rw [readTrailers]
      · simp [hask, hrange, hdot, readName]
      all_goals simp
    | number h tail =>
      have hrange : ∀ n, sees ".." (.sign '.' j :: .literal n :: tail) = false := fun n => by cases j <;> rfl
      rw [readTrailers]
      · simp [hask, hrange, hdot, h]
      all_goals simp
    | word hx hawait tail =>
      have hname : ∀ {x : String}, isName x = false → readName (.word x :: tail) = none := fun hx => by simp [readName, hx]
      rw [readTrailers_dot, if_neg hawait, hname hx]
      rfl

theorem Fails.chain (h : ReadsChain ts e (.sign '.' j :: mid)) (hmid : NoMember mid) : Fails readExpr 0 ts := by
  intro fuel hfuel
  have hlt := h.shorter
  obtain ⟨fuel, rfl⟩ := Nat.exists_eq_add_one_of_ne_zero (n := fuel) (by omega)
  obtain ⟨fuel', -, heq⟩ := h.reads fuel hfuel
  rw [readExpr, heq, readTrailers_noMember hmid]
  rfl

/-! ## Statements -/

theorem Fails.expr {u : Token} (h : Fails readExpr 0 (.word x :: u :: tail)) (hx : x ∉ openers)
    (hcolons : sign "::" (u :: tail) = none) (hbang : sign "!" (u :: tail) = none) :
    Fails readStmt 3 (.word x :: u :: tail) := by
  intro fuel hfuel
  obtain ⟨fuel, rfl⟩ : ∃ n, fuel = n + 2 := ⟨fuel - 2, by omega⟩
  have hsemicolon : sign ";" (.word x :: u :: tail) = none := rfl
  have hlet : x ≠ "let" := by rintro rfl; exact absurd hx (by decide)
  unfold readStmt
  simp only [hsemicolon]
  split
  next heq => cases heq; exact absurd rfl hlet
  next =>
    simp only [readBraceMacro_word hcolons hbang, readOpening_word hx, h fuel (by omega), Option.bind_eq_bind,
      Option.bind_none]

theorem Fails.binding (hb : ReadsBinding ts b (.sign '=' false :: mid)) (h : Fails readExpr 0 mid) :
    Fails readStmt 3 (.word "let" :: ts) := by
  intro fuel hfuel
  have hlt := hb.shorter
  simp only [List.length_cons] at hlt hfuel
  obtain ⟨fuel, rfl⟩ := Nat.exists_eq_add_one_of_ne_zero (n := fuel) (by omega)
  have hsemicolon : sign ";" (.word "let" :: ts) = none := rfl
  have hassign : seesAssign (.sign '=' false :: mid) = true := rfl
  have hsign : sign "=" (.sign '=' false :: mid) = some mid := rfl
  unfold readStmt
  simp [hsemicolon, hb.reads fuel (by omega), hassign, hsign, h fuel (by omega)]

/-- A statement that a reserved word opens, where nothing is read behind the word. -/
theorem Fails.opened (hx : x ∈ ["if", "for"]) (h : ∀ fuel, 16 * (Token.word x :: tail).length ≤ fuel →
    readAtom fuel (.word x :: tail) = none) : Fails readStmt 3 (.word x :: tail) := by
  intro fuel hfuel
  obtain ⟨fuel, rfl⟩ : ∃ n, fuel = n + 2 := ⟨fuel - 2, by omega⟩
  have hsemicolon : sign ";" (.word x :: tail) = none := rfl
  have hnone := h fuel (by omega)
  have hbrace : readBraceMacro (fuel + 1) (.word x :: tail) = none := by
    have hreserved : ∀ x ∈ ["if", "for"], isName x = false ∧ x ∉ "Self" :: pathWords := by decide
    exact readBraceMacro_reserved (hreserved x hx).1 (hreserved x hx).2
  simp only [List.mem_cons, List.not_mem_nil, or_false] at hx
  rcases hx with rfl | rfl
  all_goals
    unfold readStmt readOpening
    simp [hsemicolon, hbrace, hnone]

theorem Fails.when (hcondition : ReadsExpr ts e mid) (h : Fails readBlock 0 mid) : Fails readStmt 3 (.word "if" :: ts) := by
  have hlt := hcondition.shorter
  refine .opened (by simp) fun fuel hfuel => ?_
  simp only [List.length_cons] at hfuel
  obtain ⟨fuel, rfl⟩ := Nat.exists_eq_add_one_of_ne_zero (n := fuel) (by omega)
  unfold readAtom
  simp [hcondition.reads fuel (by omega), h fuel (by omega)]

theorem Fails.loop (hx : isName x = true) (hitems : ReadsExpr ts e mid) (h : Fails readBlock 0 mid) :
    Fails readStmt 3 (.word "for" :: .word x :: .word "in" :: ts) := by
  have hlt := hitems.shorter
  refine .opened (by simp) fun fuel hfuel => ?_
  simp only [List.length_cons] at hfuel
  obtain ⟨fuel, rfl⟩ := Nat.exists_eq_add_one_of_ne_zero (n := fuel) (by omega)
  have hpattern : readPattern fuel (.word x :: .word "in" :: ts) = some (.name false false x, .word "in" :: ts) :=
    readPattern_name hx rfl (by simp) (by simp only [List.length_cons]; omega)
  have hin : word "in" (.word "in" :: ts) = some ts := rfl
  unfold readAtom
  simp [hpattern, hin, hitems.reads fuel (by omega), h fuel (by omega)]

/-! ## Blocks -/

theorem Fails.first (hbegins : closing .brace ts = none) (h : Fails readStmt 3 ts) : Fails readStmts 4 ts := by
  intro fuel hfuel
  obtain ⟨fuel, rfl⟩ := Nat.exists_eq_add_one_of_ne_zero (n := fuel) (by omega)
  unfold readStmts
  simp [hbegins, h fuel (by omega)]

theorem Fails.later (h : ReadsStmt ts s ended mid) (hrest : Fails readStmts 4 mid) : Fails readStmts 4 ts := by
  intro fuel hfuel
  have hlt := h.shorter
  obtain ⟨fuel, rfl⟩ := Nat.exists_eq_add_one_of_ne_zero (n := fuel) (by omega)
  unfold readStmts
  simp [h.begins, h.reads fuel (by omega), hrest fuel (by omega)]

theorem Fails.block (h : Fails readStmts 4 ts) : Fails readBlock 0 (.opening .brace :: ts) := by
  intro fuel hfuel
  simp only [List.length_cons] at hfuel
  obtain ⟨fuel, rfl⟩ := Nat.exists_eq_add_one_of_ne_zero (n := fuel) (by omega)
  have hopen : opening .brace (.opening .brace :: ts) = some ts := rfl
  rw [readBlock, hopen, Option.bind_some, h fuel (by omega)]

/-! ## Functions -/

variable {docs : List String} {tp tr : List Token}

theorem readFunction_no_parameters (hx : isName x = true) (hreceiver : readReceiver tp = (none, tp))
    (h : readList (readBinding fuel true) .parenthesis fuel tp = none) :
    readFunction fuel (.word "async" :: .word "fn" :: .word x :: .opening .parenthesis :: tp) = none := by
  rw [readFunction_head hx hreceiver, h]
  rfl

theorem readFunction_no_body (hx : isName x = true) (hreceiver : readReceiver tp = (none, tp))
    (hparameters : ReadsSignature tp bs (.sign '-' true :: .sign '>' false :: tr)) (hresult : ReadsTy tr t mid)
    (h : Fails readBlock 0 mid) (hfuel : 16 * tp.length ≤ fuel) :
    readFunction fuel (.word "async" :: .word "fn" :: .word x :: .opening .parenthesis :: tp) = none := by
  have hlt := hparameters.shorter
  have hlt' := hresult.shorter
  simp only [List.length_cons] at hlt
  obtain ⟨comma, hlist⟩ := hparameters.reads fuel fuel hfuel (by omega)
  have harrow : sign "->" (.sign '-' true :: .sign '>' false :: tr) = some tr := rfl
  rw [readFunction_head hx hreceiver]
  simp [hlist, harrow, hresult.reads fuel true (by omega), h fuel (by omega)]

/-- Nothing is read of a function for everybody that is none, behind its documentation. -/
theorem Refused.function (h : ∀ fuel, 16 * tp.length + 3 ≤ fuel →
    readFunction fuel (.word "async" :: .word "fn" :: .word x :: .opening .parenthesis :: tp) = none) :
    Refused (docs.map (.doc false) ++ .word "pub" :: .word "async" :: .word "fn" :: .word x :: .opening .parenthesis :: tp) := by
  have hread : Fails readItem 0 (docs.map (.doc false) ++
      .word "pub" :: .word "async" :: .word "fn" :: .word x :: .opening .parenthesis :: tp) := by
    intro fuel hfuel
    simp only [List.length_append, List.length_map, List.length_cons] at hfuel
    obtain ⟨fuel, rfl⟩ : ∃ n, fuel = n + 2 := ⟨fuel - 2, by omega⟩
    exact readItem_no_function (by omega) (h fuel (by omega))
  cases docs with
  | nil => exact .first rfl hread
  | cons d docs => exact .first rfl hread

/-! ### Types -/

/-- No path begins with a reserved word of another use. -/
theorem readPath_reserved (hx : inPath x = false) (inType : Bool) : readPath fuel inType (.word x :: rest) = none := by
  simp only [inPath, Bool.or_eq_false_iff, beq_eq_false_iff_ne] at hx
  cases fuel with
  | zero => rfl
  | succ fuel =>
    cases fuel with
    | zero => rfl
    | succ fuel =>
      have hglobal : optionalSign "::" (.word x :: rest) = (false, .word x :: rest) := rfl
      have hother : x ∉ pathWords := by simpa using hx.2
      unfold readPath readSegments
      simp [hglobal, hother, hx.1.1, hx.1.2]

theorem readPath_comma (inType : Bool) : readPath fuel inType (.sign ',' j :: rest) = none := by
  cases fuel with
  | zero => rfl
  | succ fuel =>
    have hglobal : optionalSign "::" (.sign ',' j :: rest) = (false, .sign ',' j :: rest) := by cases j <;> rfl
    cases fuel with
    | zero => rfl
    | succ fuel =>
      unfold readPath readSegments
      simp [hglobal]

theorem readTy_comma (plus : Bool) : readTy fuel plus (.sign ',' j :: rest) = none := by
  cases fuel with
  | zero => rfl
  | succ fuel =>
    have hamp : sign "&" (.sign ',' j :: rest) = none := rfl
    have hbang : sign "!" (.sign ',' j :: rest) = none := rfl
    unfold readTy
    simp [hamp, hbang, readPath_comma]

theorem readBounds_comma (plus : Bool) : readBounds fuel plus (.sign ',' j :: rest) = none := by
  cases fuel with
  | zero => rfl
  | succ fuel =>
    unfold readBounds
    simp [readPath_comma]

/-- A reserved word before a comma is no type, unless it leaves the type open or begins a
path. -/
theorem readTy_reserved (hx : inPath x = false) (hblank : x ≠ "_") (plus : Bool) :
    readTy fuel plus (.word x :: .sign ',' j :: rest) = none := by
  cases fuel with
  | zero => rfl
  | succ fuel =>
    have hamp : sign "&" (.word x :: .sign ',' j :: rest) = none := rfl
    have hbang : sign "!" (.word x :: .sign ',' j :: rest) = none := rfl
    unfold readTy
    split
    next heq => cases heq
    next heq => cases heq
    next heq => cases heq; simp [readBounds_comma]
    next heq => cases heq; simp [readBounds_comma]
    next heq => cases heq; exact absurd rfl hblank
    next => simp [hamp, hbang, readPath_reserved hx]

/-- Nor is it one behind the sign of a reference. -/
theorem readTy_reference_reserved (hx : inPath x = false) (hblank : x ≠ "_") (plus : Bool) :
    readTy fuel plus (.sign '&' j' :: .word x :: .sign ',' j :: rest) = none := by
  cases fuel with
  | zero => rfl
  | succ fuel =>
    have hamp : sign "&" (.sign '&' j' :: .word x :: .sign ',' j :: rest) = some (.word x :: .sign ',' j :: rest) := rfl
    unfold readTy
    by_cases hmut : x = "mut"
    · subst hmut
      simp [hamp, optionalWord, word, readTy_comma]
    · simp [hamp, optionalWord, word, hmut, readTy_reserved hx hblank]

end Retag.Code
