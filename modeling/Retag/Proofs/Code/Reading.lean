/-
What the readers of expressions and statements answer, construct by construct.

Each fact is of the form: if the parts of a construct are read from the tokens
where they stand, the construct is read from all of them, up to the tokens that
are left. Sixteen steps for every token left are enough for every reader, so a
reader that has taken a token can go down several levels.
-/
import Retag.Code.Read.Items

namespace Retag.Code

/-- A path of names, and what is left. -/
inductive ReadsPath : List Token → List String → List Token → Prop where
  | name {x : String} {rest : List Token} (h : isName x = true) (hend : sign "::" rest = none) :
      ReadsPath (.word x :: rest) [x] rest
  | cons {x : String} {j : Bool} {ts rest : List Token} {p : List String} (h : isName x = true)
      (hpath : ReadsPath ts p rest) : ReadsPath (.word x :: .sign ':' true :: .sign ':' j :: ts) (x :: p) rest

variable {ts rest mid : List Token} {e f : Expr} {es : List Expr} {p : List String} {fuel : Nat} {j : Bool}

/-- The path of some names. -/
def Expr.names (p : List String) : Expr := .path (p.map fun s => .mk s []) false

/-! ## Where expressions end -/

/-- Whether a call, an index, a dot or a question mark follows. -/
def trails : List Token → Bool
  | .opening .parenthesis :: _ | .opening .square :: _ => true
  | .sign c _ :: _ => c == '?' || c == '.'
  | _ => false

/-- Whether what follows ends an expression: a closing bracket, a block, a
semicolon or a comma. -/
def stops : List Token → Bool
  | .closing _ :: _ | .opening .brace :: _ => true
  | .sign c _ :: _ => c == ';' || c == ','
  | _ => false

theorem trails_of_stops (h : stops ts = true) : trails ts = false := by
  unfold stops at h
  split at h
  next => rfl
  next => rfl
  next =>
    simp only [Bool.or_eq_true, beq_iff_eq] at h
    rcases h with rfl | rfl <;> rfl
  next => cases h

theorem skipSign_of_ne {c d : Char} {cs : List Char} (h : c ≠ d) : skipSign (c :: cs) (.sign d j :: ts) = none := by
  cases cs with
  | nil => simp [skipSign, h]
  | cons => cases j <;> simp [skipSign, h]

theorem sign_other (h : ∀ c j tail, ts ≠ .sign c j :: tail) {s : String} (hs : s.toList ≠ []) : sign s ts = none := by
  unfold sign skipSign
  split
  next heq => exact absurd heq hs
  next => exact absurd rfl (h _ _ _)
  next => exact absurd rfl (h _ _ _)
  next => rfl

theorem signs_of_not_trails (h : trails ts = false) :
    sign "?" ts = none ∧ sees ".." ts = false ∧ sign "." ts = none := by
  cases ts with
  | nil => exact ⟨rfl, rfl, rfl⟩
  | cons t ts =>
    cases t with
    | sign c j =>
      simp only [trails, Bool.or_eq_false_iff, beq_eq_false_iff_ne] at h
      refine ⟨skipSign_of_ne (Ne.symm h.1), ?_, skipSign_of_ne (Ne.symm h.2)⟩
      have hrange : skipSign ['.', '.'] (.sign c j :: ts) = none := skipSign_of_ne (Ne.symm h.2)
      exact congrArg Option.isSome hrange
    | word | lifetime | literal | opening | closing | doc => exact ⟨rfl, rfl, rfl⟩

theorem readTrailers_end (h : trails ts = false) (hfuel : 0 < fuel) : readTrailers fuel e ts = some (e, ts) := by
  obtain ⟨fuel, rfl⟩ := Nat.exists_eq_add_one_of_ne_zero (Nat.ne_of_gt hfuel)
  obtain ⟨hask, hrange, hdot⟩ := signs_of_not_trails h
  unfold readTrailers
  split
  next => cases h
  next => cases h
  next => simp only [hask, hrange, hdot, Bool.false_eq_true, if_false]

theorem readOperator_stops (h : stops ts = true) :
    readOperator ts = none ∧ seesAssign ts = false ∧ word "as" ts = none := by
  unfold stops at h
  split at h
  next => exact ⟨rfl, rfl, rfl⟩
  next => exact ⟨rfl, rfl, rfl⟩
  next c j ts =>
    simp only [Bool.or_eq_true, beq_iff_eq] at h
    rcases h with rfl | rfl <;> cases j <;> exact ⟨rfl, rfl, rfl⟩
  next => cases h

theorem readOperators_end (h : stops ts = true) (hfuel : 0 < fuel) (level : Nat) :
    readOperators fuel e level ts = some (e, ts) := by
  obtain ⟨fuel, rfl⟩ := Nat.exists_eq_add_one_of_ne_zero (Nat.ne_of_gt hfuel)
  obtain ⟨hoperator, hassign, has⟩ := readOperator_stops h
  unfold readOperators
  simp only [hoperator, hassign, has, Bool.false_eq_true, and_false, if_false]

theorem readStronger_end (h : stops ts = true) (hfuel : 0 < fuel) {level : Nat} (hlevel : level ≠ 0) :
    readStronger fuel e level ts = some (e, ts) := by
  obtain ⟨fuel, rfl⟩ := Nat.exists_eq_add_one_of_ne_zero (Nat.ne_of_gt hfuel)
  obtain ⟨hoperator, hassign, has⟩ := readOperator_stops h
  have hnext : nextLevel ts = 0 := by simp [nextLevel, hoperator, hassign, has]
  unfold readStronger
  simp only [hnext]
  rw [if_neg (by omega)]

/-! ## Names and paths -/

theorem ReadsPath.begins (h : ReadsPath ts p rest) : ∃ x tail, ts = .word x :: tail ∧ isName x = true := by
  cases h with
  | name h => exact ⟨_, _, rfl, h⟩
  | cons h => exact ⟨_, _, rfl, h⟩

theorem ReadsPath.shorter (h : ReadsPath ts p rest) : rest.length < ts.length := by
  induction h with
  | name => simp
  | cons _ _ ih => simp only [List.length_cons]; omega

theorem not_pathWord {x : String} (h : isName x = true) : x ∉ pathWords := by
  intro hx
  simp only [pathWords, List.mem_cons, List.not_mem_nil, or_false] at hx
  rcases hx with rfl | rfl | rfl | rfl <;> simp [isName, reserved] at h

theorem ReadsPath.segments (h : ReadsPath ts p rest) (hfuel : ts.length ≤ fuel) :
    readSegments fuel false ts = some (p.map fun s => .mk s [], rest) := by
  induction h generalizing fuel with
  | name h hend =>
    obtain ⟨fuel, rfl⟩ := Nat.exists_eq_add_one_of_ne_zero (n := fuel) (by simp only [List.length_cons] at hfuel; omega)
    unfold readSegments
    simp [not_pathWord h, h, argumentsAfter, hend]
  | @cons x j ts rest p h hpath ih =>
    simp only [List.length_cons] at hfuel
    obtain ⟨fuel, rfl⟩ := Nat.exists_eq_add_one_of_ne_zero (n := fuel) (by omega)
    obtain ⟨y, tail, rfl, -⟩ := hpath.begins
    have hskip : sign "::" (.sign ':' true :: .sign ':' j :: .word y :: tail) = some (.word y :: tail) := rfl
    have hangle : sign "<" (.word y :: tail) = none := rfl
    have hlater := ih (by simp only [List.length_cons] at hfuel ⊢; omega : (Token.word y :: tail).length ≤ fuel)
    unfold readSegments
    simp [not_pathWord h, h, argumentsAfter, hskip, hangle, hlater]

theorem plainPath_names (p : List String) : plainPath (p.map fun s => .mk s []) = some p := by
  induction p with
  | nil => rfl
  | cons x p ih =>
    unfold plainPath at ih ⊢
    rw [List.map_cons, List.mapM_cons, ih]
    rfl

/-! ## Operands

`ReadsChain` is about an operand that may still go on with calls and dots,
`ReadsUnary` about a whole one. -/

structure ReadsChain (ts : List Token) (e : Expr) (rest : List Token) : Prop where
  shorter : rest.length < ts.length
  reads : ∀ fuel, 16 * ts.length ≤ fuel + 1 →
    ∃ fuel', 16 * rest.length + 8 ≤ fuel' ∧ readUnary fuel ts = readTrailers fuel' e rest

structure ReadsUnary (ts : List Token) (e : Expr) (rest : List Token) : Prop where
  shorter : rest.length < ts.length
  reads : ∀ fuel, 16 * ts.length ≤ fuel + 1 → readUnary fuel ts = some (e, rest)

structure ReadsExpr (ts : List Token) (e : Expr) (rest : List Token) : Prop where
  shorter : rest.length < ts.length
  reads : ∀ fuel, 16 * ts.length ≤ fuel → readExpr fuel ts = some (e, rest)

/-- Arguments up to and with the bracket that closes them. -/
structure ReadsArgs (ts : List Token) (es : List Expr) (rest : List Token) : Prop where
  shorter : rest.length < ts.length
  reads : ∀ fuel n, 16 * ts.length ≤ fuel → ts.length ≤ n →
    ∃ comma, readList (readExpr fuel) .parenthesis n ts = some ((es, comma), rest)

theorem ReadsUnary.of_chain (h : ReadsChain ts e rest) (hend : trails rest = false) : ReadsUnary ts e rest := by
  refine ⟨h.shorter, fun fuel hfuel => ?_⟩
  obtain ⟨fuel', hfuel', heq⟩ := h.reads fuel hfuel
  rw [heq, readTrailers_end hend (by omega)]

theorem ReadsExpr.of_unary (h : ReadsUnary ts e rest) (hend : stops rest = true) : ReadsExpr ts e rest := by
  refine ⟨h.shorter, fun fuel hfuel => ?_⟩
  have hlt := h.shorter
  obtain ⟨fuel, rfl⟩ := Nat.exists_eq_add_one_of_ne_zero (n := fuel) (by omega)
  unfold readExpr
  rw [h.reads fuel hfuel]
  exact readOperators_end hend (by omega) 0

theorem ReadsExpr.of_chain (h : ReadsChain ts e rest) (hend : stops rest = true) : ReadsExpr ts e rest :=
  .of_unary (.of_chain h (trails_of_stops hend)) hend

/-! ### What chains begin with -/

/-- An operand that begins with no sign. -/
theorem readUnary_atom (h : ∀ c j tail, ts ≠ .sign c j :: tail) :
    readUnary (fuel + 1) ts = (readAtom fuel ts).bind fun (e, ts) => readTrailers fuel e ts := by
  have hamp : sign "&" ts = none := sign_other h (by decide)
  have hothers : (["!", "-", "*"].findSome? fun s => (sign s ts).map (s, ·)) = none := by
    simp only [List.findSome?_cons, sign_other h (by decide : "!".toList ≠ []),
      sign_other h (by decide : "-".toList ≠ []), sign_other h (by decide : "*".toList ≠ []), Option.map_none]
    rfl
  unfold readUnary
  simp only [hamp, hothers]
  rfl

theorem ReadsChain.of_atom (h : ∀ c j tail, ts ≠ .sign c j :: tail) (hshort : rest.length < ts.length)
    (hread : ∀ fuel, 16 * ts.length ≤ fuel + 2 → readAtom fuel ts = some (e, rest)) : ReadsChain ts e rest := by
  refine ⟨hshort, fun fuel hfuel => ?_⟩
  obtain ⟨fuel, rfl⟩ := Nat.exists_eq_add_one_of_ne_zero (n := fuel) (by omega)
  exact ⟨fuel, by omega, by rw [readUnary_atom h, hread fuel hfuel, Option.bind_some]⟩

theorem ReadsChain.literal (s : String) (rest : List Token) : ReadsChain (.literal s :: rest) (.literal s) rest := by
  refine .of_atom (by simp) (by simp) fun fuel hfuel => ?_
  obtain ⟨fuel, rfl⟩ := Nat.exists_eq_add_one_of_ne_zero (n := fuel) (by simp only [List.length_cons] at hfuel; omega)
  rfl

/-- The tuple of nothing. -/
theorem ReadsChain.unit (rest : List Token) :
    ReadsChain (.opening .parenthesis :: .closing .parenthesis :: rest) (.tuple []) rest := by
  refine .of_atom (by simp) (by simp only [List.length_cons]; omega) fun fuel hfuel => ?_
  obtain ⟨fuel, rfl⟩ : ∃ n, fuel = n + 2 := ⟨fuel - 2, by simp only [List.length_cons] at hfuel; omega⟩
  rfl

/-- What begins with a name is a path, or the call of a macro. -/
theorem readAtom_path {x : String} {tail : List Token} (h : isName x = true)
    (hread : readPath fuel false (.word x :: tail) = some ((p.map fun s => .mk s [], false), rest)) :
    readAtom (fuel + 1) (.word x :: tail) =
      if sees "!" rest && !sees "!=" rest then (readMacroCall p false rest).map fun (m, ts) => (.macroCall m, ts)
      else some (.names p, rest) := by
  have hbar : sign "|" (.word x :: tail) = none := rfl
  unfold readAtom
  split
  -- Each word with a meaning of its own is reserved.
  all_goals
    first
    | (next heq => cases heq; done)
    | (next heq => cases heq; exact absurd h (by decide))
    | skip
  simp only [hbar, hread, Option.bind_eq_bind, Option.bind_some, plainPath_names]
  split
  next => cases readMacroCall p false rest <;> rfl
  next => rfl

theorem ReadsPath.read (h : ReadsPath ts p rest) (hfuel : 16 * ts.length ≤ fuel + 3) :
    readPath fuel false ts = some ((p.map fun s => .mk s [], false), rest) := by
  have hlt := h.shorter
  obtain ⟨fuel, rfl⟩ := Nat.exists_eq_add_one_of_ne_zero (n := fuel) (by omega)
  obtain ⟨x, tail, rfl, -⟩ := h.begins
  have hglobal : optionalSign "::" (.word x :: tail) = (false, .word x :: tail) := rfl
  unfold readPath
  simp [hglobal, h.segments (by omega : _ ≤ fuel)]

theorem ReadsChain.path (h : ReadsPath ts p rest) (hbang : sees "!" rest = false) : ReadsChain ts (.names p) rest := by
  obtain ⟨x, tail, rfl, hx⟩ := h.begins
  refine .of_atom (by simp) h.shorter fun fuel hfuel => ?_
  obtain ⟨fuel, rfl⟩ := Nat.exists_eq_add_one_of_ne_zero (n := fuel) (by simp only [List.length_cons] at hfuel; omega)
  rw [readAtom_path hx (h.read (by omega)), hbang]
  rfl

/-- The call of a macro with square brackets. -/
theorem ReadsChain.listCall {x : String} {inner : List Token} (hx : isName x = true)
    (h : readBalanced .square [] ts = some (inner, rest)) (hlt : rest.length < ts.length) :
    ReadsChain (.word x :: .sign '!' j :: .opening .square :: ts) (.macroCall ⟨[x], false, .square, inner⟩) rest := by
  refine .of_atom (by simp) (by simp only [List.length_cons]; omega) fun fuel hfuel => ?_
  obtain ⟨fuel, rfl⟩ := Nat.exists_eq_add_one_of_ne_zero (n := fuel) (by simp only [List.length_cons] at hfuel; omega)
  have hcolons : sign "::" (.sign '!' j :: .opening .square :: ts) = none := by cases j <;> rfl
  rw [readAtom_path hx (ReadsPath.read (.name hx hcolons) (by omega))]
  have hsees : (sees "!" (.sign '!' j :: .opening .square :: ts) &&
      !sees "!=" (.sign '!' j :: .opening .square :: ts)) = true := by cases j <;> rfl
  have hsign : sign "!" (.sign '!' j :: .opening .square :: ts) = some (.opening .square :: ts) := rfl
  rw [if_pos hsees]
  simp [readMacroCall, hsign, h]

/-! ### What chains go on with -/

/-- A chain goes on if reading what follows it does. -/
theorem ReadsChain.trail (h : ReadsChain ts e mid) (hlt : rest.length < mid.length)
    (hstep : ∀ fuel, 16 * mid.length + 7 ≤ fuel → readTrailers (fuel + 1) e mid = readTrailers fuel f rest) :
    ReadsChain ts f rest := by
  refine ⟨Nat.lt_trans hlt h.shorter, fun fuel hfuel => ?_⟩
  obtain ⟨fuel', hfuel', heq⟩ := h.reads fuel hfuel
  obtain ⟨fuel', rfl⟩ := Nat.exists_eq_add_one_of_ne_zero (n := fuel') (by omega)
  exact ⟨fuel', by omega, by rw [heq, hstep fuel' (by omega)]⟩

theorem ReadsChain.attempt (h : ReadsChain ts e (.sign '?' j :: rest)) : ReadsChain ts (.attempt e) rest := by
  refine h.trail (by simp) fun fuel _ => ?_
  have hask : sign "?" (.sign '?' j :: rest) = some rest := rfl
  rw [readTrailers]
  simp only [hask]
  all_goals simp

theorem readTrailers_dot {x : String} :
    readTrailers (fuel + 1) e (.sign '.' j :: .word x :: rest) =
      if x = "await" then readTrailers fuel (.await e) rest
      else (readName (.word x :: rest)).bind fun (name, ts) =>
        match sign "::" ts with
        | some ts => do
          let (types, ts) ← readArguments fuel (← sign "<" ts)
          let ts ← opening .parenthesis ts
          let ((arguments, _), ts) ← readList (readExpr fuel) .parenthesis fuel ts
          readTrailers fuel (.method e name types arguments) ts
        | none =>
          match opening .parenthesis ts with
          | some ts => do
            let ((arguments, _), ts) ← readList (readExpr fuel) .parenthesis fuel ts
            readTrailers fuel (.method e name [] arguments) ts
          | none => readTrailers fuel (.field e name) ts := by
  have hask : sign "?" (.sign '.' j :: .word x :: rest) = none := rfl
  have hrange : sees ".." (.sign '.' j :: .word x :: rest) = false := by cases j <;> rfl
  have hdot : sign "." (.sign '.' j :: .word x :: rest) = some (.word x :: rest) := rfl
  rw [readTrailers]
  · simp only [hask, hrange, hdot, Bool.false_eq_true, if_false]
    split
    next heq => cases heq
    next heq => cases heq; simp
    next heq => cases heq
    next hne _ heq =>
      cases heq
      rw [if_neg fun h => hne rest (by rw [h])]
      rfl
  all_goals simp

theorem ReadsChain.await (h : ReadsChain ts e (.sign '.' j :: .word "await" :: rest)) :
    ReadsChain ts (.await e) rest := by
  refine h.trail (by simp only [List.length_cons]; omega) fun fuel _ => ?_
  rw [readTrailers_dot, if_pos rfl]

/-- The field at a position. -/
theorem ReadsChain.position {s x : String} (h : ReadsChain ts e (.sign '.' j :: .literal s :: rest))
    (hs : positions? s = some [x]) : ReadsChain ts (.field e x) rest := by
  refine h.trail (by simp only [List.length_cons]; omega) fun fuel _ => ?_
  have hask : sign "?" (.sign '.' j :: .literal s :: rest) = none := rfl
  have hrange : sees ".." (.sign '.' j :: .literal s :: rest) = false := by cases j <;> rfl
  have hdot : sign "." (.sign '.' j :: .literal s :: rest) = some (.literal s :: rest) := rfl
  rw [readTrailers]
  · simp [hask, hrange, hdot, hs]
  all_goals simp

theorem ReadsChain.method {m : String} (h : ReadsChain ts e (.sign '.' j :: .word m :: .opening .parenthesis :: mid))
    (hm : isName m = true) (hargs : ReadsArgs mid es rest) : ReadsChain ts (.method e m [] es) rest := by
  have hlt := hargs.shorter
  refine h.trail (by simp only [List.length_cons]; omega) fun fuel hfuel => ?_
  simp only [List.length_cons] at hfuel
  have hawait : m ≠ "await" := by rintro rfl; revert hm; decide
  have hname : readName (.word m :: .opening .parenthesis :: mid) = some (m, .opening .parenthesis :: mid) := if_pos hm
  have hcolons : sign "::" (.opening .parenthesis :: mid) = none := rfl
  have hopen : opening .parenthesis (.opening .parenthesis :: mid) = some mid := rfl
  obtain ⟨comma, hlist⟩ := hargs.reads fuel fuel (by omega) (by omega)
  rw [readTrailers_dot, if_neg hawait, hname]
  simp [hcolons, hopen, hlist]

theorem ReadsChain.call (h : ReadsChain ts e (.opening .parenthesis :: mid)) (hargs : ReadsArgs mid es rest) :
    ReadsChain ts (.call e es) rest := by
  have hlt := hargs.shorter
  refine h.trail (by simp only [List.length_cons]; omega) fun fuel hfuel => ?_
  simp only [List.length_cons] at hfuel
  obtain ⟨comma, hlist⟩ := hargs.reads fuel fuel (by omega) (by omega)
  rw [readTrailers, hlist]
  rfl

/-! ### Signs before an operand -/

theorem ReadsUnary.not (h : ReadsUnary ts e rest) : ReadsUnary (.sign '!' j :: ts) (.unary "!" e) rest := by
  have hlt := h.shorter
  refine ⟨by simp only [List.length_cons]; omega, fun fuel hfuel => ?_⟩
  simp only [List.length_cons] at hfuel
  obtain ⟨fuel, rfl⟩ := Nat.exists_eq_add_one_of_ne_zero (n := fuel) (by omega)
  have hamp : sign "&" (.sign '!' j :: ts) = none := rfl
  have hbang : (["!", "-", "*"].findSome? fun s => (sign s (.sign '!' j :: ts)).map (s, ·)) = some ("!", ts) := rfl
  unfold readUnary
  simp [hamp, hbang, h.reads fuel (by omega)]

theorem ReadsUnary.reference {x : String} {tail : List Token} (hx : x ≠ "mut")
    (h : ReadsUnary (.word x :: tail) e rest) :
    ReadsUnary (.sign '&' j :: .word x :: tail) (.reference false e) rest := by
  have hlt := h.shorter
  refine ⟨by simp only [List.length_cons] at hlt ⊢; omega, fun fuel hfuel => ?_⟩
  simp only [List.length_cons] at hfuel
  obtain ⟨fuel, rfl⟩ := Nat.exists_eq_add_one_of_ne_zero (n := fuel) (by omega)
  have hamp : sign "&" (.sign '&' j :: .word x :: tail) = some (.word x :: tail) := rfl
  have hmut : optionalWord "mut" (.word x :: tail) = (false, .word x :: tail) := by simp [optionalWord, word, hx]
  unfold readUnary
  simp [hamp, hmut, h.reads fuel (by simp only [List.length_cons]; omega)]

/-! ## Expressions -/

theorem ReadsExpr.and (ha : ReadsUnary ts e (.sign '&' true :: .sign '&' j :: mid)) (hb : ReadsUnary mid f rest)
    (hend : stops rest = true) : ReadsExpr ts (.binary "&&" e f) rest := by
  have hlt := ha.shorter
  have hlt' := hb.shorter
  simp only [List.length_cons] at hlt
  refine ⟨by omega, fun fuel hfuel => ?_⟩
  obtain ⟨fuel, rfl⟩ : ∃ n, fuel = n + 3 := ⟨fuel - 3, by omega⟩
  have hoperator : readOperator (.sign '&' true :: .sign '&' j :: mid) = some ("&&", mid) := by cases j <;> rfl
  have hlevel : levelOf "&&" = 4 := rfl
  have hright : readRight (fuel + 1) 4 mid = some (f, rest) := by
    rw [readRight, hb.reads fuel (by omega)]
    exact readStronger_end hend (by omega) (by decide)
  rw [readExpr, ha.reads (fuel + 2) (by omega)]
  simp only [Option.bind_eq_bind, Option.bind_some]
  rw [readOperators]
  simp only [hoperator, hlevel, hright, Option.bind_eq_bind, Option.bind_some]
  rw [if_neg (by decide), if_neg fun h => absurd h.1 (by decide)]
  exact readOperators_end hend (by omega) 0

theorem ReadsExpr.assign (ha : ReadsUnary ts e (.sign '=' false :: mid)) (hb : ReadsUnary mid f rest)
    (hend : stops rest = true) : ReadsExpr ts (.assign e f) rest := by
  have hlt := ha.shorter
  have hlt' := hb.shorter
  simp only [List.length_cons] at hlt
  refine ⟨by omega, fun fuel hfuel => ?_⟩
  obtain ⟨fuel, rfl⟩ : ∃ n, fuel = n + 3 := ⟨fuel - 3, by omega⟩
  have hoperator : readOperator (.sign '=' false :: mid) = none := rfl
  have hassign : seesAssign (.sign '=' false :: mid) = true := rfl
  have hsign : sign "=" (.sign '=' false :: mid) = some mid := rfl
  have hright : readRight (fuel + 1) assignLevel mid = some (f, rest) := by
    rw [readRight, hb.reads fuel (by omega)]
    exact readStronger_end hend (by omega) (by decide)
  rw [readExpr, ha.reads (fuel + 2) (by omega)]
  simp only [Option.bind_eq_bind, Option.bind_some]
  rw [readOperators]
  simp only [hoperator, hassign, hsign, hright, Option.bind_eq_bind, Option.bind_some]
  rw [if_pos (by decide)]
  exact readOperators_end hend (by omega) 0

/-- An expression that begins with a word or a bar and reads as a whole. -/
theorem ReadsExpr.of_atom (hshort : rest.length < ts.length) (hend : stops rest = true)
    (hread : ∀ fuel, 16 * ts.length ≤ fuel + 2 →
      readUnary (fuel + 1) ts = (readAtom fuel ts).bind (fun (e, ts) => readTrailers fuel e ts) ∧
        readAtom fuel ts = some (e, rest)) : ReadsExpr ts e rest := by
  refine .of_unary ⟨hshort, fun fuel hfuel => ?_⟩ hend
  obtain ⟨fuel, rfl⟩ := Nat.exists_eq_add_one_of_ne_zero (n := fuel) (by omega)
  obtain ⟨hunary, hatom⟩ := hread fuel hfuel
  rw [hunary, hatom, Option.bind_some]
  exact readTrailers_end (trails_of_stops hend) (by omega)

/-- A name as a pattern. -/
theorem readPattern_name {x : String} (hx : isName x = true) (hend : sign "::" rest = none)
    (hopen : ∀ tail, rest ≠ .opening .parenthesis :: tail) (hfuel : 16 * (rest.length + 1) ≤ fuel + 2) :
    readPattern fuel (.word x :: rest) = some (.name false false x, rest) := by
  obtain ⟨fuel, rfl⟩ := Nat.exists_eq_add_one_of_ne_zero (n := fuel) (by omega)
  have hamp : sign "&" (.word x :: rest) = none := rfl
  have hpath : readPath fuel false (.word x :: rest) = some (([x].map fun s => .mk s [], false), rest) :=
    ReadsPath.read (.name hx hend) (by simp only [List.length_cons]; omega)
  unfold readPattern
  split
  -- Each word with a meaning of its own is reserved.
  all_goals
    first
    | (next heq => cases heq; done)
    | (next heq => cases heq; exact absurd hx (by decide))
    | skip
  simp only [hamp, hpath, Option.bind_eq_bind, Option.bind_some, List.map_cons, List.map_nil]
  rw [if_pos hx]

/-- A closure of one parameter. -/
theorem ReadsExpr.closure {x : String} {j' : Bool} (hx : isName x = true) (h : ReadsExpr ts e rest) (hend : stops rest = true) :
    ReadsExpr (.sign '|' j :: .word x :: .sign '|' j' :: ts)
      (.closure false [⟨.name false false x, none⟩] e) rest := by
  have hlt := h.shorter
  refine .of_atom (by simp only [List.length_cons]; omega) hend fun fuel hfuel => ⟨rfl, ?_⟩
  simp only [List.length_cons] at hfuel
  obtain ⟨fuel, rfl⟩ : ∃ n, fuel = n + 2 := ⟨fuel - 2, by omega⟩
  have hpattern : readPattern fuel (.word x :: .sign '|' j' :: ts) = some (.name false false x, .sign '|' j' :: ts) :=
    readPattern_name hx (by cases j' <;> rfl) (by simp) (by simp only [List.length_cons]; omega)
  have hbar : sign "|" (.word x :: .sign '|' j' :: ts) = none := rfl
  have hcolon : sign ":" (.sign '|' j' :: ts) = none := rfl
  have hbar' : sign "|" (.sign '|' j' :: ts) = some ts := rfl
  have hparameters : readParameters (fuel + 1) (.word x :: .sign '|' j' :: ts) =
      some ([⟨.name false false x, none⟩], ts) := by
    unfold readParameters
    simp [hbar, readBinding, hpattern, hcolon, hbar']
  have hfirst : sign "|" (.sign '|' j :: .word x :: .sign '|' j' :: ts) =
      some (.word x :: .sign '|' j' :: ts) := rfl
  rw [readAtom]
  · simp [hfirst, hparameters, h.reads (fuel + 1) (by omega)]
  all_goals simp

/-- Leaving with a value. -/
theorem ReadsExpr.ret {x : String} {tail : List Token} (hx : x ≠ "as") (h : ReadsExpr (.word x :: tail) e rest)
    (hend : stops rest = true) : ReadsExpr (.word "return" :: .word x :: tail) (.ret (some e)) rest := by
  have hlt := h.shorter
  refine .of_atom (by simp only [List.length_cons] at hlt ⊢; omega) hend fun fuel hfuel =>
    ⟨readUnary_atom (by simp), ?_⟩
  simp only [List.length_cons] at hfuel
  obtain ⟨fuel, rfl⟩ := Nat.exists_eq_add_one_of_ne_zero (n := fuel) (by omega)
  have hbegins : beginsExpr (.word x :: tail) = true := by simpa [beginsExpr] using hx
  unfold readAtom
  simp [hbegins, h.reads fuel (by simp only [List.length_cons]; omega)]

/-! ## Arguments -/

theorem ReadsArgs.nil (rest : List Token) : ReadsArgs (.closing .parenthesis :: rest) [] rest := by
  refine ⟨by simp, fun fuel n _ hn => ⟨false, ?_⟩⟩
  obtain ⟨n, rfl⟩ := Nat.exists_eq_add_one_of_ne_zero (n := n) (by simp only [List.length_cons] at hn; omega)
  rfl

theorem ReadsArgs.one (hopen : closing .parenthesis ts = none) (h : ReadsExpr ts e (.closing .parenthesis :: rest)) :
    ReadsArgs ts [e] rest := by
  have hlt := h.shorter
  simp only [List.length_cons] at hlt
  refine ⟨by omega, fun fuel n hfuel hn => ⟨false, ?_⟩⟩
  obtain ⟨n, rfl⟩ := Nat.exists_eq_add_one_of_ne_zero (n := n) (by omega)
  have hclose : closing .parenthesis (.closing .parenthesis :: rest) = some rest := rfl
  unfold readList
  simp [hopen, h.reads fuel hfuel, hclose]

/-- An argument with a comma behind it. -/
theorem ReadsArgs.cons (hopen : closing .parenthesis ts = none) (h : ReadsExpr ts e (.sign ',' j :: mid))
    (hrest : ReadsArgs mid es rest) : ReadsArgs ts (e :: es) rest := by
  have hlt := h.shorter
  have hlt' := hrest.shorter
  simp only [List.length_cons] at hlt
  refine ⟨by omega, fun fuel n hfuel hn => ?_⟩
  obtain ⟨n, rfl⟩ := Nat.exists_eq_add_one_of_ne_zero (n := n) (by omega)
  obtain ⟨comma, hlater⟩ := hrest.reads fuel n (by omega) (by omega)
  have hclose : closing .parenthesis (.sign ',' j :: mid) = none := rfl
  have hcomma : sign "," (.sign ',' j :: mid) = some mid := rfl
  refine ⟨if es.isEmpty then true else comma, ?_⟩
  unfold readList
  simp [hopen, h.reads fuel hfuel, hclose, hcomma, hlater]

/-! ## Statements -/

variable {s : Stmt} {ss : List Stmt} {b : Binding} {x : String} {tail : List Token} {ended : Bool}

/-- Statements up to and with the brace that closes their block. -/
structure ReadsStmts (ts : List Token) (ss : List Stmt) (rest : List Token) : Prop where
  shorter : rest.length < ts.length
  reads : ∀ fuel, 16 * ts.length + 4 ≤ fuel → readStmts fuel ts = some (ss, rest)

structure ReadsStmt (ts : List Token) (s : Stmt) (ended : Bool) (rest : List Token) : Prop where
  shorter : rest.length < ts.length
  begins : closing .brace ts = none
  reads : ∀ fuel, 16 * ts.length + 3 ≤ fuel → readStmt fuel ts = some (s, ended, rest)

structure ReadsBlock (ts : List Token) (ss : List Stmt) (rest : List Token) : Prop where
  shorter : rest.length < ts.length
  reads : ∀ fuel, 16 * ts.length ≤ fuel → readBlock fuel ts = some (ss, rest)

structure ReadsBinding (ts : List Token) (b : Binding) (rest : List Token) : Prop where
  shorter : rest.length < ts.length
  reads : ∀ fuel, 16 * ts.length ≤ fuel → readBinding fuel false ts = some (b, rest)

theorem ReadsBlock.intro (h : ReadsStmts ts ss rest) : ReadsBlock (.opening .brace :: ts) ss rest := by
  have hlt := h.shorter
  refine ⟨by simp only [List.length_cons]; omega, fun fuel hfuel => ?_⟩
  simp only [List.length_cons] at hfuel
  obtain ⟨fuel, rfl⟩ := Nat.exists_eq_add_one_of_ne_zero (n := fuel) (by omega)
  have hopen : opening .brace (.opening .brace :: ts) = some ts := rfl
  rw [readBlock, hopen, Option.bind_some, h.reads fuel (by omega)]

theorem ReadsStmts.nil (rest : List Token) : ReadsStmts (.closing .brace :: rest) [] rest := by
  refine ⟨by simp, fun fuel hfuel => ?_⟩
  obtain ⟨fuel, rfl⟩ := Nat.exists_eq_add_one_of_ne_zero (n := fuel) (by omega)
  rfl

theorem ReadsStmts.cons (h : ReadsStmt ts s ended mid) (hended : ended = true ∨ (closing .brace mid).isNone = false)
    (hrest : ReadsStmts mid ss rest) : ReadsStmts ts (s :: ss) rest := by
  have hlt := h.shorter
  have hlt' := hrest.shorter
  refine ⟨by omega, fun fuel hfuel => ?_⟩
  obtain ⟨fuel, rfl⟩ := Nat.exists_eq_add_one_of_ne_zero (n := fuel) (by omega)
  have hgoes : (!ended && (closing .brace mid).isNone) = false := by
    rcases hended with rfl | hn
    · rfl
    · simp [hn]
  unfold readStmts
  simp only [h.begins, h.reads fuel (by omega), hrest.reads fuel (by omega), hgoes, Option.bind_eq_bind, Option.bind_some,
    Bool.false_eq_true, if_false]

/-! ### Bindings -/

theorem ReadsBinding.name (hx : isName x = true) (hend : sign ":" rest = none)
    (hopen : ∀ tail, rest ≠ .opening .parenthesis :: tail) : ReadsBinding (.word x :: rest) ⟨.name false false x, none⟩ rest := by
  refine ⟨by simp, fun fuel hfuel => ?_⟩
  have hcolons : sign "::" rest = none := by
    revert hend
    unfold sign
    cases rest with
    | nil => intro _; rfl
    | cons t rest =>
      cases t with
      | sign c j =>
        intro h
        have hc : ':' ≠ c := by rintro rfl; cases h
        exact skipSign_of_ne hc
      | word | lifetime | literal | opening | closing | doc => intro _; rfl
  have hpattern : readPattern fuel (.word x :: rest) = some (.name false false x, rest) :=
    readPattern_name hx hcolons hopen (by simp only [List.length_cons] at hfuel; omega)
  unfold readBinding
  simp [hpattern, hend]

theorem ReadsBinding.mutable (hx : isName x = true) (hend : sign ":" rest = none) :
    ReadsBinding (.word "mut" :: .word x :: rest) ⟨.name false true x, none⟩ rest := by
  refine ⟨by simp only [List.length_cons]; omega, fun fuel hfuel => ?_⟩
  obtain ⟨fuel, rfl⟩ := Nat.exists_eq_add_one_of_ne_zero (n := fuel) (by simp only [List.length_cons] at hfuel; omega)
  have hname : readName (.word x :: rest) = some (x, rest) := if_pos hx
  unfold readBinding readPattern
  simp [hname, hend]

/-- A name as a type. -/
theorem readTy_name {t : String} (ht : isName t = true) (hfuel : 3 ≤ fuel) :
    readTy fuel true (.word t :: .sign '=' false :: rest) = some (.path [.mk t []] false, .sign '=' false :: rest) := by
  obtain ⟨fuel, rfl⟩ : ∃ n, fuel = n + 3 := ⟨fuel - 3, by omega⟩
  have hsegments : readSegments (fuel + 1) true (.word t :: .sign '=' false :: rest) =
      some ([.mk t []], .sign '=' false :: rest) := by
    have hcolons : sign "::" (.sign '=' false :: rest) = none := rfl
    have hless : sign "<" (.sign '=' false :: rest) = none := rfl
    unfold readSegments
    simp [not_pathWord ht, ht, argumentsAfter, hcolons, hless]
  have hpath : readPath (fuel + 2) true (.word t :: .sign '=' false :: rest) =
      some (([.mk t []], false), .sign '=' false :: rest) := by
    have hglobal : optionalSign "::" (.word t :: .sign '=' false :: rest) = (false, .word t :: .sign '=' false :: rest) := rfl
    unfold readPath
    simp [hglobal, hsegments]
  have hamp : sign "&" (.word t :: .sign '=' false :: rest) = none := rfl
  have hbang : sign "!" (.word t :: .sign '=' false :: rest) = none := rfl
  unfold readTy
  split
  all_goals
    first
    | (next heq => cases heq; done)
    | (next heq => cases heq; exact absurd ht (by decide))
    | skip
  simp only [hamp, hbang, hpath, Option.bind_eq_bind, Option.bind_some]

/-- A name with a type that is a name too. -/
theorem ReadsBinding.typed {t : String} (hx : isName x = true) (ht : isName t = true) :
    ReadsBinding (.word x :: .sign ':' false :: .word t :: .sign '=' false :: rest)
      ⟨.name false false x, some (.path [.mk t []] false)⟩ (.sign '=' false :: rest) := by
  refine ⟨by simp only [List.length_cons]; omega, fun fuel hfuel => ?_⟩
  simp only [List.length_cons] at hfuel
  have hpattern : readPattern fuel (.word x :: .sign ':' false :: .word t :: .sign '=' false :: rest) =
      some (.name false false x, .sign ':' false :: .word t :: .sign '=' false :: rest) :=
    readPattern_name hx rfl (by simp) (by simp only [List.length_cons]; omega)
  have hcolon : sign ":" (.sign ':' false :: .word t :: .sign '=' false :: rest) =
      some (.word t :: .sign '=' false :: rest) := rfl
  have hty : readTy fuel true (.word t :: .sign '=' false :: rest) =
      some (.path [.mk t []] false, .sign '=' false :: rest) := by
    exact readTy_name ht (by omega)
  unfold readBinding
  simp [hpattern, hcolon, hty]

theorem ReadsStmt.binding (hb : ReadsBinding ts b (.sign '=' false :: mid))
    (h : ReadsExpr mid e (.sign ';' j :: rest)) :
    ReadsStmt (.word "let" :: ts) (.binding b (some e)) true rest := by
  have hlt := hb.shorter
  have hlt' := h.shorter
  simp only [List.length_cons] at hlt hlt'
  refine ⟨by simp only [List.length_cons]; omega, rfl, fun fuel hfuel => ?_⟩
  simp only [List.length_cons] at hfuel
  obtain ⟨fuel, rfl⟩ := Nat.exists_eq_add_one_of_ne_zero (n := fuel) (by omega)
  have hsemicolon : sign ";" (.word "let" :: ts) = none := rfl
  have hassign : seesAssign (.sign '=' false :: mid) = true := rfl
  have hsign : sign "=" (.sign '=' false :: mid) = some mid := rfl
  have hend : sign ";" (.sign ';' j :: rest) = some rest := rfl
  unfold readStmt
  simp [hsemicolon, hb.reads fuel (by omega), hassign, hsign, h.reads fuel (by omega), hend]

/-! ### Expressions as statements -/

/-- Words that statements of other forms begin with. -/
def openers : List String := ["let", "if", "for", "while", "loop", "unsafe"]

/-- A path of one word, if a path begins with the word at all. -/
theorem readPath_word (fuel : Nat) (x : String) {t : Token} (hcolons : sign "::" (t :: tail) = none) :
    readPath fuel false (.word x :: t :: tail) = none ∨
      readPath fuel false (.word x :: t :: tail) = some (([.mk x []], false), t :: tail) := by
  cases fuel with
  | zero => exact .inl rfl
  | succ fuel =>
    have hglobal : optionalSign "::" (.word x :: t :: tail) = (false, .word x :: t :: tail) := rfl
    cases fuel with
    | zero => exact .inl rfl
    | succ fuel =>
      unfold readPath readSegments
      by_cases hword : x ∈ pathWords
      · exact .inr (by simp [hglobal, hword, hcolons])
      · by_cases hname : isName x = true ∨ x = "Self"
        · exact .inr (by simp [hglobal, hword, hname, hcolons, argumentsAfter])
        · exact .inl (by simp [hglobal, hword, hname])

/-- No macro is called where no exclamation mark comes after the name. -/
theorem readBraceMacro_word {t : Token} (hcolons : sign "::" (t :: tail) = none) (hbang : sign "!" (t :: tail) = none) :
    readBraceMacro fuel (.word x :: t :: tail) = none := by
  unfold readBraceMacro
  rcases readPath_word fuel x hcolons with h | h
  · simp [h]
  · have hplain : plainPath [.mk x []] = some [x] := plainPath_names [x]
    simp [h, hplain, readMacroCall, hbang]

/-- No path begins with a reserved word of another use. -/
theorem readBraceMacro_reserved (hx : isName x = false) (hother : x ∉ "Self" :: pathWords) :
    readBraceMacro fuel (.word x :: tail) = none := by
  have hpath : readPath fuel false (.word x :: tail) = none := by
    cases fuel with
    | zero => rfl
    | succ fuel =>
      have hglobal : optionalSign "::" (.word x :: tail) = (false, .word x :: tail) := rfl
      simp only [List.mem_cons, not_or] at hother
      cases fuel with
      | zero => rfl
      | succ fuel =>
        unfold readPath readSegments
        simp [hglobal, hother.1, hother.2, hx]
  unfold readBraceMacro
  simp [hpath]

theorem readOpening_word (hx : x ∉ openers) :
    readOpening (fuel + 1) (.word x :: tail) = readExpr fuel (.word x :: tail) := by
  unfold readOpening
  split
  all_goals
    first
    | (next heq => cases heq; done)
    | (next heq => cases heq; exact absurd hx (by decide))
    | rfl

/-- An expression as a statement, without the call of a macro. -/
theorem readStmt_expr {t : Token} (hx : x ∉ openers) (hcolons : sign "::" (t :: tail) = none)
    (hbang : sign "!" (t :: tail) = none) (h : ReadsExpr (.word x :: t :: tail) e mid) (he : ∀ m, e ≠ .macroCall m)
    (hfuel : 16 * (Token.word x :: t :: tail).length + 3 ≤ fuel) :
    readStmt fuel (.word x :: t :: tail) =
      some (.expr e (optionalSign ";" mid).1, (optionalSign ";" mid).1 || e.endsStatement, (optionalSign ";" mid).2) := by
  obtain ⟨fuel, rfl⟩ : ∃ n, fuel = n + 2 := ⟨fuel - 2, by omega⟩
  have hsemicolon : sign ";" (.word x :: t :: tail) = none := rfl
  have hlet : x ≠ "let" := by rintro rfl; exact absurd hx (by decide)
  unfold readStmt
  simp only [hsemicolon]
  split
  next heq => cases heq; exact absurd rfl hlet
  next =>
    simp only [readBraceMacro_word hcolons hbang, readOpening_word hx, h.reads fuel (by omega), Option.bind_eq_bind,
      Option.bind_some]

theorem ReadsStmt.expr {t : Token} (h : ReadsExpr (.word x :: t :: tail) e (.sign ';' j :: rest)) (hx : x ∉ openers)
    (hcolons : sign "::" (t :: tail) = none) (hbang : sign "!" (t :: tail) = none) (he : ∀ m, e ≠ .macroCall m) :
    ReadsStmt (.word x :: t :: tail) (.expr e true) true rest := by
  have hlt := h.shorter
  refine ⟨by simp only [List.length_cons] at hlt ⊢; omega, rfl, fun fuel hfuel => ?_⟩
  have hend : optionalSign ";" (.sign ';' j :: rest) = (true, rest) := rfl
  rw [readStmt_expr hx hcolons hbang h he hfuel, hend]
  rfl

/-- The value of a block, at its end. -/
theorem ReadsStmts.last {t : Token} (h : ReadsExpr (.word x :: t :: tail) e (.closing .brace :: rest))
    (hx : x ∉ openers)
    (hcolons : sign "::" (t :: tail) = none) (hbang : sign "!" (t :: tail) = none) (he : ∀ m, e ≠ .macroCall m) :
    ReadsStmts (.word x :: t :: tail) [.expr e false] rest := by
  have hend : optionalSign ";" (.closing .brace :: rest) = (false, .closing .brace :: rest) := rfl
  have hstmt : ReadsStmt (.word x :: t :: tail) (.expr e false) e.endsStatement (.closing .brace :: rest) := by
    refine ⟨h.shorter, rfl, fun fuel hfuel => ?_⟩
    rw [readStmt_expr hx hcolons hbang h he hfuel, hend]
    rfl
  exact .cons hstmt (.inr rfl) (.nil rest)

/-! ### Choices and loops -/

/-- Whether nothing goes on with a choice or a loop. -/
structure EndsBlock (rest : List Token) : Prop where
  noElse : word "else" rest = none
  noTrail : goesOn rest = false
  noSemicolon : sign ";" rest = none

theorem endsBlock_closing (b : Bracket) (rest : List Token) : EndsBlock (.closing b :: rest) := ⟨rfl, rfl, rfl⟩

theorem endsBlock_word {x : String} (hx : x ≠ "else") (rest : List Token) : EndsBlock (.word x :: rest) :=
  ⟨by simp [word, hx], rfl, rfl⟩

/-- A statement that a reserved word opens, from what is read of it. -/
theorem ReadsStmt.opened (hx : x ∈ ["if", "for"]) (hlt : rest.length < (Token.word x :: tail).length)
    (hend : EndsBlock rest)
    (hcalled : ∀ m, e ≠ .macroCall m) (hended : e.endsStatement = true)
    (h : ∀ fuel, 16 * (Token.word x :: tail).length ≤ fuel → readAtom fuel (.word x :: tail) = some (e, rest)) :
    ReadsStmt (.word x :: tail) (.expr e false) true rest := by
  refine ⟨hlt, rfl, fun fuel hfuel => ?_⟩
  obtain ⟨fuel, rfl⟩ : ∃ n, fuel = n + 2 := ⟨fuel - 2, by omega⟩
  have hsemicolon : sign ";" (.word x :: tail) = none := rfl
  have hopening : readOpening (fuel + 1) (.word x :: tail) = some (e, rest) := by
    simp only [List.mem_cons, List.not_mem_nil, or_false] at hx
    rcases hx with rfl | rfl
    all_goals
      unfold readOpening
      simp [h fuel (by omega), hend.noTrail]
  have hmark : optionalSign ";" rest = (false, rest) := by simp [optionalSign, hend.noSemicolon]
  have hbrace : readBraceMacro (fuel + 1) (.word x :: tail) = none := by
    simp only [List.mem_cons, List.not_mem_nil, or_false] at hx
    rcases hx with rfl | rfl
    all_goals exact readBraceMacro_reserved (by decide) (by decide)
  unfold readStmt
  simp only [hsemicolon]
  split
  next heq => cases heq; simp at hx
  next =>
    simp only [hbrace, hopening, hmark, Option.bind_eq_bind, Option.bind_some]
    cases e with
    | macroCall m => exact absurd rfl (hcalled m)
    | _ => simp [hended]

/-- A choice with one branch. -/
theorem ReadsStmt.when (hcondition : ReadsExpr ts e mid) (hbody : ReadsBlock mid ss rest) (hend : EndsBlock rest) :
    ReadsStmt (.word "if" :: ts) (.expr (.conditional e ss none) false) true rest := by
  have hlt := hcondition.shorter
  have hlt' := hbody.shorter
  refine .opened (by simp) (by simp only [List.length_cons]; omega) hend (by simp) rfl fun fuel hfuel => ?_
  simp only [List.length_cons] at hfuel
  obtain ⟨fuel, rfl⟩ := Nat.exists_eq_add_one_of_ne_zero (n := fuel) (by omega)
  unfold readAtom
  simp [hcondition.reads fuel (by omega), hbody.reads fuel (by omega), hend.noElse]

/-- A loop over items. -/
theorem ReadsStmt.loop (hx : isName x = true) (hitems : ReadsExpr ts e mid) (hbody : ReadsBlock mid ss rest)
    (hend : EndsBlock rest) :
    ReadsStmt (.word "for" :: .word x :: .word "in" :: ts) (.expr (.loop (.name false false x) e ss) false) true rest := by
  have hlt := hitems.shorter
  have hlt' := hbody.shorter
  refine .opened (by simp) (by simp only [List.length_cons]; omega) hend (by simp) rfl fun fuel hfuel => ?_
  simp only [List.length_cons] at hfuel
  obtain ⟨fuel, rfl⟩ := Nat.exists_eq_add_one_of_ne_zero (n := fuel) (by omega)
  have hpattern : readPattern fuel (.word x :: .word "in" :: ts) = some (.name false false x, .word "in" :: ts) :=
    readPattern_name hx rfl (by simp) (by simp only [List.length_cons]; omega)
  have hin : word "in" (.word "in" :: ts) = some ts := rfl
  unfold readAtom
  simp [hpattern, hin, hitems.reads fuel (by omega), hbody.reads fuel (by omega)]

/-! ## Texts -/

/-- The statements of a text that is one block. -/
def readFunctionBody (text : String) : Option (List Stmt) := do
  let ts ← tokens text.toList
  let (ss, rest) ← readBlock (fuelFor ts) ts
  if rest.isEmpty then some ss else none

theorem readFunctionBody_eq {text : String} (htokens : tokens text.toList = some ts) (h : ReadsBlock ts ss []) :
    readFunctionBody text = some ss := by
  unfold readFunctionBody fuelFor
  simp [htokens, h.reads (16 * ts.length + 16) (by omega)]

theorem readFunctionBody_eq_none {text : String} (htokens : tokens text.toList = some ts)
    (h : readBlock (fuelFor ts) ts = none) :
    readFunctionBody text = none := by
  unfold readFunctionBody
  simp [htokens, h]

end Retag.Code
