/-
What the readers of types, parameters and items answer, construct by construct, in
the same form as for expressions: sixteen steps for every token are enough.

An item is followed by others, so what is read of a file comes from what is read of
its items one by one (`ReadsItems.cons`), and no item looks at those behind it.
-/
import Retag.Proofs.Code.Lexing
import Retag.Proofs.Code.Reading

namespace Retag.Code

variable {ts rest mid : List Token} {x : String} {p : List String} {t : Ty} {args : List Ty} {fuel : Nat} {j : Bool}

/-! ## Types -/

/-- A type, also where bounds may follow. -/
structure ReadsTy (ts : List Token) (t : Ty) (rest : List Token) : Prop where
  shorter : rest.length < ts.length
  reads : ∀ fuel plus, 16 * ts.length ≤ fuel + 4 → readTy fuel plus ts = some (t, rest)

/-- The types that a name is applied to, up to and with the bracket that closes
them. -/
structure ReadsTypes (ts : List Token) (args : List Ty) (rest : List Token) : Prop where
  shorter : rest.length < ts.length
  reads : ∀ fuel, 16 * ts.length ≤ fuel → readArguments fuel ts = some (args, rest)

/-- Whether a word can stand in a path. -/
def inPath (s : String) : Bool := isName s || s == "Self" || pathWords.contains s

theorem inPath_of_name (h : isName x = true) : inPath x = true := by simp [inPath, h]

/-- A path of names in a type, and what is left. The last name may be applied. -/
structure ReadsTypePath (ts : List Token) (p : List Segment) (rest : List Token) : Prop where
  begins : ∃ x tail, ts = .word x :: tail ∧ inPath x = true
  shorter : rest.length < ts.length
  reads : ∀ fuel, 16 * ts.length ≤ fuel + 6 → readSegments fuel true ts = some (p, rest)

theorem ReadsTypePath.name (h : inPath x = true) (hcolons : sign "::" rest = none) (hless : sign "<" rest = none) :
    ReadsTypePath (.word x :: rest) [.mk x []] rest := by
  refine ⟨⟨x, rest, rfl, h⟩, by simp, fun fuel hfuel => ?_⟩
  simp only [List.length_cons] at hfuel
  obtain ⟨fuel, rfl⟩ := Nat.exists_eq_add_one_of_ne_zero (n := fuel) (by omega)
  have harguments : argumentsAfter true rest = none := by simp [argumentsAfter, hcolons, hless]
  unfold readSegments
  by_cases hword : x ∈ pathWords
  · simp [hword, hcolons]
  · have hname : (isName x || x == "Self") = true := by simpa [inPath, hword] using h
    simp [hword, hname, harguments, hcolons]

theorem ReadsTypePath.cons {s : List Segment} (h : inPath x = true) (hpath : ReadsTypePath ts s rest) :
    ReadsTypePath (.word x :: .sign ':' true :: .sign ':' j :: ts) (.mk x [] :: s) rest := by
  have hlt := hpath.shorter
  refine ⟨⟨x, _, rfl, h⟩, by simp only [List.length_cons]; omega, fun fuel hfuel => ?_⟩
  simp only [List.length_cons] at hfuel
  obtain ⟨fuel, rfl⟩ := Nat.exists_eq_add_one_of_ne_zero (n := fuel) (by omega)
  obtain ⟨y, tail, rfl, -⟩ := hpath.begins
  have hskip : sign "::" (.sign ':' true :: .sign ':' j :: .word y :: tail) = some (.word y :: tail) := rfl
  have hangle : sign "<" (.word y :: tail) = none := rfl
  have hless : sign "<" (.sign ':' true :: .sign ':' j :: .word y :: tail) = none := rfl
  have harguments : argumentsAfter true (.sign ':' true :: .sign ':' j :: .word y :: tail) = none := by
    simp [argumentsAfter, hskip, hangle, hless]
  have hlater := hpath.reads fuel (by omega)
  unfold readSegments
  by_cases hword : x ∈ pathWords
  · simp [hword, hskip, hlater]
  · have hname : (isName x || x == "Self") = true := by simpa [inPath, hword] using h
    simp [hword, hname, harguments, hskip, hlater]

/-- A name that is applied to types. -/
theorem ReadsTypePath.applied (h : isName x = true) (hargs : ReadsTypes ts args rest) (hcolons : sign "::" rest = none)
    (heq : sign "=" ts = none) : ReadsTypePath (.word x :: .sign '<' j :: ts) [.mk x args] rest := by
  have hlt := hargs.shorter
  refine ⟨⟨x, _, rfl, inPath_of_name h⟩, by simp only [List.length_cons]; omega, fun fuel hfuel => ?_⟩
  simp only [List.length_cons] at hfuel
  obtain ⟨fuel, rfl⟩ := Nat.exists_eq_add_one_of_ne_zero (n := fuel) (by omega)
  have hskip : sign "::" (.sign '<' j :: ts) = none := by cases j <;> rfl
  have hless : sees "<=" (.sign '<' j :: ts) = false := by
    cases j with
    | false => rfl
    | true => exact congrArg Option.isSome heq
  have hangle : sign "<" (.sign '<' j :: ts) = some ts := rfl
  unfold readSegments
  simp [not_pathWord h, h, argumentsAfter, hskip, hless, hangle, hargs.reads fuel (by omega), hcolons]

theorem ReadsTypePath.read {s : List Segment} (h : ReadsTypePath ts s rest) (hfuel : 16 * ts.length ≤ fuel + 5) :
    readPath fuel true ts = some ((s, false), rest) := by
  have hlt := h.shorter
  obtain ⟨fuel, rfl⟩ := Nat.exists_eq_add_one_of_ne_zero (n := fuel) (by omega)
  obtain ⟨x, tail, rfl, -⟩ := h.begins
  have hglobal : optionalSign "::" (.word x :: tail) = (false, .word x :: tail) := rfl
  unfold readPath
  simp [hglobal, h.reads fuel (by omega)]

theorem ReadsTy.path {s : List Segment} (h : ReadsTypePath ts s rest) : ReadsTy ts (.path s false) rest := by
  have hlt := h.shorter
  refine ⟨hlt, fun fuel plus hfuel => ?_⟩
  obtain ⟨fuel, rfl⟩ := Nat.exists_eq_add_one_of_ne_zero (n := fuel) (by omega)
  have hpath : readPath fuel true ts = some ((s, false), rest) := h.read (by omega)
  obtain ⟨x, tail, rfl, hx⟩ := h.begins
  have hamp : sign "&" (.word x :: tail) = none := rfl
  have hbang : sign "!" (.word x :: tail) = none := rfl
  unfold readTy
  split
  -- Each word with a meaning of its own is reserved.
  all_goals
    first
    | (next heq => cases heq; done)
    | (next heq => cases heq; exact absurd hx (by decide))
    | skip
  simp only [hamp, hbang, hpath, Option.bind_eq_bind, Option.bind_some]

/-- A type that is borrowed, where it begins with a name. -/
theorem ReadsTy.reference {tail : List Token} (hx : x ≠ "mut") (h : ReadsTy (.word x :: tail) t rest) :
    ReadsTy (.sign '&' j :: .word x :: tail) (.reference none false t) rest := by
  have hlt := h.shorter
  refine ⟨by simp only [List.length_cons] at hlt ⊢; omega, fun fuel plus hfuel => ?_⟩
  simp only [List.length_cons] at hfuel
  obtain ⟨fuel, rfl⟩ := Nat.exists_eq_add_one_of_ne_zero (n := fuel) (by omega)
  have hamp : sign "&" (.sign '&' j :: .word x :: tail) = some (.word x :: tail) := rfl
  have hplain : optionalWord "mut" (.word x :: tail) = (false, .word x :: tail) := by simp [optionalWord, word, hx]
  unfold readTy
  simp [hamp, hplain, h.reads fuel false (by simp only [List.length_cons]; omega)]

/-- A type that is left open. -/
theorem ReadsTy.inferred (rest : List Token) : ReadsTy (.word "_" :: rest) .inferred rest := by
  refine ⟨by simp, fun fuel plus hfuel => ?_⟩
  obtain ⟨fuel, rfl⟩ := Nat.exists_eq_add_one_of_ne_zero (n := fuel) (by simp only [List.length_cons] at hfuel; omega)
  rfl

/-- Some type with one bound. -/
theorem ReadsTy.bounded {s : List Segment} (h : ReadsTypePath ts s rest) (hplus : sign "+" rest = none) :
    ReadsTy (.word "impl" :: ts) (.bounded "impl" [.path s false]) rest := by
  have hlt := h.shorter
  refine ⟨by simp only [List.length_cons]; omega, fun fuel plus hfuel => ?_⟩
  simp only [List.length_cons] at hfuel
  obtain ⟨fuel, rfl⟩ : ∃ n, fuel = n + 2 := ⟨fuel - 2, by omega⟩
  have hpath : readPath fuel true ts = some ((s, false), rest) := h.read (by omega)
  obtain ⟨x, tail, rfl, -⟩ := h.begins
  have hbounds : readBounds (fuel + 1) plus (.word x :: tail) = some ([.path s false], rest) := by
    unfold readBounds
    cases plus <;> simp [hpath, hplus]
  unfold readTy
  simp [hbounds]

/-- The tuple of no types. -/
theorem ReadsTy.unit (rest : List Token) :
    ReadsTy (.opening .parenthesis :: .closing .parenthesis :: rest) (.tuple []) rest := by
  refine ⟨by simp only [List.length_cons]; omega, fun fuel plus hfuel => ?_⟩
  obtain ⟨fuel, rfl⟩ : ∃ n, fuel = n + 2 := ⟨fuel - 2, by simp only [List.length_cons] at hfuel; omega⟩
  rfl

theorem ReadsTypes.one (hbegins : ∀ s tail, ts ≠ .lifetime s :: tail) (hangle : sign ">" ts = none)
    (h : ReadsTy ts t (.sign '>' j :: rest)) : ReadsTypes ts [t] rest := by
  have hlt := h.shorter
  simp only [List.length_cons] at hlt
  refine ⟨by omega, fun fuel hfuel => ?_⟩
  obtain ⟨fuel, rfl⟩ := Nat.exists_eq_add_one_of_ne_zero (n := fuel) (by omega)
  have hclose : sign ">" (.sign '>' j :: rest) = some rest := rfl
  unfold readArguments
  split
  next heq => simp [hangle] at heq
  next =>
    split
    next => exact absurd rfl (hbegins _ _)
    next => simp [h.reads fuel true (by omega), hclose]

theorem ReadsTypes.nil (rest : List Token) : ReadsTypes (.sign '>' j :: rest) [] rest := by
  refine ⟨by simp, fun fuel hfuel => ?_⟩
  obtain ⟨fuel, rfl⟩ := Nat.exists_eq_add_one_of_ne_zero (n := fuel) (by simp only [List.length_cons] at hfuel; omega)
  rfl

/-- A type with a comma behind it. -/
theorem ReadsTypes.cons (hbegins : ∀ s tail, ts ≠ .lifetime s :: tail) (hangle : sign ">" ts = none)
    (h : ReadsTy ts t (.sign ',' j :: mid)) (hrest : ReadsTypes mid args rest) : ReadsTypes ts (t :: args) rest := by
  have hlt := h.shorter
  have hlt' := hrest.shorter
  simp only [List.length_cons] at hlt
  refine ⟨by omega, fun fuel hfuel => ?_⟩
  obtain ⟨fuel, rfl⟩ := Nat.exists_eq_add_one_of_ne_zero (n := fuel) (by omega)
  have hclose : sign ">" (.sign ',' j :: mid) = none := rfl
  have hcomma : sign "," (.sign ',' j :: mid) = some mid := rfl
  unfold readArguments
  split
  next heq => simp [hangle] at heq
  next =>
    split
    next => exact absurd rfl (hbegins _ _)
    next => simp [h.reads fuel true (by omega), hclose, hcomma, hrest.reads fuel (by omega)]

/-! ## Functions -/

variable {b : Binding} {bs : List Binding} {ss : List Stmt}

/-- A parameter with its type. -/
structure ReadsParameter (ts : List Token) (b : Binding) (rest : List Token) : Prop where
  shorter : rest.length < ts.length
  begins : closing .parenthesis ts = none
  reads : ∀ fuel, 16 * ts.length ≤ fuel → readBinding fuel true ts = some (b, rest)

/-- Parameters up to and with the parenthesis that closes them. -/
structure ReadsSignature (ts : List Token) (bs : List Binding) (rest : List Token) : Prop where
  shorter : rest.length < ts.length
  reads : ∀ fuel n, 16 * ts.length ≤ fuel → ts.length ≤ n →
    ∃ comma, readList (readBinding fuel true) .parenthesis n ts = some ((bs, comma), rest)

theorem ReadsParameter.typed (hx : isName x = true) (h : ReadsTy ts t rest) :
    ReadsParameter (.word x :: .sign ':' false :: ts) ⟨.name false false x, some t⟩ rest := by
  have hlt := h.shorter
  refine ⟨by simp only [List.length_cons]; omega, rfl, fun fuel hfuel => ?_⟩
  simp only [List.length_cons] at hfuel
  have hpattern : readPattern fuel (.word x :: .sign ':' false :: ts) = some (.name false false x, .sign ':' false :: ts) :=
    readPattern_name hx rfl (by simp) (by simp only [List.length_cons]; omega)
  have hskip : sign ":" (.sign ':' false :: ts) = some ts := rfl
  unfold readBinding
  simp [hpattern, hskip, h.reads fuel true (by omega)]

theorem ReadsSignature.nil (rest : List Token) : ReadsSignature (.closing .parenthesis :: rest) [] rest := by
  refine ⟨by simp, fun fuel n _ hn => ⟨false, ?_⟩⟩
  obtain ⟨n, rfl⟩ := Nat.exists_eq_add_one_of_ne_zero (n := n) (by simp only [List.length_cons] at hn; omega)
  rfl

theorem ReadsSignature.one (h : ReadsParameter ts b (.closing .parenthesis :: rest)) : ReadsSignature ts [b] rest := by
  have hlt := h.shorter
  simp only [List.length_cons] at hlt
  refine ⟨by omega, fun fuel n hfuel hn => ⟨false, ?_⟩⟩
  obtain ⟨n, rfl⟩ := Nat.exists_eq_add_one_of_ne_zero (n := n) (by omega)
  have hclose : closing .parenthesis (.closing .parenthesis :: rest) = some rest := rfl
  unfold readList
  simp [h.begins, h.reads fuel hfuel, hclose]

/-- A parameter with a comma behind it. -/
theorem ReadsSignature.cons (h : ReadsParameter ts b (.sign ',' j :: mid)) (hrest : ReadsSignature mid bs rest) :
    ReadsSignature ts (b :: bs) rest := by
  have hlt := h.shorter
  have hlt' := hrest.shorter
  simp only [List.length_cons] at hlt
  refine ⟨by omega, fun fuel n hfuel hn => ?_⟩
  obtain ⟨n, rfl⟩ := Nat.exists_eq_add_one_of_ne_zero (n := n) (by omega)
  obtain ⟨comma, hlater⟩ := hrest.reads fuel n (by omega) (by omega)
  have hclose : closing .parenthesis (.sign ',' j :: mid) = none := rfl
  have hcomma : sign "," (.sign ',' j :: mid) = some mid := rfl
  refine ⟨if bs.isEmpty then true else comma, ?_⟩
  unfold readList
  simp [h.begins, h.reads fuel hfuel, hclose, hcomma, hlater]

/-- What is read behind the opening parenthesis of a function that is waited for and is
generic in nothing. -/
theorem readFunction_head {tp : List Token} (hx : isName x = true) (hreceiver : readReceiver tp = (none, tp)) :
    readFunction fuel (.word "async" :: .word "fn" :: .word x :: .opening .parenthesis :: tp) = (do
      let ((parameters, _), ts) ← readList (readBinding fuel true) .parenthesis fuel tp
      let (result, ts) ← match sign "->" ts with
        | some ts => (readTy fuel true ts).map fun (t, ts) => (some t, ts)
        | none => some (none, ts)
      let (body, ts) ← readBlock fuel ts
      some (.function ⟨["async"], x, [], none, parameters, result⟩ body, ts)) := by
  have hqualifiers : readQualifiers (.word "async" :: .word "fn" :: .word x :: .opening .parenthesis :: tp) =
      (["async"], .word "fn" :: .word x :: .opening .parenthesis :: tp) := rfl
  have hfn : word "fn" (.word "fn" :: .word x :: .opening .parenthesis :: tp) =
      some (.word x :: .opening .parenthesis :: tp) := rfl
  have hname : readName (.word x :: .opening .parenthesis :: tp) = some (x, .opening .parenthesis :: tp) := if_pos hx
  have hgenerics : readGenerics fuel (.opening .parenthesis :: tp) = some ([], .opening .parenthesis :: tp) := rfl
  have hopen : opening .parenthesis (.opening .parenthesis :: tp) = some tp := rfl
  unfold readFunction
  simp only [hqualifiers, hfn, hname, hgenerics, hopen, Option.bind_eq_bind, Option.bind_some]
  rewrite [hreceiver]
  rfl

/-- A function that is waited for, which is generic in nothing. -/
theorem readFunction_async {tp tr : List Token} (hx : isName x = true)
    (hreceiver : readReceiver tp = (none, tp))
    (hparameters : ReadsSignature tp bs (.sign '-' true :: .sign '>' false :: tr)) (hresult : ReadsTy tr t mid)
    (hbody : ReadsBlock mid ss rest)
    (hfuel : 16 * (Token.word "async" :: .word "fn" :: .word x :: .opening .parenthesis :: tp).length ≤ fuel + 16) :
    readFunction fuel (.word "async" :: .word "fn" :: .word x :: .opening .parenthesis :: tp) =
      some (.function ⟨["async"], x, [], none, bs, some t⟩ ss, rest) := by
  have hlt := hparameters.shorter
  have hlt' := hresult.shorter
  simp only [List.length_cons] at hlt hfuel
  obtain ⟨comma, hlist⟩ := hparameters.reads fuel fuel (by omega) (by omega)
  have harrow : sign "->" (.sign '-' true :: .sign '>' false :: tr) = some tr := rfl
  rw [readFunction_head hx hreceiver]
  simp [hlist, harrow, hresult.reads fuel true (by omega), hbody.reads fuel (by omega)]

/-! ## Items -/

variable {item : Item} {items : List Item} {kind : ItemKind} {v : Visibility}

/-- An item and what is left behind it. -/
structure ReadsItem (ts : List Token) (item : Item) (rest : List Token) : Prop where
  shorter : rest.length < ts.length
  reads : ∀ fuel, 16 * ts.length ≤ fuel → readItem fuel ts = some (item, rest)

/-- Items up to the end. -/
def ReadsItems (ts : List Token) (items : List Item) : Prop :=
  ∀ fuel n, 16 * ts.length ≤ fuel → ts.length ≤ n → readItems fuel n ts = some items

theorem ReadsItems.nil : ReadsItems [] [] := fun _ n _ _ => by cases n <;> rfl

theorem ReadsItems.cons (h : ReadsItem ts item rest) (hrest : ReadsItems rest items) : ReadsItems ts (item :: items) := by
  intro fuel n hfuel hn
  have hlt := h.shorter
  obtain ⟨n, rfl⟩ := Nat.exists_eq_add_one_of_ne_zero (n := n) (by omega)
  cases ts with
  | nil => simp at hlt
  | cons t ts =>
    unfold readItems
    simp [h.reads fuel hfuel, hrest fuel n (by omega) (by omega)]

/-- An import, from what is read behind the keyword. -/
theorem ReadsItem.use {tree : UseTree} (hlt : (Token.sign ';' j :: rest).length < (Token.word x :: ts).length)
    (h : ∀ fuel, 16 * (Token.word x :: ts).length ≤ fuel →
      readUseTree fuel (.word x :: ts) = some (tree, .sign ';' j :: rest)) :
    ReadsItem (.word "use" :: .word x :: ts) (.mk [] .inherited (.use false tree)) rest := by
  simp only [List.length_cons] at hlt
  refine ⟨by simp only [List.length_cons]; omega, fun fuel hfuel => ?_⟩
  simp only [List.length_cons] at hfuel
  obtain ⟨fuel, rfl⟩ : ∃ n, fuel = n + 2 := ⟨fuel - 2, by omega⟩
  have hglobal : optionalSign "::" (.word x :: ts) = (false, .word x :: ts) := rfl
  have hend : sign ";" (.sign ';' j :: rest) = some rest := rfl
  have hkind : readKind (fuel + 1) .inherited (.word "use" :: .word x :: ts) = some (.use false tree, rest) := by
    unfold readKind
    simp [hglobal, h fuel (by simp only [List.length_cons]; omega), hend]
  have hattributes : readAttributes false (fuel + 1) (.word "use" :: .word x :: ts) =
      some ([], .word "use" :: .word x :: ts) := rfl
  have hvisibility : readVisibility (.word "use" :: .word x :: ts) = (.inherited, .word "use" :: .word x :: ts) := rfl
  unfold readItem
  simp [hattributes, hvisibility, hkind]

/-- An import of one name under another, which nothing else is read of. -/
theorem readItem_renamed {y : String} (fuel : Nat) :
    readItem (fuel + 3) (.word "use" :: .word x :: .word "as" :: .word y :: .sign ';' j :: rest) =
      if (isName x || pathWords.contains x) && (isName y || y == "_") then
        some (.mk [] .inherited (.use false (.renamed x y)), rest)
      else none := by
  have hcolons : sign "::" (.word "as" :: .word y :: .sign ';' j :: rest) = none := rfl
  have htree : readUseTree (fuel + 1) (.word x :: .word "as" :: .word y :: .sign ';' j :: rest) =
      if (isName x || pathWords.contains x) && (isName y || y == "_") then some (.renamed x y, .sign ';' j :: rest)
      else none := by
    unfold readUseTree
    simp only [hcolons]
    cases isName x || pathWords.contains x <;> simp
  have hglobal : optionalSign "::" (.word x :: .word "as" :: .word y :: .sign ';' j :: rest) =
      (false, .word x :: .word "as" :: .word y :: .sign ';' j :: rest) := rfl
  have hattributes : readAttributes false (fuel + 2) (.word "use" :: .word x :: .word "as" :: .word y :: .sign ';' j :: rest) =
      some ([], .word "use" :: .word x :: .word "as" :: .word y :: .sign ';' j :: rest) := rfl
  have hvisibility : readVisibility (.word "use" :: .word x :: .word "as" :: .word y :: .sign ';' j :: rest) =
      (.inherited, .word "use" :: .word x :: .word "as" :: .word y :: .sign ';' j :: rest) := rfl
  have hend : sign ";" (.sign ';' j :: rest) = some rest := rfl
  unfold readItem
  simp only [hattributes, hvisibility, Option.bind_eq_bind, Option.bind_some]
  unfold readKind
  simp only [hglobal, htree]
  split <;> simp [hend]

theorem ReadsItem.renamed {y : String} (hx : isName x = true ∨ x ∈ pathWords) (hy : isName y = true ∨ y = "_")
    (rest : List Token) :
    ReadsItem (.word "use" :: .word x :: .word "as" :: .word y :: .sign ';' j :: rest)
      (.mk [] .inherited (.use false (.renamed x y))) rest := by
  refine ⟨by simp only [List.length_cons]; omega, fun fuel hfuel => ?_⟩
  simp only [List.length_cons] at hfuel
  obtain ⟨fuel, rfl⟩ : ∃ n, fuel = n + 3 := ⟨fuel - 3, by omega⟩
  rw [readItem_renamed, if_pos (by simpa using And.intro hx hy)]

/-- A name that stands in a group of imports. -/
theorem readUseTree_name {t : Token} (hx : isName x = true) (hcolons : sign "::" (t :: ts) = none)
    (has : t ≠ .word "as") : readUseTree (fuel + 1) (.word x :: t :: ts) = some (.name x, t :: ts) := by
  unfold readUseTree
  simp only [hx, hcolons, Bool.true_or, if_true]
  split
  next heq => exact absurd (List.cons.inj heq).1 has
  next heq => exact absurd (List.cons.inj heq).1 has
  next => rfl

/-- An import of two names from one place. -/
theorem ReadsItem.grouped {y z : String} (hx : isName x = true) (hy : isName y = true) (hz : isName z = true)
    (rest : List Token) :
    ReadsItem (.word "use" :: .word x :: .sign ':' true :: .sign ':' false :: .opening .brace :: .word y ::
        .sign ',' false :: .word z :: .closing .brace :: .sign ';' j :: rest)
      (.mk [] .inherited (.use false (.path x (.group [.name y, .name z])))) rest := by
  refine .use (j := j) (by simp only [List.length_cons]; omega) fun fuel hfuel => ?_
  obtain ⟨fuel, rfl⟩ : ∃ n, fuel = n + 4 := ⟨fuel - 4, by simp only [List.length_cons] at hfuel; omega⟩
  let names : List Token := .word y :: .sign ',' false :: .word z :: .closing .brace :: .sign ';' j :: rest
  have hlist : readList (readUseTree (fuel + 2)) .brace (fuel + 2) names =
      some (([.name y, .name z], false), .sign ';' j :: rest) := by
    have hfirst : readUseTree (fuel + 2) names = some (.name y, names.tail) := readUseTree_name hy rfl (by simp)
    have hlast : readUseTree (fuel + 2) (.word z :: .closing .brace :: .sign ';' j :: rest) =
        some (.name z, .closing .brace :: .sign ';' j :: rest) := readUseTree_name hz rfl (by simp)
    have hcomma : sign "," (.sign ',' false :: .word z :: .closing .brace :: .sign ';' j :: rest) =
        some (.word z :: .closing .brace :: .sign ';' j :: rest) := rfl
    simp [readList, names, closing, hfirst, hlast, hcomma]
  have hgroup : readUseTree (fuel + 3) (.opening .brace :: names) =
      some (.group [.name y, .name z], .sign ';' j :: rest) := by
    rw [readUseTree, hlist]
    rfl
  unfold readUseTree
  simp only [hx, Bool.true_or, if_true]
  exact congrArg (Option.map fun r => (UseTree.path x r.1, r.2)) hgroup

/-- Documenting comments before a word. -/
theorem readAttributes_docs (docs : List String) (hfuel : docs.length < fuel) :
    readAttributes false fuel (docs.map (.doc false) ++ .word x :: rest) = some (docs.map .doc, .word x :: rest) := by
  induction docs generalizing fuel with
  | nil =>
    obtain ⟨fuel, rfl⟩ := Nat.exists_eq_add_one_of_ne_zero (Nat.ne_zero_of_lt hfuel)
    rfl
  | cons d docs ih =>
    obtain ⟨fuel, rfl⟩ := Nat.exists_eq_add_one_of_ne_zero (Nat.ne_zero_of_lt hfuel)
    rw [List.map_cons, List.cons_append, readAttributes, if_pos rfl,
      ih (by simp only [List.length_cons] at hfuel; omega)]
    rfl

/-- A function for everybody, behind its documentation. -/
theorem ReadsItem.function {docs : List String} {tp tr : List Token} (hx : isName x = true)
    (hreceiver : readReceiver tp = (none, tp))
    (hparameters : ReadsSignature tp bs (.sign '-' true :: .sign '>' false :: tr)) (hresult : ReadsTy tr t mid)
    (hbody : ReadsBlock mid ss rest) :
    ReadsItem (docs.map (.doc false) ++ .word "pub" :: .word "async" :: .word "fn" :: .word x :: .opening .parenthesis :: tp)
      (.mk (docs.map .doc) .everyone (.function ⟨["async"], x, [], none, bs, some t⟩ ss)) rest := by
  have hlt := hparameters.shorter
  have hlt' := hresult.shorter
  have hlt'' := hbody.shorter
  simp only [List.length_cons] at hlt
  refine ⟨by simp only [List.length_append, List.length_map, List.length_cons]; omega, fun fuel hfuel => ?_⟩
  simp only [List.length_append, List.length_map, List.length_cons] at hfuel
  obtain ⟨fuel, rfl⟩ : ∃ n, fuel = n + 2 := ⟨fuel - 2, by omega⟩
  have hfunction : readFunction fuel (.word "async" :: .word "fn" :: .word x :: .opening .parenthesis :: tp) =
      some (.function ⟨["async"], x, [], none, bs, some t⟩ ss, rest) :=
    readFunction_async hx hreceiver hparameters hresult hbody (by simp only [List.length_cons]; omega)
  have hattributes : readAttributes false (fuel + 1) (docs.map (.doc false) ++ .word "pub" :: .word "async" :: .word "fn" ::
        .word x :: .opening .parenthesis :: tp) =
      some (docs.map .doc, .word "pub" :: .word "async" :: .word "fn" :: .word x :: .opening .parenthesis :: tp) :=
    readAttributes_docs docs (by omega)
  have hvisibility : readVisibility (.word "pub" :: .word "async" :: .word "fn" :: .word x :: .opening .parenthesis :: tp) =
      (.everyone, .word "async" :: .word "fn" :: .word x :: .opening .parenthesis :: tp) := rfl
  have hkind : readKind (fuel + 1) .everyone (.word "async" :: .word "fn" :: .word x :: .opening .parenthesis :: tp) =
      some (.function ⟨["async"], x, [], none, bs, some t⟩ ss, rest) := by
    unfold readKind
    simp [hfunction]
  unfold readItem
  simp [hattributes, hvisibility, hkind]

/-! ## Files

The text of a file is put together from parts, each of which begins on a new line and
is one item. -/

/-- Whether an item begins with a token, and nothing that is told about a file. -/
def Token.beginsItem : Token → Bool
  | .word _ | .doc false _ => true
  | _ => false

/-- A text that begins on a new line, with its tokens. -/
structure OnNewLine (text : String) (ts : List Token) : Prop where
  feed : ∃ cs, text.toList = '\n' :: cs
  lexes : Lexes text.toList ts
  begins : ts.head?.all Token.beginsItem = true

/-- A text that reads as items, up to the end. -/
structure ReadsAs (text : String) (items : List Item) : Prop where
  reads : ∃ ts, OnNewLine text ts ∧ ReadsItems ts items

/-- A text that is one item, whatever follows on a new line. -/
structure IsPart (text : String) (item : Item) : Prop where
  reads : ∃ ts, (∀ rest tr, OnNewLine rest tr → OnNewLine (text ++ rest) (ts ++ tr)) ∧
    ∀ rest, ReadsItem (ts ++ rest) item rest

/-- A text that is one item, with tokens that may depend on what follows on a new
line. -/
structure StandsAs (text : String) (item : Item) : Prop where
  reads : ∀ rest tr, OnNewLine rest tr → ∃ ts, OnNewLine (text ++ rest) ts ∧ ReadsItem ts item tr

variable {text : String}

theorem IsPart.standsAs (h : IsPart text item) : StandsAs text item := by
  obtain ⟨ts, hlexes, hread⟩ := h.reads
  exact ⟨fun rest tr hline => ⟨ts ++ tr, hlexes rest tr hline, hread tr⟩⟩

theorem OnNewLine.starts (h : OnNewLine text ts) : ∀ c ∈ text.toList.head?, c ∈ pieceStarts := by
  obtain ⟨cs, hcs⟩ := h.feed
  intro c hc
  rw [hcs] at hc
  obtain rfl : '\n' = c := Option.some.inj hc
  decide

theorem ReadsAs.end : ReadsAs "\n" [] :=
  ⟨[], ⟨⟨[], rfl⟩, Lexes.nil.blank, rfl⟩, .nil⟩

theorem StandsAs.before (h : StandsAs text item) {rest : String} (hrest : ReadsAs rest items) :
    ReadsAs (text ++ rest) (item :: items) := by
  obtain ⟨tr, hline, hitems⟩ := hrest.reads
  obtain ⟨ts, hline', hread⟩ := h.reads rest tr hline
  exact ⟨ts, hline', .cons hread hitems⟩

theorem IsPart.before (h : IsPart text item) {rest : String} (hrest : ReadsAs rest items) :
    ReadsAs (text ++ rest) (item :: items) := h.standsAs.before hrest

/-- Parts one after the other. -/
theorem ReadsAs.join {α : Type} {xs : List α} {text : α → String} {item : α → Item}
    (h : ∀ a ∈ xs, StandsAs (text a) (item a)) {rest : String} (hrest : ReadsAs rest items) :
    ReadsAs (String.join (xs.map text) ++ rest) (xs.map item ++ items) := by
  induction xs with
  | nil =>
    rw [List.map_nil, String.join_nil, String.empty_append]
    exact hrest
  | cons a xs ih =>
    rw [List.map_cons, String.join_cons, String.append_assoc]
    exact (h a List.mem_cons_self).before (ih fun b hb => h b (List.mem_cons_of_mem _ hb))

theorem readAttributes_item (h : ts.head?.all Token.beginsItem = true) :
    readAttributes true (fuel + 1) ts = some ([], ts) := by
  cases ts with
  | nil => rfl
  | cons t ts =>
    cases t with
    | word => rfl
    | doc inner =>
      cases inner with
      | false => rfl
      | true => cases h
    | lifetime | literal | sign | opening | closing => cases h

/-- Reading a file from its characters. -/
def readChars (cs : List Char) : Option File := do
  let (interpreter, cs) := splitInterpreter (dropMark cs)
  let ts ← tokens (dropMark cs)
  let fuel := fuelFor ts
  let (attributes, ts) ← readAttributes true fuel ts
  let items ← readItems fuel ts.length ts
  some ⟨interpreter, attributes, items⟩

theorem File.read_chars {cs : List Char} (h : text.toList = cs) : File.read text = readChars cs := by
  rw [← h]
  rfl

/-- Reading a file that begins with an empty line or a comment. -/
theorem File.read_begun {c : Char} {cs : List Char} (hc : c = '\n' ∨ c = '/') (hchars : text.toList = c :: cs)
    (htokens : tokens text.toList = some ts) (hbegins : ts.head?.all Token.beginsItem = true) :
    File.read text = (readItems (fuelFor ts) ts.length ts).map (File.mk none []) := by
  have hmark : dropMark (c :: cs) = c :: cs := by rcases hc with rfl | rfl <;> rfl
  have hfirst : splitInterpreter (c :: cs) = (none, c :: cs) := by rcases hc with rfl | rfl <;> rfl
  have hattributes : readAttributes true (fuelFor ts) ts = some ([], ts) := readAttributes_item hbegins
  rw [hchars] at htokens
  unfold File.read
  simp only [hchars, hmark, hfirst, htokens, hattributes, Option.bind_eq_bind, Option.bind_some]
  cases readItems (fuelFor ts) ts.length ts <;> rfl

/-- Reading a file that begins with an empty line. -/
theorem File.read_feed {cs : List Char} (hfeed : text.toList = '\n' :: cs) (htokens : tokens text.toList = some ts)
    (hbegins : ts.head?.all Token.beginsItem = true) :
    File.read text = (readItems (fuelFor ts) ts.length ts).map (File.mk none []) :=
  File.read_begun (.inl rfl) hfeed htokens hbegins

theorem File.read_no_tokens {cs : List Char} (hfeed : text.toList = '\n' :: cs) (htokens : tokens text.toList = none) :
    File.read text = none := by
  have hmark : dropMark ('\n' :: cs) = '\n' :: cs := rfl
  have hfirst : splitInterpreter ('\n' :: cs) = (none, '\n' :: cs) := rfl
  rw [hfeed] at htokens
  unfold File.read
  simp only [hfeed, hmark, hfirst, htokens, Option.bind_eq_bind, Option.bind_none]

theorem ReadsAs.read (h : ReadsAs text items) : File.read text = some ⟨none, [], items⟩ := by
  obtain ⟨ts, hline, hitems⟩ := h.reads
  obtain ⟨cs, hcs⟩ := hline.feed
  rw [File.read_feed hcs hline.lexes.tokens hline.begins,
    hitems (fuelFor ts) ts.length (by unfold fuelFor; omega) (Nat.le_refl _)]
  rfl

end Retag.Code
