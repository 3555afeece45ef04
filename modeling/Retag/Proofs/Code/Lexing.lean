/-
The tokens of a text that is not plain all through, from its end to its start: plain
text, names with the mark `r#` and documenting comments before a text whose tokens
are known.
-/
import Retag.Proofs.Code.Pieces

namespace Retag.Code

open Text (isIdentifierPart isIdentifierStart)

variable {cs a tail : List Char} {ts ta tt : List Token} {c : Char}

/-! ## Plain text before another text -/

/-- Plain text and what follows it: no word and no sign reaches over the border, and
no point follows a number. -/
structure Precedes (a tail : List Char) (ta tt : List Token) : Prop where
  words : ∀ c ∈ a.getLast?, isIdentifierPart c = true → BreaksOff tail
  signs : ∀ c ∈ a.getLast?, c ∈ plainSigns → beginsSign tail = false
  noPoint : tail.head? ≠ some '.'
  points : beginsPoint tt = true → EndsOpen ta

variable {P : List Char → List Token → Prop}

theorem Tokenizes.scanFrom_single (hP : Tokenizes P) {run : List Char} (ha : Code.scanFrom [c] = some (run, ta))
    (htail : P tail tt) (h : Precedes [c] tail ta tt) : ∃ rest, [c] = run ++ rest ∧ (∀ d ∈ run, isIdentifierPart d = true) ∧
      BreaksOff (rest ++ tail) ∧ ((rest ++ tail).head? = some '.' → beginsPoint (ta ++ tt) = true) ∧
      P (rest ++ tail) (ta ++ tt) := by
  simp only [Code.scanFrom, Option.bind_some, flush] at ha
  cases hc : isIdentifierPart c with
  | true =>
    rw [if_pos hc] at ha
    obtain ⟨rfl, rfl⟩ := Prod.mk.inj (Option.some.inj ha)
    exact ⟨[], rfl, by simpa using hc, h.words c rfl hc, fun hp => absurd hp h.noPoint, htail⟩
  | false =>
    rw [if_neg (by simp [hc])] at ha
    obtain ⟨ts₁, hbreak, heq⟩ := Option.map_eq_some_iff.1 ha
    obtain ⟨rfl, rfl⟩ := Prod.mk.inj heq
    have hsign : beginsSign ([] ++ tail) = beginsSign [] ∨ c ∉ plainSigns :=
      (Classical.em (c ∈ plainSigns)).imp_left (h.signs c rfl)
    have hjoined := (breakToken_append hbreak hsign tt).1
    rw [List.nil_append, List.nil_append] at hjoined
    obtain ⟨hmem, hpoint, hread⟩ := hP.broken hjoined htail
    exact ⟨[c], rfl, by simp, by simpa [BreaksOff] using hmem, by simpa using hpoint, hread⟩

theorem Tokenizes.scanFrom_before (hP : Tokenizes P) {run : List Char} (ha : Code.scanFrom a = some (run, ta)) (hne : a ≠ [])
    (htail : P tail tt) (h : Precedes a tail ta tt) : ∃ rest, a = run ++ rest ∧
      (∀ d ∈ run, isIdentifierPart d = true) ∧ BreaksOff (rest ++ tail) ∧
      ((rest ++ tail).head? = some '.' → beginsPoint (ta ++ tt) = true) ∧
      P (rest ++ tail) (ta ++ tt) := by
  induction a generalizing run ta with
  | nil => contradiction
  | cons c a ih =>
    cases a with
    | nil => exact hP.scanFrom_single ha htail h
    | cons d a =>
      rw [Code.scanFrom, Option.bind_eq_some_iff] at ha
      obtain ⟨⟨run', ts'⟩, hscan, ha⟩ := ha
      dsimp only at ha
      cases hc : isIdentifierPart c with
      | true =>
        rw [if_pos hc] at ha
        obtain ⟨rfl, rfl⟩ := Prod.mk.inj (Option.some.inj ha)
        obtain ⟨rest, heq, hrun, hbreaks, hpoint, hread⟩ := ih hscan (by simp) ⟨h.words, h.signs, h.noPoint, h.points⟩
        exact ⟨rest, by rw [heq, List.cons_append], by simpa [hc] using hrun, hbreaks, hpoint, hread⟩
      | false =>
        rw [if_neg (by simp [hc])] at ha
        obtain ⟨ts₂, hbind, hpair⟩ := Option.map_eq_some_iff.1 ha
        obtain ⟨rfl, rfl⟩ := Prod.mk.inj hpair
        obtain ⟨ts₁, hflush, hbreak⟩ := Option.bind_eq_some_iff.1 hbind
        obtain ⟨hjoined, hopen⟩ := breakToken_append hbreak (.inl (beginsSign_append hscan tail)) tt
        have hopen₁ : beginsPoint tt = true → EndsOpen ts₁ := fun hp => hopen (h.points hp)
        obtain ⟨rest, heq, hrun, hbreaks, hpoint, hread⟩ :=
          ih hscan (by simp) ⟨h.words, h.signs, h.noPoint, fun hp => (hopen₁ hp).of_flush hflush⟩
        have hlater := hP.flushed hrun hbreaks hpoint (flush_append hflush hopen₁) hread
        rw [← List.append_assoc, ← heq] at hlater
        obtain ⟨hmem, hpoint', hread'⟩ := hP.broken hjoined hlater
        exact ⟨_, rfl, by simp, by simpa [BreaksOff] using hmem, by simpa using hpoint', hread'⟩

/-- What is known of a text is known of it behind plain text. -/
theorem Tokenizes.plain (hP : Tokenizes P) (htail : P tail tt) (ha : scan a = some ta) (h : Precedes a tail ta tt) :
    P (a ++ tail) (ta ++ tt) := by
  cases a with
  | nil =>
    obtain rfl : [] = ta := Option.some.inj ha
    exact htail
  | cons c a =>
    obtain ⟨⟨run, ts⟩, hscan, hflush⟩ := Option.bind_eq_some_iff.1 ha
    obtain ⟨rest, heq, hrun, hbreaks, hpoint, hread⟩ := hP.scanFrom_before hscan (by simp) htail
      ⟨h.words, h.signs, h.noPoint, fun hp => (h.points hp).of_flush hflush⟩
    rw [heq, List.append_assoc]
    exact hP.flushed hrun hbreaks hpoint (flush_append hflush h.points) hread

/-- Plain text that does not end with a word, before a word. -/
theorem precedes_of_part {text : String} {d : Char} (hends : endsApart text = true) (hd : isIdentifierPart d = true)
    (hpoint : beginsPoint tt = false) : Precedes text.toList (d :: tail) ta tt := by
  unfold endsApart at hends
  refine ⟨fun c hc hp => ?_, fun _ _ _ => beginsSign_of_part hd _, fun hp => ?_, fun hp => by simp [hp] at hpoint⟩
  · simp [Option.mem_def.1 hc, hp] at hends
  · obtain rfl : d = '.' := Option.some.inj hp
    exact absurd hd (by decide)

theorem Lexes.blank (htail : Lexes tail tt) : Lexes ('\n' :: tail) tt := Lexes.tokenizes.blank isSpace_feed htail

/-! ## Words -/

variable {w : String}

/-- Whatever follows the break, the word comes first. -/
theorem IsIdentifier.step (hw : IsIdentifier w) (hbreaks : BreaksOff tail) : Step (w.toList ++ tail) (.word w) tail := by
  obtain ⟨c, cs, heq, hstart⟩ := hw.start
  have hstep := Step.word hstart (fun d hd => hw.parts d (heq ▸ hd)) hbreaks
  rwa [← heq, String.ofList_toList] at hstep

theorem readWord_not_start (hstart : isIdentifierStart c = false) : readWord (c :: cs) = none := by
  have hletter : c ≠ 'r' := by rintro rfl; revert hstart; decide
  unfold readWord
  split
  next heq => exact absurd (List.cons.inj heq).1 hletter
  next => simp [hstart]

/-- A name is read up to a break, and so is one with the mark `r#`. -/
theorem readWord_raw (hw : IsIdentifier w) (hraw : w ∉ neverRaw) (hbreaks : BreaksOff tail) :
    readWord ('r' :: '#' :: (w.toList ++ tail)) = some ("r#" ++ w, tail) := by
  obtain ⟨c, cs, heq, hstart⟩ := hw.start
  have hspan : spanName (c :: cs ++ tail) = (c :: cs, tail) :=
    spanName_run (fun d hd => hw.parts d (heq ▸ hd)) hbreaks
  have hcontains : neverRaw.contains w = false := by simpa using hraw
  have hword : String.ofList (c :: cs) = w := by rw [← heq, String.ofList_toList]
  rw [heq]
  unfold readWord
  simp only [List.cons_append] at hspan ⊢
  rw [if_pos hstart, hspan, Option.bind_some]
  simp only [hword, hcontains, Bool.false_eq_true, if_false]

theorem readToken_raw (hw : IsIdentifier w) (hraw : w ∉ neverRaw) (hbreaks : BreaksOff tail) :
    readToken ('r' :: '#' :: (w.toList ++ tail)) = some (.word ("r#" ++ w), tail) := by
  obtain ⟨c, cs, heq, hstart⟩ := hw.start
  have hpart : isIdentifierPart c = true := hw.parts c (by rw [heq]; exact List.mem_cons_self)
  have hquote : c ≠ '"' := by rintro rfl; revert hpart; decide
  have hmark : c ≠ '#' := by rintro rfl; revert hpart; decide
  have hafter : afterRaw ('#' :: (w.toList ++ tail)) = none := by
    rw [heq, afterRaw, List.dropWhile_cons_of_pos (by decide), List.cons_append,
      List.dropWhile_cons_of_neg (by simpa using hmark)]
    split
    next h => exact absurd (List.cons.inj h).1 hquote
    next => rfl
  have hmarks : literalMarks.any (·.isPrefixOf ('r' :: '#' :: (w.toList ++ tail))) = false := by
    rw [heq]
    simp [literalMarks, List.isPrefixOf, hquote.symm, hmark.symm]
  have hliteral : afterLiteral ('r' :: '#' :: (w.toList ++ tail)) = none := hafter
  have hsign : beginsSign ('r' :: '#' :: (w.toList ++ tail)) = false := rfl
  have hopen : openingOf 'r' = none := rfl
  have hclose : closingOf 'r' = none := rfl
  unfold readToken
  simp only [hopen, hclose]
  unfold readLeaf
  simp only [hliteral, hsign, hmarks, readWord_raw hw hraw hbreaks, Bool.false_eq_true, if_false,
    Option.map_some]
  rfl

theorem IsIdentifier.stepRaw (hw : IsIdentifier w) (hraw : w ∉ neverRaw) (hbreaks : BreaksOff tail) :
    Step (("r#" ++ w).toList ++ tail) (.word ("r#" ++ w)) tail := by
  have hlist : ("r#" ++ w).toList ++ tail = 'r' :: '#' :: (w.toList ++ tail) := by simp
  rw [hlist]
  exact .of_readToken (by simp only [List.length_cons, List.length_append]; omega) (isSpace_of_part (by decide)) (by decide)
    (readToken_raw hw hraw hbreaks)

/-- A word that is taken off before a break. -/
structure TakesWord (w : String) : Prop where
  first : ∃ c cs, w.toList = c :: cs ∧ isIdentifierPart c = true
  step : ∀ tail, BreaksOff tail → Step (w.toList ++ tail) (.word w) tail

theorem IsIdentifier.takesWord (hw : IsIdentifier w) : TakesWord w := by
  obtain ⟨c, cs, heq, -⟩ := hw.start
  exact ⟨⟨c, cs, heq, hw.parts c (heq ▸ List.mem_cons_self)⟩, fun _ => hw.step⟩

theorem IsIdentifier.takesRaw (hw : IsIdentifier w) (hraw : w ∉ neverRaw) : TakesWord ("r#" ++ w) :=
  ⟨⟨'r', '#' :: w.toList, by simp, by decide⟩, fun _ => hw.stepRaw hraw⟩

/-- A word behind plain text. -/
theorem Tokenizes.word (hP : Tokenizes P) {text : String} (hw : TakesWord w)
    (htext : scan text.toList = some ta ∧ endsApart text = true) (hbreaks : BreaksOff tail) (htail : P tail tt) :
    P (text.toList ++ (w.toList ++ tail)) (ta ++ .word w :: tt) := by
  have hlater := hP.step (hw.step tail hbreaks) htail
  obtain ⟨c, cs, heq, hpart⟩ := hw.first
  rw [heq] at hlater ⊢
  exact hP.plain hlater htext.1 (precedes_of_part htext.2 hpart rfl)

/-! ## Pieces before another text -/

/-- A text with its tokens, put before a text that begins like a piece. -/
structure Fits (P : List Char → List Token → Prop) (text : String) (ts : List Token) : Prop where
  starts : ∀ c ∈ text.toList.head?, c ∈ pieceStarts
  reads : ∀ tail tt, (∀ c ∈ tail.head?, c ∈ pieceStarts) → P tail tt → P (text.toList ++ tail) (ts ++ tt)

variable {text rest : String} {tr tw : List Token}

theorem precedes_of_starts (h : ∀ c ∈ tail.head?, c ∈ pieceStarts) (hpoints : beginsPoint tt = true → EndsOpen ta) :
    Precedes a tail ta tt := by
  obtain ⟨-, hsigns, -⟩ : Border a tail ta tt := border_of_starts h hpoints
  refine ⟨fun _ _ _ c hc => (by decide : pieceStarts ⊆ breaks) (h c hc), hsigns, fun hp => ?_, hpoints⟩
  exact absurd (h '.' hp) (by decide)

theorem IsPiece.fits (hP : Tokenizes P) (h : IsPiece text ts) : Fits P text ts :=
  ⟨h.starts, fun _ _ hstarts htail => hP.plain htail h.tokens (precedes_of_starts hstarts fun _ => h.ends)⟩

theorem Fits.append (ha : Fits P text ts) (hb : Fits P rest tr) : Fits P (text ++ rest) (ts ++ tr) := by
  have hstarts : ∀ {a b : List Char}, (∀ c ∈ a.head?, c ∈ pieceStarts) → (∀ c ∈ b.head?, c ∈ pieceStarts) →
      ∀ c ∈ (a ++ b).head?, c ∈ pieceStarts := by
    intro a b hca hcb c hc
    rw [List.head?_append] at hc
    rcases Option.or_eq_some_iff.1 hc with h | ⟨-, h⟩
    · exact hca c h
    · exact hcb c h
  refine ⟨?_, fun tail tt htail hlater => ?_⟩
  · rw [String.toList_append]
    exact hstarts ha.starts hb.starts
  · rw [String.toList_append, List.append_assoc, List.append_assoc]
    exact ha.reads _ _ (hstarts hb.starts htail) (hb.reads tail tt htail hlater)

/-- What a call without arguments calls. -/
structure Called (P : List Char → List Token → Prop) (w : String) (tw : List Token) : Prop where
  parts : ∀ c ∈ w.toList, isIdentifierPart c = true
  reads : ∀ tail tt, P ('(' :: tail) tt → P (w.toList ++ '(' :: tail) (tw ++ tt)

/-- A piece goes on with a call. -/
theorem IsPiece.call (hP : Tokenizes P) (ha : IsPiece text ts) (hends : endsApart text = true) (hw : Called P w tw) :
    Fits P (text ++ w ++ "()") (ts ++ tw ++ [.opening .parenthesis, .closing .parenthesis]) := by
  refine ⟨fun c hc => ?_, fun tail tt _ htail => ?_⟩
  · cases h : text.toList with
    | nil => simp [endsApart, h] at hends
    | cons d cs =>
      rw [String.toList_append, String.toList_append, h] at hc
      exact ha.starts c (by rw [h]; exact hc)
  · have hcall := hw.reads (')' :: tail) _ (hP.step (.opening rfl) (hP.step (.closing (b := .parenthesis) rfl) htail))
    have hborder : Precedes text.toList (w.toList ++ '(' :: ')' :: tail) ts
        (tw ++ .opening .parenthesis :: .closing .parenthesis :: tt) := by
      unfold endsApart at hends
      refine ⟨fun c hc hp => ?_, fun _ _ _ => ?_, fun hp => ?_, fun _ => ha.ends⟩
      · simp [Option.mem_def.1 hc, hp] at hends
      · cases h : w.toList with
        | nil => rfl
        | cons d cs => exact beginsSign_of_part (hw.parts d (by simp [h])) _
      · cases h : w.toList with
        | nil => simp [h] at hp
        | cons d cs =>
          rw [h] at hp
          obtain rfl : d = '.' := Option.some.inj hp
          exact absurd (hw.parts '.' (by simp [h])) (by decide)
    have hall := hP.plain hcall ha.tokens hborder
    simpa using hall

/-- A word is called. -/
theorem IsIdentifier.called (hP : Tokenizes P) (hw : IsIdentifier w) : Called P w [.word w] :=
  ⟨hw.parts, fun _ _ h => hP.step (hw.step (breaksOff_cons (by decide))) h⟩

/-! ## Comments that document -/

/-- A line feed and a carriage return do not stand within a line. -/
def IsLine (line : List Char) : Prop := line.all (fun c => c != '\n' && c != '\r') = true

instance (line : List Char) : Decidable (IsLine line) := inferInstanceAs (Decidable (_ = true))

theorem isLine_iff {line : List Char} : IsLine line ↔ ∀ c ∈ line, c ≠ '\n' ∧ c ≠ '\r' := by
  simp [IsLine]

theorem IsLine.append {a b : List Char} (ha : IsLine a) (hb : IsLine b) : IsLine (a ++ b) :=
  isLine_iff.2 fun c hc => (List.mem_append.1 hc).elim (isLine_iff.1 ha c) (isLine_iff.1 hb c)

theorem lineComment_line {line : List Char} (h : IsLine line) :
    lineComment (line ++ '\n' :: tail) = (line, '\n' :: tail) := by
  rw [isLine_iff] at h
  induction line with
  | nil => rfl
  | cons c line ih =>
    obtain ⟨hfeed, hreturn⟩ := h c List.mem_cons_self
    have hlater := ih fun d hd => h d (List.mem_cons_of_mem _ hd)
    rw [List.cons_append, lineComment, hlater]
    · exact fun hc => hfeed hc
    · exact fun _ hc => absurd hc hreturn

theorem endsLinesWell_line {line : List Char} (h : IsLine line) : endsLinesWell line = true := by
  rw [isLine_iff] at h
  induction line with
  | nil => rfl
  | cons c line ih =>
    have hreturn := (h c List.mem_cons_self).2
    rw [endsLinesWell]
    · exact ih fun d hd => h d (List.mem_cons_of_mem _ hd)
    · exact fun _ hc => absurd hc hreturn
    · exact fun hc => hreturn hc

theorem openingComment_doc (hslash : cs.head? ≠ some '/') :
    openingComment ('/' :: '/' :: '/' :: cs) = .doc false (lineComment cs).1 (lineComment cs).2 := by
  cases cs with
  | nil => rfl
  | cons c cs =>
    have hc : c ≠ '/' := by simpa using hslash
    rw [openingComment]
    exact fun _ h => hc (List.cons.inj h).1

/-- A line behind three slashes. -/
theorem Step.doc {line : List Char} (h : IsLine line) (hslash : line.head? ≠ some '/') :
    Step ('/' :: '/' :: '/' :: (line ++ '\n' :: tail)) (.doc false (String.ofList line)) ('\n' :: tail) := by
  refine ⟨by simp only [List.length_cons, List.length_append]; omega, fun fuel => ?_⟩
  have hhead : (line ++ '\n' :: tail).head? ≠ some '/' := by
    cases line with
    | nil => simp
    | cons c line => simpa using hslash
  have hcomment : openingComment ('/' :: '/' :: '/' :: (line ++ '\n' :: tail)) =
      .doc false line ('\n' :: tail) := by
    rw [openingComment_doc hhead, lineComment_line h]
  have hdoc : docToken false line ('\n' :: tail) =
      some (.doc false (String.ofList line), '\n' :: tail) := if_pos (endsLinesWell_line h)
  rw [readTokens, List.dropWhile_cons_of_neg (by simp)]
  simp only [hcomment, hdoc, Option.bind_eq_bind, Option.bind_some]
  cases readTokens fuel ('\n' :: tail) <;> rfl

/-- A line of a comment that documents. -/
def docLine (line : String) : String := "///" ++ line ++ "\n"

theorem Tokenizes.docs (hP : Tokenizes P) {lines : List String} (htail : P tail tt)
    (h : ∀ line ∈ lines, IsLine line.toList ∧ line.toList.head? ≠ some '/') :
    P ((String.join (lines.map docLine)).toList ++ tail) (lines.map (.doc false) ++ tt) := by
  induction lines with
  | nil =>
    rw [List.map_nil, String.join_nil]
    exact htail
  | cons line lines ih =>
    obtain ⟨hline, hslash⟩ := h line List.mem_cons_self
    have hlater := ih fun d hd => h d (List.mem_cons_of_mem _ hd)
    have hfirst := hP.step (.doc hline hslash) (hP.blank isSpace_feed hlater)
    rw [String.ofList_toList] at hfirst
    have hlist : (String.join ((line :: lines).map docLine)).toList ++ tail =
        '/' :: '/' :: '/' :: (line.toList ++ '\n' :: ((String.join (lines.map docLine)).toList ++ tail)) := by
      simp [docLine, String.join_cons]
    rw [hlist]
    exact hfirst

theorem Lexes.docs {lines : List String} (htail : Lexes tail tt)
    (h : ∀ line ∈ lines, IsLine line.toList ∧ line.toList.head? ≠ some '/') :
    Lexes ((String.join (lines.map docLine)).toList ++ tail) (lines.map (.doc false) ++ tt) :=
  Lexes.tokenizes.docs htail h

end Retag.Code
