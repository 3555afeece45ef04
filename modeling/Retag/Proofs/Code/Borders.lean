/-
The tokens of a text that is not known, up to a place where a break stands.

No word and no sign reaches over a break. So the tokens of a text in which no comment
begins end at the break behind it, unless one of them is a literal that goes on there
(`readTokens_border`). Of the first token of a text enough is known from its first
character (`readToken_initial`).
-/
import Retag.Proofs.Code.Comments

namespace Retag.Code

open Text (isIdentifierPart isIdentifierStart)

variable {a cs tail rest blanks : List Char} {ts : List Token} {t : Token} {c s : Char} {w : String} {fuel : Nat}
  {p : Char → Bool}

/-! ## Text that ends no item -/

/-- Text in which no semicolon stands, and no comment begins that may go on over lines. -/
structure Unbroken (cs : List Char) : Prop where
  semicolon : ';' ∉ cs
  block : ¬['/', '*'] <:+: cs

theorem Unbroken.suffix (h : Unbroken cs) (ha : a <:+ cs) : Unbroken a :=
  ⟨fun hmem => h.semicolon (ha.subset hmem), fun hblock => h.block (hblock.trans ha.isInfix)⟩

/-- What follows such a text begins no comment with it. -/
theorem Unbroken.openingComment (h : Unbroken (c :: a)) (hline : ∀ line, c :: a ≠ '/' :: '/' :: line) (hs : s ∈ breaks) :
    openingComment (c :: a ++ s :: tail) = .other := by
  by_cases hslash : c = '/'
  · subst hslash
    cases a with
    | nil => exact openingComment_slash (by rintro rfl; revert hs; decide) (by rintro rfl; revert hs; decide)
    | cons d a =>
      refine openingComment_slash ?_ ?_
      · rintro rfl
        exact hline a rfl
      · rintro rfl
        exact h.block (List.prefix_append ['/', '*'] a).isInfix
  · exact openingComment_other hslash

/-! ## Words -/

theorem dropWhile_border (hs : p s = false) : (a ++ s :: tail).dropWhile p = a.dropWhile p ++ s :: tail := by
  rw [List.dropWhile_append, List.dropWhile_cons_of_neg (by simp [hs])]
  split
  next h => rw [List.isEmpty_iff.1 h, List.nil_append]
  next => rfl

theorem takeWhile_border (hs : p s = false) : (a ++ s :: tail).takeWhile p = a.takeWhile p := by
  rw [List.takeWhile_append, List.takeWhile_cons_of_neg (by simp [hs])]
  split
  next h => rw [List.append_nil, (List.takeWhile_prefix p).eq_of_length h]
  next => rfl

/-- A word is raw, or all the characters that can stand in it. -/
theorem readWord_cases (h : readWord cs = some (w, rest)) :
    (∃ raw, cs = 'r' :: '#' :: raw ∧ w.toList.head? = some 'r' ∧ rest = raw.dropWhile isIdentifierPart) ∨
      cs.head?.any isIdentifierStart = true ∧ w.toList = cs.takeWhile isIdentifierPart ∧
        rest = cs.dropWhile isIdentifierPart := by
  unfold readWord at h
  split at h
  next raw =>
    dsimp only at h
    obtain ⟨⟨name, after⟩, hplain, hname⟩ := Option.bind_eq_some_iff.1 h
    dsimp only at hname
    split at hname
    next => cases hname
    next =>
      obtain ⟨rfl, rfl⟩ := Prod.mk.inj (Option.some.inj hname)
      refine .inl ⟨raw, rfl, by simp, ?_⟩
      split at hplain
      next => cases hplain
      next =>
        split at hplain
        next => exact (Prod.mk.inj (Option.some.inj hplain)).2.symm
        next => cases hplain
  next =>
    dsimp only at h
    split at h
    next => cases h
    next c cs _ =>
      split at h
      next hstart =>
        obtain ⟨rfl, rfl⟩ := Prod.mk.inj (Option.some.inj h)
        exact .inr ⟨hstart, String.toList_ofList, rfl⟩
      next => cases h

theorem slash_not_mem_takeWhile (a : List Char) : '/' ∉ a.takeWhile isIdentifierPart := by
  intro hmem
  have hpart : isIdentifierPart '/' = true := List.all_eq_true.1 List.all_takeWhile '/' hmem
  exact absurd hpart (by decide)

/-- No word reaches over a break. -/
theorem readWord_border (hs : s ∈ breaks) (h : readWord (a ++ s :: tail) = some (w, rest)) :
    ∃ x a', a = x ++ a' ∧ '/' ∉ x ∧ rest = a' ++ s :: tail := by
  have hpart : isIdentifierPart s = false := not_part_of_break hs
  obtain ⟨raw, hraw, -, rfl⟩ | ⟨-, -, rfl⟩ := readWord_cases h
  · -- The break is neither the letter nor the mark of a raw word.
    obtain ⟨b, rfl, rfl⟩ : ∃ b, raw = b ++ s :: tail ∧ a = 'r' :: '#' :: b := by
      have hletter : s ≠ 'r' := by rintro rfl; revert hs; decide
      have hmark : s ≠ '#' := by rintro rfl; revert hs; decide
      match a with
      | [] => simp [hletter] at hraw
      | [_] => simp [hmark] at hraw
      | d :: e :: b =>
        simp only [List.cons_append, List.cons.injEq] at hraw
        obtain ⟨rfl, rfl, rfl⟩ := hraw
        exact ⟨b, rfl, rfl⟩
    refine ⟨'r' :: '#' :: b.takeWhile isIdentifierPart, b.dropWhile isIdentifierPart, ?_, ?_, dropWhile_border hpart⟩
    · rw [List.cons_append, List.cons_append, List.takeWhile_append_dropWhile]
    · simp [slash_not_mem_takeWhile b]
  · exact ⟨_, _, List.takeWhile_append_dropWhile.symm, slash_not_mem_takeWhile a, dropWhile_border hpart⟩

/-! ## Tokens -/

/-- Whether a token is a name, a sign or a bracket. -/
def Token.isPlain : Token → Bool
  | .word _ | .sign .. | .opening _ | .closing _ => true
  | .lifetime _ | .literal _ | .doc .. => false

/-- The character that a token begins with, if it is a name, a sign or a bracket. -/
def Token.initial : Token → Option Char
  | .word w => w.toList.head?
  | .sign c _ => some c
  | .opening b => some b.opening
  | .closing b => some b.closing
  | .lifetime _ | .literal _ | .doc .. => none

/-- At a letter that begins no literal a word is read, whatever follows. -/
theorem readToken_start (hstart : isIdentifierStart c = true) (hpart : isIdentifierPart c = true)
    (hliteral : c ∉ ['r', 'b', 'c']) : readToken (c :: cs) =
      some (.word (String.ofList ((c :: cs).takeWhile isIdentifierPart)), (c :: cs).dropWhile isIdentifierPart) := by
  obtain ⟨hopen, hclose⟩ := brackets_of_part hpart
  simp only [List.mem_cons, List.not_mem_nil, or_false, not_or] at hliteral
  obtain ⟨hr, hb, hraw⟩ := hliteral
  have hquote : c ≠ '"' ∧ c ≠ '\x27' := by constructor <;> (rintro rfl; revert hpart; decide)
  have hdigit := (digitOf_of_start hstart).1
  have hafter : afterLiteral (c :: cs) = none := by
    have hwhole : afterWhole (c :: cs) = none := by
      unfold afterWhole
      split
      all_goals first
        | (next h => obtain ⟨rfl, -⟩ := List.cons.inj h; cases hdigit)
        | (rw [afterDigits_of_start hstart]; rfl)
    have hfraction : afterFraction (c :: cs) = none := by
      unfold afterFraction
      simp [hdigit]
    unfold afterLiteral
    split
    all_goals first
      | (next h => exact absurd (List.cons.inj h).1 (by first | exact hquote.1 | exact hquote.2 | exact hr | exact hb | exact hraw))
      | (rw [hwhole, hfraction]; rfl)
  have hmarks : literalMarks.any (·.isPrefixOf (c :: cs)) = false := by
    simp [literalMarks, List.isPrefixOf, Ne.symm hr, Ne.symm hb, Ne.symm hraw]
  have hword : readWord (c :: cs) =
      some (String.ofList ((c :: cs).takeWhile isIdentifierPart), (c :: cs).dropWhile isIdentifierPart) := by
    unfold readWord
    split
    next h => exact absurd (List.cons.inj h).1 hr
    next => exact if_pos hstart
  unfold readToken
  simp only [hopen, hclose]
  unfold readLeaf
  simp only [hafter]
  split
  next h => exact absurd (List.cons.inj h).1 hquote.2
  next h =>
    obtain ⟨rfl, rfl⟩ := List.cons.inj h
    rw [beginsSign_of_part hpart, hmarks, hword]
    rfl
  next h => cases h

/-- What is read at a character that is no bracket, if it is no literal. -/
theorem readLeaf_cases (h : readLeaf (c :: cs) = some (t, rest)) :
    (∃ l, t = .literal l) ∨ (∃ w, t = .lifetime w ∧ readWord cs = some (w, rest)) ∨
      (t = .sign c (beginsSign cs) ∧ rest = cs) ∨ ∃ w, t = .word w ∧ readWord (c :: cs) = some (w, rest) := by
  unfold readLeaf at h
  split at h
  next => exact .inl ⟨_, (Prod.mk.inj (Option.some.inj h)).1.symm⟩
  next =>
    split at h
    next heq =>
      obtain ⟨-, rfl⟩ := List.cons.inj heq
      obtain ⟨⟨w, after⟩, hword, hlifetime⟩ := Option.bind_eq_some_iff.1 h
      refine .inr (.inl ⟨w, ?_⟩)
      dsimp only at hlifetime
      split at hlifetime
      next => cases hlifetime
      next =>
        split at hlifetime
        next =>
          obtain ⟨rfl, rfl⟩ := Prod.mk.inj (Option.some.inj hlifetime)
          exact ⟨rfl, hword⟩
        next => cases hlifetime
      next =>
        obtain ⟨rfl, rfl⟩ := Prod.mk.inj (Option.some.inj hlifetime)
        exact ⟨rfl, hword⟩
    next heq =>
      obtain ⟨rfl, rfl⟩ := List.cons.inj heq
      split at h
      next =>
        obtain ⟨rfl, rfl⟩ := Prod.mk.inj (Option.some.inj h)
        exact .inr (.inr (.inl ⟨rfl, rfl⟩))
      next =>
        split at h
        next => cases h
        next =>
          obtain ⟨⟨w, after⟩, hword, heq⟩ := Option.map_eq_some_iff.1 h
          obtain ⟨rfl, rfl⟩ := Prod.mk.inj heq
          exact .inr (.inr (.inr ⟨w, rfl, hword⟩))
    next heq => cases heq

theorem readToken_cases (h : readToken (c :: cs) = some (t, rest)) :
    (∃ l, t = .literal l) ∨ (∃ w, t = .lifetime w ∧ readWord cs = some (w, rest)) ∨
      (t.initial = some c ∧ (∀ w, t ≠ .word w) ∧ rest = cs) ∨ ∃ w, t = .word w ∧ readWord (c :: cs) = some (w, rest) := by
  unfold readToken at h
  dsimp only at h
  split at h
  next b _ hopen =>
    obtain ⟨rfl, rfl⟩ := Prod.mk.inj (Option.some.inj h)
    refine .inr (.inr (.inl ⟨?_, nofun, rfl⟩))
    have hb := List.find?_some hopen
    exact congrArg some (beq_iff_eq.1 hb)
  next b _ hclose =>
    obtain ⟨rfl, rfl⟩ := Prod.mk.inj (Option.some.inj h)
    refine .inr (.inr (.inl ⟨?_, nofun, rfl⟩))
    have hb := List.find?_some hclose
    exact congrArg some (beq_iff_eq.1 hb)
  next =>
    obtain hliteral | hlifetime | ⟨rfl, rfl⟩ | hword := readLeaf_cases h
    · exact .inl hliteral
    · exact .inr (.inl hlifetime)
    · exact .inr (.inr (.inl ⟨rfl, nofun, rfl⟩))
    · exact .inr (.inr (.inr hword))

theorem readWord_of_readToken (h : readToken (c :: cs) = some (.word w, rest)) : readWord (c :: cs) = some (w, rest) := by
  obtain ⟨l, heq⟩ | ⟨_, heq, -⟩ | ⟨-, hword, -⟩ | ⟨w', heq, hword⟩ := readToken_cases h
  · cases heq
  · cases heq
  · exact absurd rfl (hword w)
  · exact Token.word.inj heq ▸ hword

theorem readToken_initial (h : readToken (c :: cs) = some (t, rest)) {d : Char} (hd : t.initial = some d) : c = d := by
  obtain ⟨l, rfl⟩ | ⟨w, rfl, -⟩ | ⟨hinitial, -, -⟩ | ⟨w, rfl, hword⟩ := readToken_cases h
  · cases hd
  · cases hd
  · exact Option.some.inj (hinitial.symm.trans hd)
  · have hhead : w.toList.head? = some d := hd
    obtain ⟨raw, hraw, hletter, -⟩ | ⟨-, hplain, -⟩ := readWord_cases hword
    · obtain ⟨rfl, -⟩ := List.cons.inj hraw
      exact Option.some.inj (hletter.symm.trans hhead)
    · rw [hplain, List.takeWhile_cons] at hhead
      split at hhead
      next => exact Option.some.inj hhead
      next => cases hhead

/-- No name, sign or bracket reaches over a break, and no stroke stands in one that is
longer than its first character. -/
theorem readToken_border (hs : s ∈ breaks) (h : readToken (c :: a ++ s :: tail) = some (t, rest)) :
    t.isPlain = false ∨ ∃ x a', c :: a = x ++ a' ∧ (x = [c] ∨ '/' ∉ x) ∧ rest = a' ++ s :: tail := by
  obtain ⟨l, rfl⟩ | ⟨w, rfl, -⟩ | ⟨-, -, rfl⟩ | ⟨w, rfl, hword⟩ := readToken_cases h
  · exact .inl rfl
  · exact .inl rfl
  · exact .inr ⟨[c], a, rfl, .inl rfl, rfl⟩
  · obtain ⟨x, a', heq, hx, rfl⟩ := readWord_border (a := c :: a) hs hword
    exact .inr ⟨x, a', heq, .inr hx, rfl⟩

/-- A word before a break: what its first character tells. -/
theorem readToken_border_word (hs : s ∈ breaks) (h : readToken (c :: a ++ s :: tail) = some (.word w, rest)) :
    (c = 'r' ∧ w.toList.head? = some 'r') ∨
      isIdentifierStart c = true ∧ w.toList = (c :: a).takeWhile isIdentifierPart := by
  have hword : readWord (c :: a ++ s :: tail) = some (w, rest) := readWord_of_readToken h
  obtain ⟨_, hraw, hw, -⟩ | ⟨hstart, hw, -⟩ := readWord_cases hword
  · exact .inl ⟨(List.cons.inj hraw).1, hw⟩
  · rw [takeWhile_border (not_part_of_break hs)] at hw
    exact .inr ⟨hstart, hw⟩

/-- A word at the start of a text that goes on behind it with something else. -/
theorem readTokens_word {x : List Char} (hparts : ∀ c ∈ x, isIdentifierPart c = true) (hne : x ≠ [])
    (hrest : ∀ c ∈ rest.head?, isIdentifierPart c = false ∧ c ≠ '#')
    (h : readTokens fuel (x ++ rest) = some (.word w :: ts)) :
    w.toList = x ∧ IsIdentifier w ∧ ∃ fuel', readTokens fuel' rest = some ts := by
  obtain ⟨c, x, rfl⟩ := List.exists_cons_of_ne_nil hne
  have hc : isIdentifierPart c = true := hparts c List.mem_cons_self
  have hslash : c ≠ '/' := by rintro rfl; revert hc; decide
  cases fuel with
  | zero => cases h
  | succ fuel =>
    rw [readTokens, List.cons_append, List.dropWhile_cons_of_neg (by simp [isSpace_of_part hc])] at h
    simp only [openingComment_other hslash] at h
    obtain ⟨⟨t, after⟩, htoken, h⟩ := Option.bind_eq_some_iff.1 h
    obtain ⟨later, hlater, heq⟩ := Option.bind_eq_some_iff.1 h
    obtain ⟨rfl, rfl⟩ := List.cons.inj (Option.some.inj heq)
    obtain ⟨raw, hraw, -, -⟩ | ⟨hstart, hw, rfl⟩ := readWord_cases (readWord_of_readToken htoken)
    · -- The mark of a raw word cannot stand in a word, nor does the rest begin with it.
      obtain ⟨-, hmark⟩ := List.cons.inj hraw
      cases x with
      | nil => exact absurd rfl (hrest '#' (by rw [show rest = '#' :: raw from hmark]; rfl)).2
      | cons d x =>
        obtain ⟨rfl, -⟩ := List.cons.inj hmark
        exact absurd (hparts '#' (by simp)) (by decide)
    · have hends : ∀ d ∈ rest.head?, isIdentifierPart d = false := fun d hd => (hrest d hd).1
      rw [← List.cons_append, takeWhile_run hparts hends] at hw
      rw [← List.cons_append, dropWhile_run hparts hends] at hlater
      exact ⟨hw, ⟨fun d hd => hparts d (hw ▸ hd), c, x, hw, hstart⟩, fuel, hlater⟩

/-- The first token of a text that begins with no comment. -/
theorem readTokens_first (h : Unbroken (c :: a)) (hs : s ∈ breaks) (hc : isSpace c = false)
    (hline : ∀ line, c :: a ≠ '/' :: '/' :: line) (hread : readTokens fuel (c :: a ++ s :: tail) = some ts) :
    ∃ fuel' t rest later, fuel = fuel' + 1 ∧ readToken (c :: a ++ s :: tail) = some (t, rest) ∧
      readTokens fuel' rest = some later ∧ ts = t :: later := by
  cases fuel with
  | zero => cases hread
  | succ fuel =>
    rw [readTokens, List.cons_append, List.dropWhile_cons_of_neg (by simp [hc])] at hread
    dsimp only at hread
    rw [← List.cons_append, h.openingComment hline hs] at hread
    obtain ⟨⟨t, rest⟩, htoken, hread⟩ := Option.bind_eq_some_iff.1 hread
    obtain ⟨later, hlater, heq⟩ := Option.bind_eq_some_iff.1 hread
    exact ⟨fuel, t, rest, later, rfl, htoken, hlater, (Option.some.inj heq).symm⟩

theorem readTokens_blanks (hblanks : ∀ d ∈ blanks, isSpace d = true) :
    readTokens fuel (blanks ++ cs) = readTokens fuel cs := by
  induction blanks with
  | nil => rfl
  | cons d blanks ih =>
    rw [List.cons_append, readTokens_blank (hblanks d List.mem_cons_self)]
    exact ih fun e he => hblanks e (List.mem_cons_of_mem _ he)

/-- A text is blank, or blanks and something else. -/
theorem blanks_or_first (a : List Char) : (∀ d ∈ a, isSpace d = true) ∨
    ∃ blanks c b, a = blanks ++ c :: b ∧ (∀ d ∈ blanks, isSpace d = true) ∧ isSpace c = false := by
  induction a with
  | nil => exact .inl nofun
  | cons d a ih =>
    cases hd : isSpace d with
    | false => exact .inr ⟨[], d, a, rfl, nofun, hd⟩
    | true =>
      refine ih.imp (fun hblank => List.forall_mem_cons.2 ⟨hd, hblank⟩) ?_
      rintro ⟨blanks, c, b, rfl, hblanks, hc⟩
      exact ⟨d :: blanks, c, b, rfl, List.forall_mem_cons.2 ⟨hd, hblanks⟩, hc⟩

theorem slash_not_mem_blanks (hblanks : ∀ d ∈ blanks, isSpace d = true) : '/' ∉ blanks := fun hmem =>
  absurd (hblanks '/' hmem) (by simp)

/-- Whether a token is a semicolon. -/
def Token.isSemicolon : Token → Bool
  | .sign c _ => c == ';'
  | _ => false

theorem readToken_no_semicolon (h : Unbroken (c :: a)) (htoken : readToken (c :: cs) = some (t, rest)) :
    t.isSemicolon = false := by
  cases t with
  | sign d j =>
    obtain rfl := readToken_initial htoken rfl
    have hne : c ≠ ';' := fun heq => h.semicolon (heq ▸ List.mem_cons_self)
    simpa [Token.isSemicolon] using hne
  | word | lifetime | literal | opening | closing | doc => rfl

/-- How the tokens of a text go on at the break behind it: with one that reaches over
it, or with those behind the break, or of the lines below if a comment hides it. -/
inductive GoesOn (a : List Char) (s : Char) (tail : List Char) (back : List Token) : Prop
  | across {t : Token} {later : List Token} (heq : back = t :: later) (ht : t.isPlain = false)
  | behind (ha : ¬EndsInComment a) {fuel : Nat} (hread : readTokens fuel (s :: tail) = some back)
  | below (ha : EndsInComment a) {fuel : Nat} (hread : readTokens fuel (lineComment tail).2 = some back)

theorem GoesOn.of_iff {b : List Char} (h : GoesOn b s tail ts) (hiff : EndsInComment a ↔ EndsInComment b) :
    GoesOn a s tail ts := by
  cases h with
  | across heq ht => exact .across heq ht
  | behind hb hread => exact .behind (mt hiff.1 hb) hread
  | below hb hread => exact .below (hiff.2 hb) hread

/-- **The tokens of a text up to the break behind it.** -/
theorem readTokens_border (h : Unbroken a) (hs : s ∈ breaks) (hfeed : s ≠ '\n')
    (hread : readTokens fuel (a ++ s :: tail) = some ts) :
    ∃ front back, ts = front ++ back ∧ (∀ t ∈ front, t.isSemicolon = false) ∧ GoesOn a s tail back := by
  induction fuel generalizing a ts with
  | zero => cases hread
  | succ fuel ih =>
    obtain hblank | ⟨blanks, c, b, rfl, hblanks, hc⟩ := blanks_or_first a
    · rw [readTokens_blanks hblank] at hread
      refine ⟨[], ts, rfl, nofun, .behind ?_ hread⟩
      simpa [EndsInComment] using endsInComment_append (a := []) (slash_not_mem_blanks hblank)
    · have hb : Unbroken (c :: b) := h.suffix (List.suffix_append ..)
      have hskip : EndsInComment (blanks ++ c :: b) ↔ EndsInComment (c :: b) :=
        endsInComment_append (slash_not_mem_blanks hblanks)
      rw [List.append_assoc, readTokens_blanks hblanks] at hread
      by_cases hline : ∃ line, c :: b = '/' :: '/' :: line
      · obtain ⟨line, heq⟩ := hline
        obtain ⟨rfl, rfl⟩ := List.cons.inj heq
        rw [List.cons_append, List.cons_append] at hread
        obtain ⟨-, _, _, later, rfl⟩ | ⟨-, _, hfuel, hrest⟩ := readTokens_line hread
        · exact ⟨[], _, rfl, nofun, .across rfl rfl⟩
        · obtain rfl := Nat.succ.inj hfuel
          by_cases hmem : '\n' ∈ line
          · -- The comment ends within the text.
            obtain ⟨line, b, rfl, hline⟩ := List.eq_append_cons_of_mem hmem
            rw [List.append_assoc, List.cons_append, lineComment_rest hline] at hrest
            obtain ⟨front, back, rfl, hfront, hback⟩ := ih (a := '\n' :: b) (hb.suffix ⟨'/' :: '/' :: line, by simp⟩) hrest
            refine ⟨front, back, rfl, hfront, hback.of_iff (hskip.trans ?_)⟩
            exact (endsInComment_feed (x := '/' :: '/' :: line)).trans (endsInComment_feed (x := [])).symm
          · rw [lineComment_append hmem, lineComment_cons hfeed] at hrest
            exact ⟨[], ts, rfl, nofun, .below (hskip.2 (endsInComment_line hmem)) hrest⟩
      · have hline : ∀ line, c :: b ≠ '/' :: '/' :: line := fun line heq => hline ⟨line, heq⟩
        obtain ⟨_, t, rest, later, hfuel, htoken, hlater, rfl⟩ := readTokens_first hb hs hc hline hread
        obtain rfl := Nat.succ.inj hfuel
        obtain ht | ⟨x, a', hx, hstroke, rfl⟩ := readToken_border hs htoken
        · exact ⟨[], _, rfl, nofun, .across rfl ht⟩
        · obtain ⟨front, back, rfl, hfront, hback⟩ := ih (hb.suffix ⟨x, hx.symm⟩) hlater
          refine ⟨t :: front, back, rfl, List.forall_mem_cons.2 ⟨readToken_no_semicolon hb htoken, hfront⟩, ?_⟩
          refine hback.of_iff (hskip.trans ?_)
          obtain rfl | hstroke := hstroke
          · obtain ⟨-, rfl⟩ := List.cons.inj hx
            exact endsInComment_cons hline
          · rw [hx]
            exact endsInComment_append hstroke

end Retag.Code
