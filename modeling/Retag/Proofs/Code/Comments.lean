/-
Comments of lines in a text that is not known. Each ends with its line, or with the text
if no line feed follows. So whether a comment is open at the end of a text is seen from
its last line (`EndsInComment`), and what is passed over as blank is, behind any end of
a line, passed over again (`Skipped.behind`).
-/
import Retag.Proofs.Code.Lexing

namespace Retag.Code

open Text (isIdentifierPart)

variable {a cs line tail x : List Char} {ts : List Token} {c s : Char} {fuel : Nat}

/-! ## What a comment of a line leaves -/

theorem lineComment_cons (hc : c ≠ '\n') : (lineComment (c :: cs)).2 = (lineComment cs).2 := by
  rw [lineComment.eq_def (c :: cs)]
  split
  next heq => cases heq
  next heq => exact absurd (List.cons.inj heq).1 hc
  next heq =>
    -- A carriage return ends the line with the line feed.
    obtain ⟨-, rfl⟩ := List.cons.inj heq
    rfl
  next heq =>
    obtain ⟨rfl, rfl⟩ := List.cons.inj heq
    rfl

theorem lineComment_append (h : '\n' ∉ line) : (lineComment (line ++ cs)).2 = (lineComment cs).2 := by
  induction line with
  | nil => rfl
  | cons c line ih =>
    obtain ⟨hc, hline⟩ := not_or.1 (mt List.mem_cons.2 h)
    rw [List.cons_append, lineComment_cons (Ne.symm hc), ih hline]

/-- What is left begins with the end of the line. -/
theorem lineComment_rest (h : '\n' ∉ line) : (lineComment (line ++ '\n' :: tail)).2 = '\n' :: tail :=
  lineComment_append h

/-! ## Where a comment begins -/

/-- Whether a comment documents something, from what stands behind its two strokes. -/
def Documents (cs : List Char) : Prop :=
  cs.head? = some '!' ∨ cs.head? = some '/' ∧ cs.tail.head? ≠ some '/'

instance (cs : List Char) : Decidable (Documents cs) := inferInstanceAs (Decidable (_ ∨ _))

theorem documents_append (hmark : s ≠ '!') (hslash : s ≠ '/') : Documents (cs ++ s :: tail) ↔ Documents cs := by
  cases cs with
  | nil => simp [Documents, hmark, hslash]
  | cons c cs =>
    cases cs with
    | nil => simp [Documents, hslash]
    | cons d cs => simp [Documents]

theorem openingComment_slash {d : Char} (hslash : d ≠ '/') (hstar : d ≠ '*') : openingComment ('/' :: d :: cs) = .other := by
  unfold openingComment
  split
  all_goals first
    | rfl
    | (next h => exact absurd (List.cons.inj (List.cons.inj h).2).1 ‹_›)

/-- A comment of a line is passed over, or documents. -/
theorem openingComment_line (cs : List Char) : openingComment ('/' :: '/' :: cs) =
    if Documents cs then .doc (cs.head? == some '!') (lineComment cs.tail).1 (lineComment cs.tail).2
    else .skipped (lineComment cs).2 := by
  cases cs with
  | nil => rfl
  | cons c cs =>
    by_cases hmark : c = '!'
    · subst hmark
      rfl
    · by_cases hslash : c = '/'
      · subst hslash
        by_cases hthird : cs.head? = some '/'
        · obtain ⟨cs, rfl⟩ : ∃ rest, cs = '/' :: rest := by
            cases cs with
            | nil => cases hthird
            | cons d cs => exact ⟨cs, by rw [Option.some.inj hthird]⟩
          rw [if_neg (by simp [Documents])]
          rfl
        · rw [if_pos (.inr ⟨rfl, hthird⟩), openingComment_doc hthird]
          rfl
      · rw [if_neg (by simp [Documents, hmark, hslash]), openingComment]
        · exact fun _ h => hmark (List.cons.inj h).1
        · exact fun _ h => hslash (List.cons.inj h).1
        · exact fun _ h => hslash (List.cons.inj h).1

/-- A comment of a line before more lines: it is passed over, or a token is read. -/
theorem readTokens_line (h : readTokens fuel ('/' :: '/' :: cs) = some ts) :
    (Documents cs ∧ ∃ inner text later, ts = .doc inner text :: later) ∨
      ¬Documents cs ∧ ∃ fuel', fuel = fuel' + 1 ∧ readTokens fuel' (lineComment cs).2 = some ts := by
  cases fuel with
  | zero => cases h
  | succ fuel =>
    rw [readTokens, List.dropWhile_cons_of_neg (by simp)] at h
    simp only [openingComment_line] at h
    split at h
    next heq =>
      split at heq
      next => cases heq
      next hplain =>
        cases heq
        exact .inr ⟨hplain, fuel, rfl, h⟩
    next heq =>
      split at heq
      next hdocuments =>
        obtain ⟨⟨t, rest⟩, hdoc, h⟩ := Option.bind_eq_some_iff.1 h
        obtain ⟨later, -, heq⟩ := Option.bind_eq_some_iff.1 h
        unfold docToken at hdoc
        split at hdoc
        next =>
          obtain ⟨rfl, -⟩ := Prod.mk.inj (Option.some.inj hdoc)
          exact .inl ⟨hdocuments, _, _, later, (Option.some.inj heq).symm⟩
        next => cases hdoc
      next => cases heq
    next heq => split at heq <;> cases heq

/-! ## Blanks and comments -/

/-- Blanks, and comments of lines that document nothing, each with the end of its line. -/
inductive Skipped : List Char → Prop
  | nil : Skipped []
  | blank {c : Char} {cs : List Char} (hc : isSpace c = true) (h : Skipped cs) : Skipped (c :: cs)
  | comment {line cs : List Char} (hfeed : '\n' ∉ line) (hplain : ¬Documents line) (h : Skipped cs) :
      Skipped ('/' :: '/' :: (line ++ '\n' :: cs))

theorem Skipped.readTokens (h : Skipped a) (hread : readTokens fuel (a ++ cs) = some ts) :
    ∃ fuel', readTokens fuel' cs = some ts := by
  induction h generalizing fuel with
  | nil => exact ⟨fuel, hread⟩
  | blank hc _ ih =>
    rw [List.cons_append, readTokens_blank hc] at hread
    exact ih hread
  | @comment line a hfeed hplain _ ih =>
    have hline : ¬Documents (line ++ '\n' :: (a ++ cs)) := by rwa [documents_append (by decide) (by decide)]
    simp only [List.cons_append, List.append_assoc] at hread
    obtain ⟨hdocuments, -⟩ | ⟨-, _, -, hrest⟩ := readTokens_line hread
    · exact absurd hdocuments hline
    · rw [lineComment_rest hfeed, readTokens_blank isSpace_feed] at hrest
      exact ih hrest

/-- Behind the end of a line, blanks and comments are again such. -/
theorem Skipped.behind (h : Skipped (x ++ '\n' :: a)) (hx : '\n' ∉ x) : Skipped a := by
  generalize hall : x ++ '\n' :: a = all at h
  induction h generalizing x with
  | nil => simp at hall
  | @blank c cs _ h ih =>
    cases x with
    | nil =>
      obtain ⟨-, rfl⟩ := List.cons.inj hall
      exact h
    | cons d x => exact ih (fun hmem => hx (List.mem_cons_of_mem d hmem)) (List.cons.inj hall).2
  | @comment line cs hfeed _ h _ =>
    have hline : '\n' ∉ '/' :: '/' :: line := by simp [hfeed]
    have hrest : (lineComment (x ++ '\n' :: a)).2 = '\n' :: a := lineComment_rest hx
    rw [hall, show '/' :: '/' :: (line ++ '\n' :: cs) = ('/' :: '/' :: line) ++ '\n' :: cs from rfl,
      lineComment_rest hline] at hrest
    exact (List.cons.inj hrest).2 ▸ h

/-- Neither a word nor the name of a raw one goes on with what is passed over. -/
theorem Skipped.head (h : Skipped a) : ∀ c ∈ a.head?, isIdentifierPart c = false ∧ c ≠ '#' := by
  cases h with
  | nil => nofun
  | @blank d _ hspace =>
    intro c hc
    obtain rfl : d = c := Option.some.inj hc
    refine ⟨?_, by rintro rfl; simp [isSpace_of_visible (c := '#') (by decide) (by decide)] at hspace⟩
    cases hpart : isIdentifierPart d with
    | false => rfl
    | true => simp [isSpace_of_part hpart] at hspace
  | comment =>
    intro c hc
    obtain rfl : '/' = c := Option.some.inj hc
    decide

/-! ## Comments that are open at the end -/

/-- Whether the last line has the strokes of a comment. -/
def EndsInComment : List Char → Prop
  | [] => False
  | c :: cs => (c = '/' ∧ cs.head? = some '/' ∧ '\n' ∉ cs) ∨ EndsInComment cs

theorem endsInComment_append (h : '/' ∉ x) : EndsInComment (x ++ a) ↔ EndsInComment a := by
  induction x with
  | nil => rfl
  | cons c x ih =>
    obtain ⟨hc, hx⟩ := not_or.1 (mt List.mem_cons.2 h)
    rw [List.cons_append, EndsInComment, ih hx]
    simp [Ne.symm hc]

theorem endsInComment_feed : EndsInComment (x ++ '\n' :: a) ↔ EndsInComment a := by
  induction x with
  | nil => simp [EndsInComment]
  | cons c x ih =>
    rw [List.cons_append, EndsInComment, ih]
    simp

theorem endsInComment_cons (h : ∀ line, c :: a ≠ '/' :: '/' :: line) : EndsInComment (c :: a) ↔ EndsInComment a := by
  rw [EndsInComment]
  refine or_iff_right ?_
  rintro ⟨rfl, hhead, -⟩
  cases a with
  | nil => cases hhead
  | cons d a => exact h a (by rw [Option.some.inj hhead])

theorem endsInComment_line (h : '\n' ∉ line) : EndsInComment ('/' :: '/' :: line) :=
  .inl ⟨rfl, rfl, by simpa using h⟩

/-- A text in which no comment is open at the end is blank, or something else comes
behind blanks and comments. -/
theorem skipped_or_first (h : ¬EndsInComment a) : Skipped a ∨
    ∃ f c b, a = f ++ c :: b ∧ Skipped f ∧ isSpace c = false ∧ ∀ line, c :: b = '/' :: '/' :: line → Documents line := by
  induction hn : a.length using Nat.strongRecOn generalizing a with
  | ind n ih =>
    subst hn
    cases a with
    | nil => exact .inl .nil
    | cons c a =>
      cases hc : isSpace c with
      | true =>
        have hslash : '/' ∉ [c] := by
          rw [List.mem_singleton]
          rintro rfl
          simp at hc
        have ha : ¬EndsInComment a := by rwa [← endsInComment_append hslash]
        refine (ih _ (Nat.lt_succ_self _) ha rfl).imp (.blank hc) ?_
        rintro ⟨f, d, b, rfl, hf, hd, hfirst⟩
        exact ⟨c :: f, d, b, rfl, .blank hc hf, hd, hfirst⟩
      | false =>
        by_cases hline : ∃ line, c :: a = '/' :: '/' :: line ∧ ¬Documents line
        · obtain ⟨rest, heq, hplain⟩ := hline
          obtain ⟨rfl, rfl⟩ := List.cons.inj heq
          by_cases hfeed : '\n' ∈ rest
          · obtain ⟨line, rest, rfl, hline⟩ := List.eq_append_cons_of_mem hfeed
            rw [documents_append (by decide) (by decide)] at hplain
            have hrest : ¬EndsInComment rest := by
              rwa [show '/' :: '/' :: (line ++ '\n' :: rest) = ('/' :: '/' :: line) ++ '\n' :: rest from rfl,
                endsInComment_feed] at h
            have hlt : rest.length < ('/' :: '/' :: (line ++ '\n' :: rest)).length := by
              simp only [List.length_cons, List.length_append]
              omega
            refine (ih _ hlt hrest rfl).imp (.comment hline hplain) ?_
            rintro ⟨f, d, b, rfl, hf, hd, hfirst⟩
            exact ⟨'/' :: '/' :: (line ++ '\n' :: f), d, b, by simp, .comment hline hplain hf, hd, hfirst⟩
          · exact absurd (endsInComment_line hfeed) h
        · refine .inr ⟨[], c, a, rfl, .nil, hc, fun line heq => ?_⟩
          exact Decidable.byContradiction fun hplain => hline ⟨line, heq, hplain⟩

end Retag.Code
