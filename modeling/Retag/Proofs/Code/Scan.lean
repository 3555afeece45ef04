/-
Taking plain text apart. Plain text has words, numbers of ASCII digits, brackets,
and signs that begin no comment and no quotation. `scan` goes through it from the
end and needs no look-ahead; where it answers, it answers the tokens of the text
(`tokens_of_scan`), and it takes a text apart piece by piece wherever no word and no
sign reaches over the border (`scan_append`).
-/
import Retag.Code.Token

namespace Retag.Code

open Text (isIdentifierPart isIdentifierStart)

/-- A character of the words and numbers of ASCII. -/
def isPlainPart (c : Char) : Bool := Text.isAsciiLetter c || Text.isAsciiDigit c || c == '_'

def isPlainBlank (c : Char) : Bool := c == ' ' || c == '\n'

/-- Signs that begin no comment and no quotation. -/
def plainSigns : List Char := ['.', ';', ':', '&', '!', '=', '|', '?', ',', '<', '>', '-']

/-- Characters that end a word. -/
def breaks : List Char := [' ', '\n', '(', ')', '[', ']', '{', '}'] ++ plainSigns

/-- Whether a point follows. -/
def beginsPoint : List Token → Bool
  | .sign c _ :: _ => c == '.'
  | _ => false

/-- Puts the word or number before tokens. A number is whole and in base ten, maybe
with marks between its digits. -/
def flush (run : List Char) (ts : List Token) : Option (List Token) :=
  match run with
  | [] => some ts
  | c :: _ =>
    if Text.isAsciiDigit c then
      if run.all isNumberPart ∧ beginsPoint ts = false then
        some (.literal (String.ofList run) :: ts)
      else none
    else if isIdentifierStart c then some (.word (String.ofList run) :: ts)
    else none

/-- What a break that `cs` follows adds to the tokens after it. -/
def breakToken (c : Char) (cs : List Char) (ts : List Token) : Option (List Token) :=
  if isPlainBlank c then some ts
  else
    match openingOf c, closingOf c with
    | some b, _ => some (.opening b :: ts)
    | none, some b => some (.closing b :: ts)
    | none, none => if plainSigns.contains c then some (.sign c (beginsSign cs) :: ts) else none

/-- The word at the beginning, and the tokens after it. -/
def scanFrom : List Char → Option (List Char × List Token)
  | [] => some ([], [])
  | c :: cs =>
    (scanFrom cs).bind fun (run, ts) =>
      if isIdentifierPart c then some (c :: run, ts)
      else ((flush run ts).bind (breakToken c cs)).map ([], ·)

/-- The tokens of a plain text. -/
def scan (cs : List Char) : Option (List Token) := (scanFrom cs).bind fun (run, ts) => flush run ts

/-! ## The characters of plain text -/

/-- A fact about the characters of ASCII holds if it does of each. -/
theorem forall_ascii {p : Char → Bool} (h : ∀ n < 128, p (Char.ofNat n) = true) (c : Char)
    (hc : c.toNat < 128) : p c = true := by
  have := h c.toNat hc
  rwa [Char.ofNat_toNat] at this

theorem isPlainPart_ascii {c : Char} (h : isPlainPart c = true) : c.toNat < 128 := by
  simp only [isPlainPart, Text.isAsciiLetter, Text.isAsciiLower, Text.isAsciiUpper, Text.isAsciiDigit,
    Bool.or_eq_true, Bool.and_eq_true, decide_eq_true_eq, Char.le_def, UInt32.le_iff_toNat_le, beq_iff_eq] at h
  rcases h with ((⟨-, h⟩ | ⟨-, h⟩) | ⟨-, h⟩) | rfl
  · exact Nat.lt_of_le_of_lt h (by decide)
  · exact Nat.lt_of_le_of_lt h (by decide)
  · exact Nat.lt_of_le_of_lt h (by decide)
  · decide

/-- A fact about the characters of words holds if it does of those of ASCII. -/
theorem forall_part {p : Char → Bool} (h : ∀ n < 128, (!isPlainPart (Char.ofNat n) || p (Char.ofNat n)) = true)
    {c : Char} (hc : isPlainPart c = true) : p c = true := by
  have := forall_ascii (p := fun c => !isPlainPart c || p c) h c (isPlainPart_ascii hc)
  simpa [hc] using this

set_option maxRecDepth 4000 in
theorem isIdentifierPart_of_part {c : Char} (hc : isPlainPart c = true) : isIdentifierPart c = true :=
  forall_part (by decide) hc

/-- A character of a range that is apart from those of a set is not in the set. -/
theorem not_contains_of_apart {ranges : Text.CodeRanges} {low high : Nat} {c : Char}
    (h : ranges.toList.all (fun r => high < r.1 || r.2 < low) = true) (hlow : low ≤ c.toNat)
    (hhigh : c.toNat ≤ high) : ranges.contains c = false := by
  rw [Text.CodeRanges.contains, ← Array.any_toList, List.any_eq_false]
  intro r hr hin
  have hapart := List.all_eq_true.1 h r hr
  simp only [Bool.or_eq_true, Bool.and_eq_true, decide_eq_true_eq] at hapart hin
  omega

/-- The blanks between tokens beyond ASCII, and the marks that count as such. -/
def spaceRanges : List (Nat × Nat) := (0x200e, 0x200f) :: Text.blankRanges.toList

theorem isSpace_range {c : Char} (h : isSpace c = true) :
    ∃ r ∈ spaceRanges, r.1 ≤ c.toNat ∧ c.toNat ≤ r.2 := by
  simp only [isSpace, Bool.or_eq_true, beq_iff_eq] at h
  rcases h with (h | rfl) | rfl
  · rw [Text.isBlank, Text.CodeRanges.contains, ← Array.any_toList, List.any_eq_true] at h
    obtain ⟨r, hr, hin⟩ := h
    simp only [Bool.and_eq_true, decide_eq_true_eq] at hin
    exact ⟨r, List.mem_cons_of_mem _ hr, hin⟩
  · exact ⟨_, List.mem_cons_self, by decide, by decide⟩
  · exact ⟨_, List.mem_cons_self, by decide, by decide⟩

/-- The characters of words are no blanks. -/
theorem isSpace_of_part {c : Char} (hc : isIdentifierPart c = true) : isSpace c = false := by
  rw [Bool.eq_false_iff]
  intro hspace
  by_cases hlt : c.toNat < 128
  · have h := forall_ascii (p := fun c => !isSpace c || !isIdentifierPart c) (by decide +kernel) c hlt
    simp [hspace, hc] at h
  · rw [isIdentifierPart, if_neg hlt] at hc
    have hapart : (spaceRanges.all fun s => Text.identifierPartRanges.toList.all fun r =>
        s.2 < r.1 || r.2 < s.1) = true := by decide +kernel
    obtain ⟨s, hs, hlow, hhigh⟩ := isSpace_range hspace
    rw [not_contains_of_apart (List.all_eq_true.1 hapart s hs) hlow hhigh] at hc
    cases hc

@[simp] theorem isSpace_blank : isSpace ' ' = true := by decide +kernel

@[simp] theorem isSpace_feed : isSpace '\n' = true := by decide +kernel

/-- The visible characters of ASCII are no blanks. -/
theorem isSpace_of_visible {c : Char} (hlow : 0x20 < c.toNat) (hhigh : c.toNat < 0x7f) : isSpace c = false := by
  have hlt : c.toNat < 128 := Nat.lt_succ_of_lt hhigh
  have h := forall_ascii (p := fun c => !isSpace c || !(0x20 < c.toNat && c.toNat < 0x7f)) (by decide +kernel) c hlt
  simpa [hlow, hhigh] using h

@[simp] theorem isSpace_slash : isSpace '/' = false := isSpace_of_visible (by decide) (by decide)

theorem isSpace_of_break {c : Char} (h : c ∈ breaks.tail.tail) : isSpace c = false := by
  have hvisible : breaks.tail.tail.all (fun c => 0x20 < c.toNat && c.toNat < 0x7f) = true := by decide
  obtain ⟨hlow, hhigh⟩ : 0x20 < c.toNat ∧ c.toNat < 0x7f := by simpa using List.all_eq_true.1 hvisible c h
  exact isSpace_of_visible hlow hhigh

theorem opening_mem {c : Char} {b : Bracket} (h : openingOf c = some b) : c ∈ ['(', '[', '{'] := by
  have hb := List.find?_some h
  cases b <;> simp [← beq_iff_eq.1 hb, Bracket.opening]

theorem closing_mem {c : Char} {b : Bracket} (h : closingOf c = some b) : c ∈ [')', ']', '}'] := by
  have hb := List.find?_some h
  cases b <;> simp [← beq_iff_eq.1 hb, Bracket.closing]

/-- A character of words is none of those that are not. -/
theorem not_mem_of_part {c : Char} {others : List Char} (h : others.all (!isIdentifierPart ·) = true)
    (hc : isIdentifierPart c = true) : c ∉ others := by
  intro hmem
  simpa [hc] using List.all_eq_true.1 h c hmem

theorem brackets_of_part {c : Char} (hc : isIdentifierPart c = true) : openingOf c = none ∧ closingOf c = none := by
  constructor
  · cases h : openingOf c with
    | none => rfl
    | some b => exact absurd (opening_mem h) (not_mem_of_part (by decide) hc)
  · cases h : closingOf c with
    | none => rfl
    | some b => exact absurd (closing_mem h) (not_mem_of_part (by decide) hc)

theorem contains_signs_of_part {c : Char} (hc : isIdentifierPart c = true) : signs.contains c = false := by
  have hsigns : c ∉ signs := not_mem_of_part (by decide) hc
  simpa using hsigns

/-- No sign begins like a word. -/
theorem beginsSign_of_part {c : Char} (hc : isIdentifierPart c = true) (cs : List Char) : beginsSign (c :: cs) = false := by
  unfold beginsSign
  split
  next => rfl
  next => rfl
  next heq => obtain ⟨rfl, -⟩ := List.cons.inj heq; exact contains_signs_of_part hc
  next => rfl

/-- No digit stands beyond ASCII. -/
theorem digitOf_beyond {c : Char} (h : ¬c.toNat < 128) : Text.isAsciiDigit c = false ∧ digitOf c = none := by
  have hdigit : Text.isAsciiDigit c = false := by
    simp only [Text.isAsciiDigit, Bool.and_eq_false_iff, decide_eq_false_iff_not, Char.le_def,
      UInt32.le_iff_toNat_le]
    exact .inr fun hle => h (Nat.lt_of_le_of_lt hle (by decide))
  have hlower : ¬('a' ≤ c ∧ c ≤ 'f') := by
    simp only [Char.le_def, UInt32.le_iff_toNat_le]
    exact fun hle => h (Nat.lt_of_le_of_lt hle.2 (by decide))
  have hupper : ¬('A' ≤ c ∧ c ≤ 'F') := by
    simp only [Char.le_def, UInt32.le_iff_toNat_le]
    exact fun hle => h (Nat.lt_of_le_of_lt hle.2 (by decide))
  exact ⟨hdigit, by rw [digitOf, if_neg (by simp [hdigit]), if_neg hlower, if_neg hupper]⟩

/-- A character that begins a name begins no number. -/
theorem digitOf_of_start {c : Char} (hc : isIdentifierStart c = true) :
    Text.isAsciiDigit c = false ∧ (digitOf c).all (10 ≤ ·) = true := by
  by_cases hlt : c.toNat < 128
  · have h := forall_ascii (p := fun c => !isIdentifierStart c ||
      (!Text.isAsciiDigit c && (digitOf c).all (10 ≤ ·))) (by decide) c hlt
    simpa [hc] using h
  · obtain ⟨hdigit, hnone⟩ := digitOf_beyond hlt
    exact ⟨hdigit, by rw [hnone]; rfl⟩

theorem afterDigits_of_start {c : Char} (hc : isIdentifierStart c = true) (rest : List Char) :
    afterDigits 10 true (c :: rest) = none := by
  have h := (digitOf_of_start hc).2
  rw [afterDigits]
  split
  next => rfl
  split
  next d heq =>
    rw [heq] at h
    have : ¬d < 10 := by simpa using h
    simp [this]
  next => rfl

set_option maxRecDepth 4000 in
/-- A character of words of ASCII that is no digit begins a name. -/
theorem start_of_part {c : Char} (hc : isPlainPart c = true) (hd : Text.isAsciiDigit c = false) :
    isIdentifierStart c = true := by
  have h := forall_part (p := fun c => Text.isAsciiDigit c || isIdentifierStart c) (by decide) hc
  simpa [hd] using h

theorem digit_is_part {c : Char} (h : Text.isAsciiDigit c = true) : isIdentifierPart c = true :=
  isIdentifierPart_of_part (by simp [isPlainPart, h])

theorem numberPart_is_part {c : Char} (h : isNumberPart c = true) : isIdentifierPart c = true := by
  unfold isNumberPart at h
  rcases Bool.or_eq_true .. ▸ h with hd | hmark
  · exact digit_is_part hd
  · exact beq_iff_eq.1 hmark ▸ by decide

/-- What no reader of a word, a number or a mark takes with it. -/
def endsAll (c : Char) : Bool :=
  !isIdentifierPart c && !isIdentifierStart c && !isNumberPart c && (digitOf c).isNone &&
    ['"', '\x27', '#', 'e', 'E', '_', '/'].all (c != ·)

theorem endsAll_of_break {c : Char} (h : c ∈ breaks) : endsAll c = true :=
  List.all_eq_true.1 (by decide : breaks.all endsAll = true) c h

theorem not_part_of_break {c : Char} (h : c ∈ breaks) : isIdentifierPart c = false := by
  have := endsAll_of_break h
  simp only [endsAll, Bool.and_eq_true, Bool.not_eq_true'] at this
  exact this.1.1.1.1

/-! ## Words and numbers before a break -/

/-- Nothing follows, or a break does. -/
def BreaksOff (rest : List Char) : Prop := ∀ c ∈ rest.head?, c ∈ breaks

theorem breaksOff_cons {c : Char} {rest : List Char} (h : c ∈ breaks) : BreaksOff (c :: rest) := by
  simpa [BreaksOff] using h

theorem breaksOff_text (text : String) (h : text.toList.head?.any (breaks.contains ·) = true) (tail : List Char) :
    BreaksOff (text.toList ++ tail) := by
  intro c hc
  cases hlist : text.toList with
  | nil => simp [hlist] at h
  | cons d cs =>
    rw [hlist] at h hc
    obtain rfl : d = c := Option.some.inj hc
    simpa using h

variable {run rest : List Char} {p : Char → Bool} {ts : List Token}

theorem dropWhile_run (hrun : ∀ c ∈ run, p c = true) (hrest : ∀ c ∈ rest.head?, p c = false) :
    (run ++ rest).dropWhile p = rest := by
  rw [List.dropWhile_append_of_pos hrun]
  cases rest with
  | nil => rfl
  | cons c rest => simp [hrest c rfl]

theorem takeWhile_run (hrun : ∀ c ∈ run, p c = true) (hrest : ∀ c ∈ rest.head?, p c = false) :
    (run ++ rest).takeWhile p = run := by
  rw [List.takeWhile_append_of_pos hrun]
  cases rest with
  | nil => simp
  | cons c rest => simp [hrest c rfl]

/-- What a word and its break begin with. -/
theorem head_run (hrun : ∀ c ∈ run, isIdentifierPart c = true) (hrest : BreaksOff rest) {c : Char} {cs : List Char}
    (h : run ++ rest = c :: cs) : isIdentifierPart c = true ∨ c ∈ breaks := by
  cases run with
  | nil =>
    obtain rfl : rest = c :: cs := h
    exact .inr (hrest c rfl)
  | cons d run =>
    obtain ⟨rfl, -⟩ := List.cons.inj h
    exact .inl (hrun d List.mem_cons_self)

/-- A beginning whose first strange character is neither of a word nor a break
does not begin a word. -/
theorem isPrefixOf_run {l : List Char} (hl : (l.find? (!isIdentifierPart ·)).any (!breaks.contains ·) = true)
    (hrun : ∀ c ∈ run, isIdentifierPart c = true) (hrest : BreaksOff rest) : l.isPrefixOf (run ++ rest) = false := by
  induction l generalizing run with
  | nil => cases hl
  | cons d l ih =>
    cases h : run ++ rest with
    | nil => rfl
    | cons c cs =>
      rw [List.isPrefixOf_cons_cons, Bool.and_eq_false_iff]
      by_cases hdc : d = c
      · subst hdc
        cases hd : isIdentifierPart d with
        | false =>
          rcases head_run hrun hrest h with hp | hb
          · simp [hd] at hp
          · simp [hd, hb] at hl
        | true =>
          refine .inr ?_
          cases run with
          | nil =>
            obtain rfl : rest = d :: cs := h
            simp [not_part_of_break (hrest d rfl)] at hd
          | cons e run =>
            obtain ⟨rfl, rfl⟩ := List.cons.inj h
            exact ih (by simpa [hd] using hl) fun c hc => hrun c (List.mem_cons_of_mem _ hc)
      · exact .inl (by simpa using hdc)

theorem literalMarks_run (hrun : ∀ c ∈ run, isIdentifierPart c = true) (hrest : BreaksOff rest) :
    literalMarks.any (·.isPrefixOf (run ++ rest)) = false := by
  have h : ∀ l ∈ literalMarks, (l.find? (!isIdentifierPart ·)).any (!breaks.contains ·) = true := by decide
  rw [List.any_eq_false]
  intro l hl
  simp [isPrefixOf_run (h l hl) hrun hrest]

/-- A character that is neither of a word nor a break does not begin a word. -/
theorem not_strange_run (hrun : ∀ c ∈ run, isIdentifierPart c = true) (hrest : BreaksOff rest) {c d : Char} {cs : List Char}
    (h : run ++ rest = c :: cs) (hd : isIdentifierPart d = false ∧ d ∉ breaks) : c ≠ d := by
  rintro rfl
  rcases head_run hrun hrest h with hp | hb
  · simp [hd.1] at hp
  · exact hd.2 hb

theorem afterRaw_run (hrun : ∀ c ∈ run, isIdentifierPart c = true) (hrest : BreaksOff rest) :
    afterRaw (run ++ rest) = none := by
  unfold afterRaw
  cases h : run ++ rest with
  | nil => rfl
  | cons c cs =>
    rw [List.dropWhile_cons_of_neg (by simpa using not_strange_run hrun hrest h (by decide))]
    split
    next heq => exact absurd (h.trans heq) (fun h => not_strange_run hrun hrest h (by decide) rfl)
    next => rfl

/-- The same from behind a letter that some raw texts begin with. -/
theorem afterRaw_tail (hrun : ∀ c ∈ run, isIdentifierPart c = true) (hrest : BreaksOff rest) {cs : List Char}
    (h : run ++ rest = 'r' :: cs) : afterRaw cs = none := by
  cases run with
  | nil => exact absurd (hrest 'r' (by rw [show rest = 'r' :: cs from h]; rfl)) (by decide)
  | cons c run =>
    obtain ⟨-, rfl⟩ := List.cons.inj h
    exact afterRaw_run (fun d hd => hrun d (List.mem_cons_of_mem _ hd)) hrest

theorem afterLiteral_word {c : Char} (hstart : isIdentifierStart c = true)
    (hrun : ∀ d ∈ c :: run, isIdentifierPart d = true) (hrest : BreaksOff rest) :
    afterLiteral (c :: run ++ rest) = none := by
  have hrun' : ∀ d ∈ run, isIdentifierPart d = true := fun d hd => hrun d (List.mem_cons_of_mem _ hd)
  have hnumber := afterDigits_of_start hstart
  have hd := (digitOf_of_start hstart).1
  rw [List.cons_append]
  unfold afterLiteral
  split
  next h => exact absurd rfl (not_strange_run hrun hrest h (by decide))
  next h => exact absurd rfl (not_strange_run hrun' hrest (List.cons.inj h).2 (by decide))
  next h => exact absurd rfl (not_strange_run hrun' hrest (List.cons.inj h).2 (by decide))
  next h => exact absurd rfl (not_strange_run hrun hrest h (by decide))
  next h => exact absurd rfl (not_strange_run hrun' hrest (List.cons.inj h).2 (by decide))
  next h =>
    obtain ⟨-, rfl⟩ := List.cons.inj h
    exact afterRaw_run hrun' hrest
  next h => exact afterRaw_tail hrun' hrest (List.cons.inj h).2
  next h => exact afterRaw_tail hrun' hrest (List.cons.inj h).2
  next =>
    have hwhole : afterWhole (c :: (run ++ rest)) = none := by
      unfold afterWhole
      split
      next h => obtain ⟨rfl, -⟩ := List.cons.inj h; cases hd
      next h => obtain ⟨rfl, -⟩ := List.cons.inj h; cases hd
      next h => obtain ⟨rfl, -⟩ := List.cons.inj h; cases hd
      next => rw [hnumber]; rfl
    have hfraction : afterFraction (c :: (run ++ rest)) = none := by
      unfold afterFraction
      simp [hd]
    rw [hwhole, hfraction]
    rfl

theorem rest_fails (hrest : BreaksOff rest) (hp : ∀ c, endsAll c = true → p c = false) :
    ∀ c ∈ rest.head?, p c = false :=
  fun c hc => hp c (endsAll_of_break (hrest c hc))

theorem spanName_run (hrun : ∀ c ∈ run, isIdentifierPart c = true) (hrest : BreaksOff rest) :
    spanName (run ++ rest) = (run, rest) := by
  have hends : ∀ c ∈ rest.head?, isIdentifierPart c = false :=
    rest_fails hrest fun c hc => by
      simp only [endsAll, Bool.and_eq_true, Bool.not_eq_true'] at hc
      exact hc.1.1.1.1
  rw [spanName, takeWhile_run hrun hends, dropWhile_run hrun hends]

theorem readToken_word {c : Char} (hstart : isIdentifierStart c = true)
    (hrun : ∀ d ∈ c :: run, isIdentifierPart d = true) (hrest : BreaksOff rest) :
    readToken (c :: run ++ rest) = some (.word (String.ofList (c :: run)), rest) := by
  have hc := hrun c List.mem_cons_self
  obtain ⟨hopen, hclose⟩ := brackets_of_part hc
  have hsign : beginsSign (c :: run ++ rest) = false := beginsSign_of_part hc _
  have hword : readWord (c :: run ++ rest) = some (String.ofList (c :: run), rest) := by
    unfold readWord
    split
    next h =>
      have hrun' : ∀ d ∈ run, isIdentifierPart d = true := fun d hd => hrun d (List.mem_cons_of_mem _ hd)
      exact absurd rfl (not_strange_run hrun' hrest (List.cons.inj h).2 (by decide))
    next =>
      show (if isIdentifierStart c then some (String.ofList (spanName (c :: run ++ rest)).1, _) else none) = _
      rw [if_pos hstart, spanName_run hrun hrest]
  have hquote : c ≠ '\x27' := by rintro rfl; revert hc; decide
  unfold readToken
  simp only [List.cons_append, hopen, hclose]
  rw [← List.cons_append]
  unfold readLeaf
  rw [afterLiteral_word hstart hrun hrest, hsign, literalMarks_run hrun hrest, hword]
  simp only [List.cons_append, Bool.false_eq_true, if_false, Option.map_some]

/-! ### Numbers -/

theorem digitOf_digit {c : Char} (h : Text.isAsciiDigit c = true) : ∃ d < 10, digitOf c = some d := by
  have h' := h
  simp only [Text.isAsciiDigit, Bool.and_eq_true, decide_eq_true_eq, Char.le_def, UInt32.le_iff_toNat_le] at h'
  have h9 : c.toNat ≤ 57 := h'.2
  exact ⟨c.toNat - 48, by omega, by rw [digitOf, if_pos h]⟩

theorem afterDigits_parts (hrun : ∀ c ∈ run, isNumberPart c = true) (hrest : BreaksOff rest) :
    afterDigits 10 false (run ++ rest) = some rest := by
  induction run with
  | nil =>
    cases rest with
    | nil => rfl
    | cons c rest =>
      have hc := endsAll_of_break (hrest c rfl)
      simp only [endsAll, Bool.and_eq_true, List.all_cons, bne_iff_ne, Option.isNone_iff_eq_none] at hc
      rw [List.nil_append, afterDigits, if_neg hc.2.2.2.2.2.2.1, hc.1.2]
      rfl
  | cons c run ih =>
    have hlater := ih fun e he => hrun e (List.mem_cons_of_mem _ he)
    rw [List.cons_append, afterDigits]
    by_cases hmark : c = '_'
    · rw [if_pos hmark, if_neg (by simp), hlater]
    · have hc : Text.isAsciiDigit c = true := by simpa [isNumberPart, hmark] using hrun c List.mem_cons_self
      obtain ⟨d, hd, hdigit⟩ := digitOf_digit hc
      rw [if_neg hmark, hdigit]
      simp only [hd, if_true, hlater]

theorem afterDigits_run {c : Char} (hc : Text.isAsciiDigit c = true) (hrun : ∀ d ∈ run, isNumberPart d = true)
    (hrest : BreaksOff rest) : afterDigits 10 true (c :: run ++ rest) = some rest := by
  obtain ⟨d, hd, hdigit⟩ := digitOf_digit hc
  have hmark : c ≠ '_' := by rintro rfl; revert hc; decide
  rw [List.cons_append, afterDigits, if_neg hmark, hdigit]
  simp only [hd, if_true, afterDigits_parts hrun hrest]

theorem afterSuffix_rest (hrest : BreaksOff rest) : afterSuffix rest = rest := by
  cases rest with
  | nil => rfl
  | cons c rest =>
    have hc := endsAll_of_break (hrest c rfl)
    simp only [endsAll, Bool.and_eq_true, Bool.not_eq_true'] at hc
    simp [afterSuffix, hc.1.1.1.2]

/-- The characters that begin literals other than numbers. -/
def literalStarts : List Char := ['"', '\x27', 'b', 'c', 'r']

theorem afterLiteral_other {c : Char} {cs : List Char} (h : c ∉ literalStarts) :
    afterLiteral (c :: cs) = (afterFraction (c :: cs)).or (afterWhole (c :: cs)) := by
  simp only [literalStarts, List.mem_cons, List.not_mem_nil, or_false, not_or] at h
  obtain ⟨hquote, hmark, hb, hc, hr⟩ := h
  unfold afterLiteral
  split
  next heq => exact absurd (List.cons.inj heq).1 hquote
  next heq => exact absurd (List.cons.inj heq).1 hb
  next heq => exact absurd (List.cons.inj heq).1 hc
  next heq => exact absurd (List.cons.inj heq).1 hmark
  next heq => exact absurd (List.cons.inj heq).1 hb
  next heq => exact absurd (List.cons.inj heq).1 hr
  next heq => exact absurd (List.cons.inj heq).1 hb
  next heq => exact absurd (List.cons.inj heq).1 hc
  next => rfl

theorem digit_not_literalStart {c : Char} (h : Text.isAsciiDigit c = true) : c ∉ literalStarts := fun hmem => by
  have hnone := List.all_eq_true.1 (by decide : literalStarts.all (!Text.isAsciiDigit ·) = true) c hmem
  simp [h] at hnone

/-- A whole number in base ten, with marks between its digits. -/
theorem readToken_number {c : Char} (hc : Text.isAsciiDigit c = true) (hrun : ∀ d ∈ run, isNumberPart d = true)
    (hrest : BreaksOff rest) (hpoint : rest.head? ≠ some '.') :
    readToken (c :: run ++ rest) = some (.literal (String.ofList (c :: run)), rest) := by
  have hpart := digit_is_part hc
  -- No letter of another base comes second.
  have hbase : ∀ d tail, run ++ rest = d :: tail → isNumberPart d = true ∨ d ∈ breaks := by
    intro d tail h
    cases run with
    | nil => exact .inr (hrest d (by rw [show rest = d :: tail from h]; rfl))
    | cons e run =>
      obtain ⟨rfl, -⟩ := List.cons.inj h
      exact .inl (hrun e List.mem_cons_self)
  have hletter : ∀ {d tail}, isNumberPart d = false ∧ d ∉ breaks → c :: (run ++ rest) ≠ '0' :: d :: tail :=
    fun hd h => (hbase _ _ (List.cons.inj h).2).elim (by simp [hd.1]) hd.2
  have hwhole : afterWhole (c :: (run ++ rest)) = some rest := by
    unfold afterWhole
    split
    next h => exact absurd h (hletter (by decide))
    next h => exact absurd h (hletter (by decide))
    next h => exact absurd h (hletter (by decide))
    next => rw [← List.cons_append, afterDigits_run hc hrun hrest, Option.map_some, afterSuffix_rest hrest]
  have hfraction : afterFraction (c :: (run ++ rest)) = none := by
    have hdrop : (c :: (run ++ rest)).dropWhile isNumberPart = rest := by
      rw [← List.cons_append]
      refine dropWhile_run (List.forall_mem_cons.2 ⟨by simp [isNumberPart, hc], hrun⟩) (rest_fails hrest fun d hd => ?_)
      simp only [endsAll, Bool.and_eq_true, Bool.not_eq_true'] at hd
      exact hd.1.1.2
    unfold afterFraction
    simp only [hc, hdrop]
    split
    next => contradiction
    split
    next => exact absurd rfl hpoint
    next e _ _ =>
      have he := endsAll_of_break (hrest e rfl)
      simp only [endsAll, Bool.and_eq_true, List.all_cons, bne_iff_ne] at he
      exact if_neg fun h => h.elim he.2.2.2.2.1 he.2.2.2.2.2.1
    next => rfl
  have hliteral : afterLiteral (c :: run ++ rest) = some rest := by
    rw [List.cons_append, afterLiteral_other (digit_not_literalStart hc), hwhole, hfraction]
    rfl
  obtain ⟨hopen, hclose⟩ := brackets_of_part hpart
  unfold readToken
  simp only [List.cons_append, hopen, hclose]
  rw [← List.cons_append]
  unfold readLeaf
  rw [hliteral]
  have hlength : (c :: run ++ rest).length - rest.length = (c :: run).length := by
    rw [List.length_append, Nat.add_sub_cancel]
  simp only [hlength, List.take_left']

/-! ## Reading tokens

What is known of the tokens of a text is carried from its end to its start, over blanks
and tokens (`Tokenizes`). So plain text is taken apart by one induction, whether the
tokens behind it are known or only called something. -/

/-- The tokens of a text, found with any fuel that is enough. -/
def Lexes (cs : List Char) (ts : List Token) : Prop :=
  ∀ fuel, cs.length < fuel → readTokens fuel cs = some ts

/-- The first token of a text, and the text that is left behind it. -/
structure Step (cs : List Char) (t : Token) (rest : List Char) : Prop where
  shorter : rest.length < cs.length
  reads : ∀ fuel, readTokens (fuel + 1) cs = (readTokens fuel rest).map (t :: ·)

/-- What holds of a text and its tokens if it holds of what is left behind a blank or
the first token. -/
structure Tokenizes (P : List Char → List Token → Prop) : Prop where
  blank : ∀ {c cs ts}, isSpace c = true → P cs ts → P (c :: cs) ts
  step : ∀ {cs t rest ts}, Step cs t rest → P rest ts → P cs (t :: ts)

variable {fuel : Nat} {c : Char} {cs : List Char} {t : Token}

theorem Lexes.tokens (h : Lexes cs ts) : tokens cs = some ts := h _ (Nat.lt_succ_self _)

theorem Lexes.nil : Lexes [] [] := by
  intro fuel hfuel
  obtain ⟨fuel, rfl⟩ := Nat.exists_eq_add_one_of_ne_zero (Nat.ne_zero_of_lt hfuel)
  rfl

theorem readTokens_blank (h : isSpace c = true) : readTokens fuel (c :: cs) = readTokens fuel cs := by
  cases fuel with
  | zero => rfl
  | succ fuel => rw [readTokens, readTokens, List.dropWhile_cons_of_pos h]

theorem Step.lexes (h : Step cs t rest) (hrest : Lexes rest ts) : Lexes cs (t :: ts) := by
  intro fuel hfuel
  have hlt := h.shorter
  obtain ⟨fuel, rfl⟩ := Nat.exists_eq_add_one_of_ne_zero (Nat.ne_zero_of_lt hfuel)
  rw [h.reads, hrest fuel (by omega), Option.map_some]

theorem Lexes.tokenizes : Tokenizes Lexes where
  blank hc h fuel hfuel := by
    rw [readTokens_blank hc]
    exact h fuel (Nat.lt_of_succ_lt hfuel)
  step := Step.lexes

/-! ### The first token -/

/-- Tokens begin with a token where no blank and no comment stands. -/
theorem openingComment_other (hslash : c ≠ '/') : openingComment (c :: cs) = .other := by
  unfold openingComment
  split
  all_goals first | rfl | (next h => exact absurd (List.cons.inj h).1 hslash)

theorem readTokens_cons (hspace : isSpace c = false) (hslash : c ≠ '/')
    (hread : readToken (c :: cs) = some (t, rest)) :
    readTokens (fuel + 1) (c :: cs) = (readTokens fuel rest).map (t :: ·) := by
  rw [readTokens, List.dropWhile_cons_of_neg (by simp [hspace])]
  simp only [openingComment_other hslash, hread, Option.bind_eq_bind, Option.bind_some]
  cases readTokens fuel rest <;> simp

/-- A token that begins with neither a blank nor a stroke. -/
theorem Step.of_readToken (hlt : rest.length < (c :: cs).length) (hspace : isSpace c = false)
    (hslash : c ≠ '/') (hread : readToken (c :: cs) = some (t, rest)) : Step (c :: cs) t rest :=
  ⟨hlt, fun _ => readTokens_cons hspace hslash hread⟩

theorem readToken_sign (h : c ∈ plainSigns) (cs : List Char) :
    readToken (c :: cs) = some (.sign c (beginsSign cs), cs) := by
  simp only [plainSigns, List.mem_cons, List.not_mem_nil, or_false] at h
  rcases h with rfl | rfl | rfl | rfl | rfl | rfl | rfl | rfl | rfl | rfl | rfl | rfl <;> rfl

theorem Step.sign (hc : c ∈ plainSigns) : Step (c :: rest) (.sign c (beginsSign rest)) rest :=
  .of_readToken (by simp) (isSpace_of_break (List.mem_append_right _ hc)) (by rintro rfl; revert hc; decide)
    (readToken_sign hc rest)

theorem Step.opening {b : Bracket} (hc : openingOf c = some b) : Step (c :: rest) (.opening b) rest := by
  have hmem := opening_mem hc
  have hspace : isSpace c = false := isSpace_of_break ((by decide : ['(', '[', '{'] ⊆ breaks.tail.tail) hmem)
  have hslash : c ≠ '/' := by rintro rfl; revert hmem; decide
  refine .of_readToken (by simp) hspace hslash ?_
  unfold readToken
  simp only [hc]

theorem Step.closing {b : Bracket} (hc : closingOf c = some b) : Step (c :: rest) (.closing b) rest := by
  have hmem := closing_mem hc
  have hspace : isSpace c = false := isSpace_of_break ((by decide : [')', ']', '}'] ⊆ breaks.tail.tail) hmem)
  have hslash : c ≠ '/' := by rintro rfl; revert hmem; decide
  have hopen : openingOf c = none := by
    cases h : openingOf c with
    | none => rfl
    | some b =>
      have hopening := opening_mem h
      simp only [List.mem_cons, List.not_mem_nil, or_false] at hmem
      obtain rfl | rfl | rfl := hmem <;> exact absurd hopening (by decide)
  refine .of_readToken (by simp) hspace hslash ?_
  unfold readToken
  simp only [hopen, hc]

/-- Whatever follows the break, the word comes first. -/
theorem Step.word (hstart : isIdentifierStart c = true) (hrun : ∀ d ∈ c :: run, isIdentifierPart d = true)
    (hrest : BreaksOff rest) : Step (c :: run ++ rest) (.word (String.ofList (c :: run))) rest := by
  have hpart := hrun c List.mem_cons_self
  exact .of_readToken (by simp only [List.append_eq, List.length_cons, List.length_append]; omega) (isSpace_of_part hpart)
    (by rintro rfl; revert hpart; decide) (readToken_word hstart hrun hrest)

/-- A whole number in base ten, with marks between its digits. -/
theorem Step.number (hc : Text.isAsciiDigit c = true) (hrun : ∀ d ∈ run, isNumberPart d = true)
    (hrest : BreaksOff rest) (hpoint : rest.head? ≠ some '.') :
    Step (c :: run ++ rest) (.literal (String.ofList (c :: run))) rest :=
  .of_readToken (by simp only [List.append_eq, List.length_cons, List.length_append]; omega) (isSpace_of_part (digit_is_part hc))
    (by rintro rfl; revert hc; decide) (readToken_number hc hrun hrest hpoint)

/-! ### Plain text -/

variable {P : List Char → List Token → Prop} {ts' : List Token}

/-- The word or number before a break. -/
theorem Tokenizes.flushed (hP : Tokenizes P) (hrun : ∀ c ∈ run, isIdentifierPart c = true) (hrest : BreaksOff rest)
    (hpoint : rest.head? = some '.' → beginsPoint ts = true) (h : flush run ts = some ts') (hlater : P rest ts) :
    P (run ++ rest) ts' := by
  cases run with
  | nil =>
    obtain rfl := Option.some.inj h
    exact hlater
  | cons c run =>
    simp only [flush] at h
    cases hd : Text.isAsciiDigit c with
    | false =>
      rw [if_neg (by simp [hd])] at h
      obtain ⟨hstart, h⟩ := Option.ite_none_right_eq_some.1 h
      obtain rfl := Option.some.inj h
      exact hP.step (.word hstart hrun hrest) hlater
    | true =>
      rw [if_pos hd] at h
      split at h
      next hnumber =>
        obtain rfl := Option.some.inj h
        obtain ⟨hall, hno⟩ := hnumber
        refine hP.step (.number hd (fun e he => ?_) hrest fun hp => by simp [hpoint hp] at hno) hlater
        exact List.all_eq_true.1 hall e (List.mem_cons_of_mem _ he)
      next => cases h

/-- A break and what follows it. -/
theorem Tokenizes.broken (hP : Tokenizes P) (h : breakToken c cs ts = some ts') (hlater : P cs ts) :
    c ∈ breaks ∧ (c = '.' → beginsPoint ts' = true) ∧ P (c :: cs) ts' := by
  unfold breakToken at h
  split at h
  next hblank =>
    obtain rfl := Option.some.inj h
    have hc : c = ' ' ∨ c = '\n' := by simpa [isPlainBlank] using hblank
    have hspace : isSpace c = true := by rcases hc with rfl | rfl <;> simp
    exact ⟨by rcases hc with rfl | rfl <;> decide, by rintro rfl; simp at hc, hP.blank hspace hlater⟩
  next =>
    -- Every other break is a token of its own.
    split at h
    next b hopen =>
      obtain rfl := Option.some.inj h
      refine ⟨(by decide : ['(', '[', '{'] ⊆ breaks) (opening_mem hopen), ?_, hP.step (.opening hopen) hlater⟩
      rintro rfl
      cases hopen
    next b _ hclose =>
      obtain rfl := Option.some.inj h
      refine ⟨(by decide : [')', ']', '}'] ⊆ breaks) (closing_mem hclose), ?_, hP.step (.closing hclose) hlater⟩
      rintro rfl
      cases hclose
    next =>
      split at h
      next hsign =>
        obtain rfl := Option.some.inj h
        have hsign : c ∈ plainSigns := by simpa using hsign
        exact ⟨List.mem_append_right _ hsign, by rintro rfl; rfl, hP.step (.sign hsign) hlater⟩
      next => cases h

theorem Tokenizes.scanFrom (hP : Tokenizes P) (hnil : P [] []) {run : List Char} (h : scanFrom cs = some (run, ts)) :
    ∃ rest, cs = run ++ rest ∧ (∀ c ∈ run, isIdentifierPart c = true) ∧ BreaksOff rest ∧
      (rest.head? = some '.' → beginsPoint ts = true) ∧ P rest ts := by
  induction cs generalizing run ts with
  | nil =>
    obtain ⟨rfl, rfl⟩ := Prod.mk.inj (Option.some.inj h)
    exact ⟨[], rfl, by simp, by simp [BreaksOff], by simp, hnil⟩
  | cons c cs ih =>
    rw [Code.scanFrom, Option.bind_eq_some_iff] at h
    obtain ⟨⟨run', ts'⟩, hscan, h⟩ := h
    obtain ⟨rest, rfl, hrun, hrest, hpoint, hread⟩ := ih hscan
    dsimp only at h
    split at h
    next hc =>
      obtain ⟨rfl, rfl⟩ := Prod.mk.inj (Option.some.inj h)
      exact ⟨rest, rfl, by simpa [hc] using hrun, hrest, hpoint, hread⟩
    next =>
      obtain ⟨ts₂, hbind, heq⟩ := Option.map_eq_some_iff.1 h
      obtain ⟨rfl, rfl⟩ := Prod.mk.inj heq
      obtain ⟨ts₁, hflush, hbreak⟩ := Option.bind_eq_some_iff.1 hbind
      obtain ⟨hc, hpoint', hread'⟩ := hP.broken hbreak (hP.flushed hrun hrest hpoint hflush hread)
      exact ⟨_, rfl, by simp, by simpa [BreaksOff] using hc, by simpa using hpoint', hread'⟩

theorem scanFrom_run {run : List Char} (h : scanFrom cs = some (run, ts)) :
    ∃ rest, cs = run ++ rest ∧ (∀ c ∈ run, isIdentifierPart c = true) ∧ BreaksOff rest := by
  obtain ⟨rest, hcs, hrun, hrest, -⟩ := Lexes.tokenizes.scanFrom .nil h
  exact ⟨rest, hcs, hrun, hrest⟩

/-- **Where `scan` answers, it answers the tokens.** -/
theorem tokens_of_scan (h : scan cs = some ts) : tokens cs = some ts := by
  obtain ⟨⟨run, ts'⟩, hscan, hflush⟩ := Option.bind_eq_some_iff.1 h
  obtain ⟨rest, rfl, hrun, hrest, hpoint, hread⟩ := Lexes.tokenizes.scanFrom .nil hscan
  exact (Lexes.tokenizes.flushed hrun hrest hpoint hflush hread).tokens

/-! ## Pieces of a text -/

/-- No number is at the end. -/
def EndsOpen (ts : List Token) : Prop := ∀ s, ts.getLast? ≠ some (.literal s)

theorem EndsOpen.tail {t : Token} (h : EndsOpen (t :: ts)) : EndsOpen ts := by
  cases ts with
  | nil => simp [EndsOpen]
  | cons => exact h

theorem EndsOpen.of_flush {ts' : List Token} (h : EndsOpen ts') (hflush : flush run ts = some ts') : EndsOpen ts := by
  unfold flush at hflush
  split at hflush
  next => rwa [Option.some.inj hflush]
  next =>
    split at hflush
    next =>
      split at hflush
      next =>
        rw [← Option.some.inj hflush] at h
        exact h.tail
      next => cases hflush
    next =>
      rw [← Option.some.inj (Option.ite_none_right_eq_some.1 hflush).2] at h
      exact h.tail

theorem flush_append {ts' tb : List Token} (h : flush run ts = some ts')
    (hpoint : beginsPoint tb = true → EndsOpen ts') :
    flush run (ts ++ tb) = some (ts' ++ tb) := by
  unfold flush at h ⊢
  split at h
  next => rw [Option.some.inj h]
  next c run =>
    split at h
    next hd =>
      split at h
      next hnumber =>
        obtain rfl := Option.some.inj h
        rw [if_pos hd, if_pos]
        · rfl
        refine ⟨hnumber.1, ?_⟩
        cases ts with
        | nil =>
          cases hb : beginsPoint tb with
          | false => exact hb
          | true => exact absurd rfl (hpoint hb (String.ofList (c :: run)))
        | cons t ts => cases t <;> exact hnumber.2
      next => cases h
    next hd =>
      obtain ⟨hstart, h⟩ := Option.ite_none_right_eq_some.1 h
      obtain rfl := Option.some.inj h
      rw [if_neg hd, if_pos hstart]
      rfl

theorem breakToken_append {ts' : List Token} {a b : List Char} (h : breakToken c a ts = some ts')
    (hsign : beginsSign (a ++ b) = beginsSign a ∨ c ∉ plainSigns) (tb : List Token) :
    breakToken c (a ++ b) (ts ++ tb) = some (ts' ++ tb) ∧ (EndsOpen ts' → EndsOpen ts) := by
  unfold breakToken at h ⊢
  split at h
  next hc =>
    obtain rfl := Option.some.inj h
    exact ⟨if_pos hc, id⟩
  next hc =>
    rw [if_neg hc]
    split at h
    next => obtain rfl := Option.some.inj h; exact ⟨rfl, EndsOpen.tail⟩
    next => obtain rfl := Option.some.inj h; exact ⟨rfl, EndsOpen.tail⟩
    next =>
      split at h
      next hmem =>
        obtain rfl := Option.some.inj h
        have hsign : beginsSign (a ++ b) = beginsSign a := hsign.resolve_right fun hn => hn (by simpa using hmem)
        rw [if_pos hmem, hsign]
        exact ⟨rfl, EndsOpen.tail⟩
      next => cases h

theorem beginsSign_append {run : List Char} (h : scanFrom (c :: cs) = some (run, ts)) (b : List Char) :
    beginsSign (c :: cs ++ b) = beginsSign (c :: cs) := by
  obtain ⟨rest, heq, hrun, hrest⟩ := scanFrom_run h
  have hslash : c ≠ '/' := not_strange_run hrun hrest heq.symm (by decide)
  have hother : ∀ l, beginsSign (c :: l) = signs.contains c := by
    intro l
    unfold beginsSign
    split
    next heq => exact absurd (List.cons.inj heq).1 hslash
    next heq => exact absurd (List.cons.inj heq).1 hslash
    next heq => rw [(List.cons.inj heq).1]
    next heq => cases heq
  rw [List.cons_append, hother, hother]

/-- The border between two texts: no word and no sign reaches over it, and no
point follows a number. -/
structure Border (a b : List Char) (ta tb : List Token) : Prop where
  words : ∀ c ∈ a.getLast?, isIdentifierPart c = true → ∀ d ∈ b.head?, isIdentifierPart d = false
  signs : ∀ c ∈ a.getLast?, c ∈ plainSigns → beginsSign b = false
  points : beginsPoint tb = true → EndsOpen ta

theorem run_eq_nil {run : List Char} (h : scanFrom cs = some (run, ts))
    (hhead : ∀ d ∈ cs.head?, isIdentifierPart d = false) :
    run = [] := by
  obtain ⟨rest, rfl, hrun, -⟩ := scanFrom_run h
  cases run with
  | nil => rfl
  | cons d run => simpa [hhead d rfl] using hrun d List.mem_cons_self

theorem scanFrom_cons_append {b : List Char} {ta tb : List Token} {run : List Char} (ha : scanFrom [c] = some (run, ta))
    (hb : scan b = some tb) (h : Border [c] b ta tb) : scanFrom (c :: b) = some (run, ta ++ tb) := by
  obtain ⟨⟨run_b, ts_b⟩, hscan, hflush⟩ := Option.bind_eq_some_iff.1 hb
  dsimp only at hflush
  simp only [scanFrom, Option.bind_some, flush] at ha
  rw [scanFrom, hscan, Option.bind_some]
  dsimp only
  cases hc : isIdentifierPart c with
  | true =>
    rw [if_pos hc] at ha
    obtain ⟨rfl, rfl⟩ := Prod.mk.inj (Option.some.inj ha)
    obtain rfl := run_eq_nil hscan (h.words c rfl hc)
    obtain rfl := Option.some.inj hflush
    rfl
  | false =>
    rw [if_neg (by simp [hc])] at ha
    obtain ⟨ts₁, hbreak, heq⟩ := Option.map_eq_some_iff.1 ha
    obtain ⟨rfl, rfl⟩ := Prod.mk.inj heq
    have hsign : beginsSign ([] ++ b) = beginsSign [] ∨ c ∉ plainSigns :=
      (Classical.em (c ∈ plainSigns)).imp_left (h.signs c rfl)
    have hjoined := (breakToken_append hbreak hsign tb).1
    rw [List.nil_append, List.nil_append] at hjoined
    rw [hflush, Option.bind_some, hjoined]
    rfl

theorem scanFrom_append {a b run : List Char} {ta tb : List Token} (ha : scanFrom a = some (run, ta)) (hne : a ≠ [])
    (hb : scan b = some tb) (h : Border a b ta tb) : scanFrom (a ++ b) = some (run, ta ++ tb) := by
  induction a generalizing run ta with
  | nil => contradiction
  | cons c a ih =>
    cases a with
    | nil => exact scanFrom_cons_append ha hb h
    | cons d a =>
      rw [scanFrom, Option.bind_eq_some_iff] at ha
      obtain ⟨⟨run', ts'⟩, hscan, ha⟩ := ha
      dsimp only at ha
      rw [List.cons_append, scanFrom]
      cases hc : isIdentifierPart c with
      | true =>
        rw [if_pos hc] at ha
        obtain ⟨rfl, rfl⟩ := Prod.mk.inj (Option.some.inj ha)
        rw [ih hscan (by simp) ⟨h.words, h.signs, h.points⟩]
        rfl
      | false =>
        rw [if_neg (by simp [hc])] at ha
        obtain ⟨ts₂, hbind, heq⟩ := Option.map_eq_some_iff.1 ha
        obtain ⟨rfl, rfl⟩ := Prod.mk.inj heq
        obtain ⟨ts₁, hflush, hbreak⟩ := Option.bind_eq_some_iff.1 hbind
        obtain ⟨hjoined, hopen⟩ := breakToken_append hbreak (.inl (beginsSign_append hscan b)) tb
        have hopen₁ : beginsPoint tb = true → EndsOpen ts₁ := fun hp => hopen (h.points hp)
        rw [ih hscan (by simp) ⟨h.words, h.signs, fun hp => (hopen₁ hp).of_flush hflush⟩, Option.bind_some]
        dsimp only
        rw [if_neg (by simp), flush_append hflush hopen₁, Option.bind_some, hjoined]
        rfl

/-- **Texts are taken apart piece by piece.** -/
theorem scan_append {a b : List Char} {ta tb : List Token} (ha : scan a = some ta) (hb : scan b = some tb)
    (h : Border a b ta tb) : scan (a ++ b) = some (ta ++ tb) := by
  cases a with
  | nil =>
    obtain rfl : [] = ta := Option.some.inj ha
    exact hb
  | cons c a =>
    obtain ⟨⟨run, ts⟩, hscan, hflush⟩ := Option.bind_eq_some_iff.1 ha
    have hborder : Border (c :: a) b ts tb := ⟨h.words, h.signs, fun hp => (h.points hp).of_flush hflush⟩
    rw [scan, scanFrom_append hscan (by simp) hb hborder]
    exact flush_append hflush h.points

end Retag.Code
