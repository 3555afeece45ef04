/-
Names in snake case. Splitting a name into words keeps its characters, and lower case
maps letters and digits to such, so a plain name becomes a word of source code. The
characters of identifiers are mapped to such as well, but the first need not begin one.
-/
import Retag.Text.Words
import Retag.Proofs.Code.Pieces

namespace Retag.Text

/-- ASCII letters and digits, of which the first is a letter. -/
def isPlainName (s : String) : Bool :=
  match s.toList with
  | [] => false
  | c :: cs => isAsciiLetter c && cs.all fun d => isAsciiLetter d || isAsciiDigit d

/-- A letter or a digit of ASCII. -/
def isPlainLetter (c : Char) : Bool := isAsciiLetter c || isAsciiDigit c

/-- Its lower-case form. -/
def plainLower (c : Char) : Char := if isAsciiUpper c then Char.ofNat (c.toNat + 32) else c

/-! ## Letters -/

theorem isPlainPart_of_letter {c : Char} (h : isPlainLetter c = true) : Code.isPlainPart c = true := by
  unfold isPlainLetter at h
  simp [Code.isPlainPart, h]

theorem isAlphanumeric_of_letter {c : Char} (h : isPlainLetter c = true) : isAlphanumeric c = true := by
  have hascii : c.toNat < 0x80 := Code.isPlainPart_ascii (isPlainPart_of_letter h)
  unfold isPlainLetter at h
  rw [isAlphanumeric, if_pos hascii, h]

theorem lowerChars_letter {c : Char} (h : isPlainLetter c = true) : lowerChars c = [plainLower c] := by
  have hascii : c.toNat < 0x80 := Code.isPlainPart_ascii (isPlainPart_of_letter h)
  rw [lowerChars, if_pos hascii, plainLower]

set_option maxRecDepth 4000 in
theorem isPlainPart_lower {c : Char} (h : isPlainLetter c = true) : Code.isPlainPart (plainLower c) = true := by
  have := Code.forall_part (p := fun c => !isPlainLetter c || Code.isPlainPart (plainLower c)) (by decide)
    (isPlainPart_of_letter h)
  simpa [h] using this

set_option maxRecDepth 4000 in
theorem isAsciiDigit_lower {c : Char} (h : isAsciiLetter c = true) : isAsciiDigit (plainLower c) = false := by
  have hpart : Code.isPlainPart c = true := by simp [Code.isPlainPart, h]
  have := Code.forall_part (p := fun c => !isAsciiLetter c || !isAsciiDigit (plainLower c)) (by decide) hpart
  simpa [h] using this

/-! ## Words -/

variable {cs : List Char} {s : String}

theorem splitRun_flatten (mode : WordMode) (word : List Char) (hne : cs ≠ []) :
    (splitRun mode word cs).flatten = word.reverse ++ cs := by
  induction mode, word, cs using splitRun.induct with
  | case1 => contradiction
  | case2 mode word c => simp [splitRun]
  | case3 mode word c next rest h ih =>
    rw [splitRun, if_pos h, List.flatten_cons, ih (by simp)]
    simp
  | case4 mode word c next rest h h' ih =>
    rw [splitRun, if_neg h, if_pos h', List.flatten_cons, ih (by simp)]
    simp
  | case5 mode word c next rest h h' ih =>
    rw [splitRun, if_neg h, if_neg h', ih (by simp)]
    simp

theorem alphanumericRuns_letters (run : List Char) (h : ∀ c ∈ cs, isPlainLetter c = true) :
    alphanumericRuns run cs = [run.reverse ++ cs] := by
  induction cs generalizing run with
  | nil => simp [alphanumericRuns]
  | cons c cs ih =>
    rw [alphanumericRuns, if_pos (isAlphanumeric_of_letter (h c List.mem_cons_self)),
      ih _ fun d hd => h d (List.mem_cons_of_mem _ hd)]
    simp

theorem lowerWord_letters (h : ∀ c ∈ cs, isPlainLetter c = true) : lowerWord cs = cs.map plainLower := by
  induction cs with
  | nil => rfl
  | cons c cs ih =>
    have hsigma : c ≠ 'Σ' := by
      rintro rfl
      exact absurd (h _ List.mem_cons_self) (by decide)
    rw [lowerWord, lowerChars_letter (h c List.mem_cons_self), ih fun d hd => h d (List.mem_cons_of_mem _ hd)]
    · rfl
    · rintro rfl -
      exact hsigma rfl

theorem mem_intercalate {c : Char} {ws : List (List Char)} (h : c ∈ List.intercalate ['_'] ws) :
    c = '_' ∨ ∃ w ∈ ws, c ∈ w := by
  induction ws with
  | nil => simp at h
  | cons w ws ih =>
    cases ws with
    | nil => exact .inr ⟨w, by simp, by simpa using h⟩
    | cons v ws =>
      rw [List.intercalate_cons_cons, List.append_assoc, List.mem_append, List.mem_append, List.mem_singleton] at h
      rcases h with h | h | h
      · exact .inr ⟨w, by simp, h⟩
      · exact .inl h
      · exact (ih h).imp id fun ⟨u, hu, hc⟩ => ⟨u, List.mem_cons_of_mem _ hu, hc⟩

/-! ## Names -/

theorem letters_of_plain (h : isPlainName s = true) :
    ∃ c cs, s.toList = c :: cs ∧ isAsciiLetter c = true ∧ ∀ d ∈ c :: cs, isPlainLetter d = true := by
  unfold isPlainName at h
  cases hs : s.toList with
  | nil => simp [hs] at h
  | cons c cs =>
    simp only [hs, Bool.and_eq_true, List.all_eq_true] at h
    refine ⟨c, cs, rfl, h.1, fun d hd => ?_⟩
    rcases List.mem_cons.1 hd with rfl | hd
    · simp [isPlainLetter, h.1]
    · exact h.2 d hd

/-- The words of a plain name, before they are joined. -/
theorem snakeCase_eq (h : isPlainName s = true) :
    (snakeCase s).toList = List.intercalate ['_'] ((splitRun .boundary [] s.toList).map fun w => w.map plainLower) ∧
      (splitRun .boundary [] s.toList).flatten = s.toList := by
  obtain ⟨c, cs, hs, -, hletters⟩ := letters_of_plain h
  have hflat : (splitRun .boundary [] (c :: cs)).flatten = c :: cs := splitRun_flatten _ _ (by simp)
  refine ⟨?_, by rw [hs, hflat]⟩
  rw [snakeCase, String.toList_ofList, words, hs, alphanumericRuns_letters _ hletters]
  simp only [List.reverse_nil, List.nil_append, List.flatMap_cons, List.flatMap_nil, List.append_nil]
  congr 1
  refine List.map_congr_left fun w hw => lowerWord_letters fun d hd => hletters d ?_
  rw [← hflat]
  exact List.mem_flatten_of_mem hw hd

theorem snakeCase_parts (h : isPlainName s = true) {c : Char} (hc : c ∈ (snakeCase s).toList) :
    Code.isPlainPart c = true := by
  obtain ⟨heq, hflat⟩ := snakeCase_eq h
  obtain ⟨_, _, hs, -, hletters⟩ := letters_of_plain h
  rw [heq] at hc
  rcases mem_intercalate hc with rfl | ⟨w, hw, hc⟩
  · rfl
  obtain ⟨v, hv, rfl⟩ := List.mem_map.1 hw
  obtain ⟨d, hd, rfl⟩ := List.mem_map.1 hc
  refine isPlainPart_lower (hletters d ?_)
  rw [← hs, ← hflat]
  exact List.mem_flatten_of_mem hv hd

/-- **A plain name in snake case is a word.** -/
theorem snakeCase_isWord (h : isPlainName s = true) : Code.IsWord (snakeCase s) := by
  refine ⟨fun c hc => snakeCase_parts h hc, ?_⟩
  obtain ⟨heq, hflat⟩ := snakeCase_eq h
  obtain ⟨c, cs, hs, hletter, -⟩ := letters_of_plain h
  rw [heq]
  rw [hs] at hflat ⊢
  cases hws : splitRun .boundary [] (c :: cs) with
  | nil => simp [hws] at hflat
  | cons w ws =>
    rw [hws, List.flatten_cons] at hflat
    cases w with
    | nil =>
      cases ws with
      | nil => simp at hflat
      | cons v ws => exact ⟨'_', _, by rw [List.map_cons, List.map_cons, List.intercalate_cons_cons]; rfl, by decide⟩
    | cons d w =>
      obtain ⟨rfl, -⟩ := List.cons.inj hflat
      exact ⟨plainLower d, _, by rw [List.map_cons, List.map_cons, List.intercalate_cons_cons_left], isAsciiDigit_lower hletter⟩

/-! ## Names of any letters -/

/-- Whether a run of characters has its lower-case forms in one range of the characters
of identifiers. -/
def CaseRun.lowersInto (r : CaseRun) (q : Nat × Nat) : Bool :=
  (q.1 : Int) ≤ r.first + r.offset && r.last + r.offset ≤ (q.2 : Int) &&
    (q.2 < 0xd800 || 0xdfff < q.1 && q.2 < 0x110000)

/-- The first range of the characters of identifiers that goes as far as the lower-case
forms of a run. -/
def CaseRun.lowerRange? (r : CaseRun) : Option (Nat × Nat) :=
  identifierPartRanges.toList.find? fun q => Nat.ble ((r.last : Int) + r.offset).toNat q.2

/-- Whether a run is that of the circled letters, which are in no identifier. -/
def CaseRun.isCircled (r : CaseRun) : Bool := r.first == 0x24b6 && r.last == 0x24cf

/-- Whether a run is the sign of the kelvin, which becomes a letter of ASCII. -/
def CaseRun.isKelvin (r : CaseRun) : Bool := r.first == 0x212a && r.last == 0x212a && r.offset == -8383

/-- The ranges are in order, so one of them is tried for each run, not all. -/
theorem lowerRuns_lowerRange : lowerRuns.toList.all (fun r =>
    r.isCircled || (r.isKelvin || r.lowerRange?.any r.lowersInto)) = true := by decide +kernel

/-- Every run of characters that have a lower-case form, but two. -/
theorem lowerRuns_lowersInto {r : CaseRun} (h : r ∈ lowerRuns.toList) :
    r.isCircled = true ∨ r.isKelvin = true ∨ ∃ q ∈ identifierPartRanges.toList, r.lowersInto q = true := by
  have hrun := List.all_eq_true.1 lowerRuns_lowerRange r h
  rw [Bool.or_eq_true, Bool.or_eq_true, Option.any_eq_true] at hrun
  exact hrun.imp_right fun hrun => hrun.imp_right fun ⟨q, hq, hlower⟩ => ⟨q, List.mem_of_find?_eq_some hq, hlower⟩

theorem isIdentifierPart_ofNat {n : Nat} {q : Nat × Nat} (hq : q ∈ identifierPartRanges.toList)
    (hlow : q.1 ≤ n) (hhigh : n ≤ q.2) (hvalid : n.isValidChar) : isIdentifierPart (Char.ofNat n) = true := by
  have hascii : ∀ q ∈ identifierPartRanges.toList, 0x80 ≤ q.1 := by decide +kernel
  have hvalue : (Char.ofNat n).toNat = n := by
    rw [Char.ofNat, dif_pos hvalid]
    rfl
  have hbeyond := hascii q hq
  rw [isIdentifierPart, hvalue, if_neg (by omega), CodeRanges.contains, ← Array.any_toList, List.any_eq_true]
  exact ⟨q, hq, by simp [hvalue, hlow, hhigh]⟩

theorem isIdentifierPart_lower {c d : Char} (h : isIdentifierPart c = true) (hd : d ∈ lowerChars c) :
    isIdentifierPart d = true := by
  unfold lowerChars at hd
  split at hd
  next hlt =>
    obtain rfl := List.mem_singleton.1 hd
    have := Code.forall_ascii (p := fun c => !isIdentifierPart c ||
      isIdentifierPart (if isAsciiUpper c then Char.ofNat (c.toNat + 32) else c)) (by decide +kernel) c hlt
    simpa [h] using this
  next hlt =>
    split at hd
    next =>
      have hdotted : ['i', Char.ofNat 0x307].all isIdentifierPart = true := by decide +kernel
      exact List.all_eq_true.1 hdotted d hd
    next =>
      split at hd
      next r hfind =>
        obtain rfl := List.mem_singleton.1 hd
        have hmem : r ∈ lowerRuns.toList := Array.mem_toList_iff.2 (Array.mem_of_find?_eq_some hfind)
        have hin : r.first ≤ c.toNat ∧ c.toNat ≤ r.last := by
          have := Array.find?_some hfind
          simp only [Bool.and_eq_true, decide_eq_true_eq] at this
          exact this.1
        obtain hcircled | hkelvin | ⟨q, hq, hlower⟩ := lowerRuns_lowersInto hmem
        · simp only [CaseRun.isCircled, Bool.and_eq_true, beq_iff_eq] at hcircled
          have hapart : identifierPartRanges.toList.all (fun q => 0x24cf < q.1 || q.2 < 0x24b6) = true := by decide +kernel
          have hnot := Code.not_contains_of_apart hapart (by omega) (by omega : c.toNat ≤ 0x24cf)
          rw [isIdentifierPart, if_neg hlt, hnot] at h
          cases h
        · simp only [CaseRun.isKelvin, Bool.and_eq_true, beq_iff_eq] at hkelvin
          have hletter : ((c.toNat : Int) + r.offset).toNat = 0x6b := by omega
          rw [hletter]
          decide
        · simp only [CaseRun.lowersInto, Bool.and_eq_true, Bool.or_eq_true, decide_eq_true_eq] at hlower
          refine isIdentifierPart_ofNat hq (by omega) (by omega) ?_
          unfold Nat.isValidChar
          omega
      next => exact List.mem_singleton.1 hd ▸ h

theorem mem_of_alphanumericRuns {run w : List Char} {c : Char} (hw : w ∈ alphanumericRuns run cs) (hc : c ∈ w) :
    c ∈ run ∨ c ∈ cs := by
  induction cs generalizing run with
  | nil =>
    rw [alphanumericRuns, List.mem_singleton] at hw
    subst hw
    exact .inl (List.mem_reverse.1 hc)
  | cons d cs ih =>
    rw [alphanumericRuns] at hw
    split at hw
    · rcases ih hw with h | h
      · rcases List.mem_cons.1 h with rfl | h
        · exact .inr List.mem_cons_self
        · exact .inl h
      · exact .inr (List.mem_cons_of_mem _ h)
    · rcases List.mem_cons.1 hw with rfl | hw
      · exact .inl (List.mem_reverse.1 hc)
      · exact .inr (List.mem_cons_of_mem _ ((ih hw).resolve_left (by simp)))

theorem mem_of_splitRun {w : List Char} {c : Char} (hw : w ∈ splitRun .boundary [] cs) (hc : c ∈ w) : c ∈ cs := by
  cases cs with
  | nil => simp [splitRun] at hw
  | cons d cs =>
    have hflat : (splitRun .boundary [] (d :: cs)).flatten = d :: cs := splitRun_flatten _ _ (by simp)
    rw [← hflat]
    exact List.mem_flatten_of_mem hw hc

theorem mem_lowerWord {d : Char} (h : d ∈ lowerWord cs) : d = 'ς' ∨ ∃ c ∈ cs, d ∈ lowerChars c := by
  fun_induction lowerWord cs with
  | case1 => simp at h
  | case2 => exact .inl (List.mem_singleton.1 h)
  | case3 c cs _ ih =>
    rcases List.mem_append.1 h with h | h
    · exact .inr ⟨c, List.mem_cons_self, h⟩
    · exact (ih h).imp id fun ⟨e, he, hd⟩ => ⟨e, List.mem_cons_of_mem _ he, hd⟩

/-- The characters of an identifier in snake case can all stand in an identifier. -/
theorem snakeCase_identifierParts (h : ∀ c ∈ s.toList, isIdentifierPart c = true) :
    ∀ c ∈ (snakeCase s).toList, isIdentifierPart c = true := by
  intro c hc
  rw [snakeCase, String.toList_ofList] at hc
  rcases mem_intercalate hc with rfl | ⟨w, hw, hc⟩
  · decide
  obtain ⟨word, hword, rfl⟩ := List.mem_map.1 hw
  obtain ⟨run, hrun, hword⟩ := List.mem_flatMap.1 hword
  rcases mem_lowerWord hc with rfl | ⟨d, hd, hc⟩
  · decide +kernel
  · exact isIdentifierPart_lower (h d ((mem_of_alphanumericRuns hrun (mem_of_splitRun hword hd)).resolve_left (by simp))) hc

end Retag.Text
