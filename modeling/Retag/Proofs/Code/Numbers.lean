/-
Numbers where a method is named. Behind a dot a whole number names a position, and what
begins with a digit is one number or has no tokens. So a run of digits and letters before a
call is taken as one literal (`beginsWith_digits`), and that literal names one position or
none (`positions?_whole`).
-/
import Retag.Proofs.Code.Borders
import Retag.Proofs.Code.Refusal
import Retag.Proofs.Text.Digits

namespace Retag.Code

open Text (isIdentifierPart isIdentifierStart isAsciiDigit)

variable {cs a tail rest : List Char} {c : Char} {w : String} {n base : Nat} {empty : Bool}

/-! ## Positions -/

theorem digitOf_value (h : isAsciiDigit c = true) : digitOf c = some (c.toNat - 48) := if_pos h

theorem splitBase_digits (h : ∀ c ∈ cs, isAsciiDigit c = true) : splitBase cs = (10, cs) := by
  have hletter : ∀ {b d tail}, isAsciiDigit d = false → cs ≠ b :: d :: tail := by
    rintro b d tail hd rfl
    simp [h d (by simp)] at hd
  unfold splitBase
  split
  next => exact absurd rfl (hletter (by decide))
  next => exact absurd rfl (hletter (by decide))
  next => exact absurd rfl (hletter (by decide))
  next => rfl

theorem foldl_digits (h : ∀ c ∈ cs, isAsciiDigit c = true) (n : Nat) :
    cs.foldl (fun n c => n * 10 + (digitOf c).getD 0) n = Nat.ofDigitChars 10 cs n := by
  induction cs generalizing n with
  | nil => rfl
  | cons c cs ih =>
    obtain ⟨hc, hcs⟩ := List.forall_mem_cons.1 h
    rw [List.foldl_cons, ih hcs, Nat.ofDigitChars_cons, digitOf_value hc, Nat.mul_comm]
    rfl

theorem position?_digits (h : n < UInt32.size) : position? (toString n).toList = some n := by
  have hdigits : ∀ c ∈ (toString n).toList, isAsciiDigit c = true := fun c => digits_isAsciiDigit
  obtain ⟨c, cs, hlist⟩ : ∃ c cs, (toString n).toList = c :: cs :=
    List.exists_cons_of_ne_nil (by rw [digits_toList]; exact Nat.toDigits_ne_nil)
  have hfilter : (toString n).toList.filter (· != '_') = (toString n).toList := by
    rw [List.filter_eq_self]
    intro c hc
    rw [bne_iff_ne]
    rintro rfl
    exact absurd (hdigits _ hc) (by decide)
  have hall : ((toString n).toList.all fun c => (digitOf c).any (· < 10)) = true := by
    rw [List.all_eq_true]
    intro c hc
    obtain ⟨d, hd, hdigit⟩ := digitOf_digit (hdigits c hc)
    simp [hdigit, hd]
  have hhead : (toString n).toList.head?.any isAsciiDigit = true := by
    rw [hlist]
    exact hdigits c (hlist ▸ List.mem_cons_self)
  have hempty : (toString n).toList.isEmpty = false := by rw [hlist]; rfl
  have hvalue : (toString n).toList.foldl (fun n c => n * 10 + (digitOf c).getD 0) 0 = n := by
    rw [foldl_digits hdigits, digits_toList, Nat.ofDigitChars_ten_toDigits]
  unfold position?
  rw [splitBase_digits hdigits]
  simp only [hfilter, hall, hhead, hempty, hvalue, h, if_true]
  rfl

theorem position?_lt (h : position? cs = some n) : n < UInt32.size := by
  unfold position? at h
  simp only at h
  split at h
  next => cases h
  next =>
    obtain ⟨hlt, h⟩ := Option.ite_none_right_eq_some.1 h
    exact Option.some.inj h ▸ hlt

/-- A number without a dot names one position or none. -/
theorem positions?_whole (h : '.' ∉ w.toList) : positions? w = (position? w.toList).map fun n => [toString n] := by
  rw [positions?, List.splitOn_eq_singleton h]
  cases hposition : position? w.toList <;> simp [hposition]

theorem positions?_number (h : n < UInt32.size) : positions? (toString n) = some [toString n] := by
  have hdot : '.' ∉ (toString n).toList := fun hmem => absurd (digits_isAsciiDigit hmem) (by decide)
  rw [positions?_whole hdot, position?_digits h]
  rfl

/-! ## Literals before a call

What is left behind the digits is an end of the run that does not begin with a digit. If it
begins a name, the name belongs to the literal. Else nothing begins with it. -/

/-- An end of a run before a call that no digit begins. -/
def EndsDigits (a tail rest : List Char) : Prop :=
  ∃ r, r <:+ a ∧ rest = r ++ '(' :: tail ∧ ∀ c ∈ r.head?, isAsciiDigit c = false

theorem EndsDigits.mono {b : List Char} (h : EndsDigits a tail rest) (hab : a <:+ b) : EndsDigits b tail rest :=
  let ⟨r, hr, hrest⟩ := h
  ⟨r, hr.trans hab, hrest⟩

theorem afterDigits_before_call (h : afterDigits base empty (a ++ '(' :: tail) = some rest) : EndsDigits a tail rest := by
  induction a generalizing empty with
  | nil =>
    have hnone : digitOf '(' = none := by decide
    rw [List.nil_append, afterDigits, if_neg (by decide), hnone] at h
    obtain ⟨-, h⟩ := Option.ite_none_left_eq_some.1 h
    exact ⟨[], List.nil_suffix, (Option.some.inj h).symm, by simp⟩
  | cons c a ih =>
    have hlonger : a <:+ c :: a := List.suffix_cons c a
    rw [List.cons_append, afterDigits] at h
    split at h
    next => exact (ih (Option.ite_none_left_eq_some.1 h).2).mono hlonger
    split at h
    next d hd =>
      split at h
      next => exact (ih h).mono hlonger
      obtain ⟨hother, h⟩ := Option.ite_none_left_eq_some.1 h
      simp only [Bool.or_eq_true, not_or, Bool.not_eq_true] at hother
      exact ⟨c :: a, List.suffix_rfl, (Option.some.inj h).symm, by rintro _ ⟨rfl⟩; exact hother.1⟩
    next hnone =>
      obtain ⟨-, h⟩ := Option.ite_none_left_eq_some.1 h
      refine ⟨c :: a, List.suffix_rfl, (Option.some.inj h).symm, ?_⟩
      rintro _ ⟨rfl⟩
      rw [Bool.eq_false_iff]
      intro hdigit
      rw [digitOf_value hdigit] at hnone
      cases hnone

theorem afterWhole_before_call (ha : a ≠ []) (h : afterWhole (a ++ '(' :: tail) = some rest) :
    ∃ mid, EndsDigits a tail mid ∧ rest = afterSuffix mid := by
  -- A letter that tells the base is of the run.
  have hbase : ∀ {b d cs}, a ++ '(' :: tail = b :: d :: cs → d ≠ '(' → ∃ a', a = b :: d :: a' ∧ cs = a' ++ '(' :: tail := by
    intro b d cs heq hd
    obtain ⟨x, a, rfl⟩ := List.exists_cons_of_ne_nil ha
    cases a with
    | nil => exact absurd (List.cons.inj (List.cons.inj heq).2).1.symm hd
    | cons y a =>
      obtain ⟨rfl, hlater⟩ := List.cons.inj heq
      obtain ⟨rfl, rfl⟩ := List.cons.inj hlater
      exact ⟨a, rfl, rfl⟩
  unfold afterWhole at h
  obtain ⟨mid, hmid, rfl⟩ := Option.map_eq_some_iff.1 h
  refine ⟨mid, ?_, rfl⟩
  split at hmid
  next heq =>
    obtain ⟨a, rfl, rfl⟩ := hbase heq (by decide)
    exact (afterDigits_before_call hmid).mono (List.suffix_append [_, _] a)
  next heq =>
    obtain ⟨a, rfl, rfl⟩ := hbase heq (by decide)
    exact (afterDigits_before_call hmid).mono (List.suffix_append [_, _] a)
  next heq =>
    obtain ⟨a, rfl, rfl⟩ := hbase heq (by decide)
    exact (afterDigits_before_call hmid).mono (List.suffix_append [_, _] a)
  next => exact afterDigits_before_call hmid

theorem head_dropWhile {p : Char → Bool} (hc : c ∈ (a.dropWhile p).head?) : p c = false := by
  simpa [Option.mem_def.1 hc] using List.head?_dropWhile_not p a

theorem afterExponent_before_call (hparts : ∀ c ∈ a, isIdentifierPart c = true)
    (h : afterExponent (a ++ '(' :: tail) = some rest) : EndsDigits a tail rest := by
  have hdrop : (a ++ '(' :: tail).dropWhile (· == '_') = a.dropWhile (· == '_') ++ '(' :: tail := dropWhile_border (by decide)
  have hsuffix : a.dropWhile (· == '_') <:+ a := List.dropWhile_suffix _
  have hother : ∀ {d cs}, a.dropWhile (· == '_') ++ '(' :: tail = d :: cs → isIdentifierPart d = true ∨ d = '(' := by
    intro d cs heq
    cases hrun : a.dropWhile (· == '_') with
    | nil =>
      rw [hrun] at heq
      exact .inr (List.cons.inj heq).1.symm
    | cons b run =>
      rw [hrun] at heq
      obtain ⟨rfl, -⟩ := List.cons.inj heq
      exact .inl (hparts _ (hsuffix.subset (hrun ▸ List.mem_cons_self)))
  unfold afterExponent at h
  rw [hdrop] at h
  simp only at h
  split at h
  next heq => exact absurd (hother heq) (by decide)
  next heq => exact absurd (hother heq) (by decide)
  next =>
    obtain ⟨-, h⟩ := Option.ite_none_right_eq_some.1 h
    rw [dropWhile_border (by decide)] at h
    refine ⟨_, (List.dropWhile_suffix _).trans hsuffix, (Option.some.inj h).symm, fun c hc => ?_⟩
    have hnumber := head_dropWhile hc
    simp only [isNumberPart, Bool.or_eq_false_iff] at hnumber
    exact hnumber.1

theorem afterFraction_before_call (hparts : ∀ c ∈ a, isIdentifierPart c = true)
    (h : afterFraction (a ++ '(' :: tail) = some rest) : ∃ mid, EndsDigits a tail mid ∧ rest = afterSuffix mid := by
  have hdrop : (a ++ '(' :: tail).dropWhile isNumberPart = a.dropWhile isNumberPart ++ '(' :: tail := dropWhile_border (by decide)
  have hsuffix : a.dropWhile isNumberPart <:+ a := List.dropWhile_suffix _
  unfold afterFraction at h
  split at h
  next => cases h
  split at h
  next => cases h
  rw [hdrop] at h
  cases hrun : a.dropWhile isNumberPart with
  | nil =>
    rw [hrun] at h
    exact absurd h (by simp)
  | cons e run =>
    have he : isIdentifierPart e = true := hparts e (hsuffix.subset (hrun ▸ List.mem_cons_self))
    rw [hrun, List.cons_append] at h
    split at h
    next heq =>
      obtain ⟨rfl, -⟩ := List.cons.inj heq
      exact absurd he (by decide)
    next heq =>
      obtain ⟨rfl, rfl⟩ := List.cons.inj heq
      obtain ⟨-, h⟩ := Option.ite_none_right_eq_some.1 h
      obtain ⟨mid, hmid, rfl⟩ := Option.map_eq_some_iff.1 h
      have hlonger : run <:+ a := (List.suffix_cons e run).trans (hrun ▸ hsuffix)
      exact ⟨mid, (afterExponent_before_call (fun c hc => hparts c (hlonger.subset hc)) hmid).mono hlonger, rfl⟩
    next => cases h

/-- The literal takes the run, or what is left of it begins with no digit and no name. -/
theorem afterSuffix_before_call (hparts : ∀ c ∈ a, isIdentifierPart c = true) (h : EndsDigits a tail rest) :
    afterSuffix rest = '(' :: tail ∨ ∃ c cs, afterSuffix rest = c :: cs ∧ isIdentifierPart c = true ∧
      isIdentifierStart c = false ∧ isAsciiDigit c = false := by
  obtain ⟨r, hr, rfl, hdigit⟩ := h
  cases r with
  | nil => exact .inl rfl
  | cons c r =>
    have hrun : ∀ d ∈ c :: r, isIdentifierPart d = true := fun d hd => hparts d (hr.subset hd)
    by_cases hstart : isIdentifierStart c = true
    · left
      have hspan : spanName (c :: r ++ '(' :: tail) = (c :: r, '(' :: tail) := spanName_run hrun (breaksOff_cons (by decide))
      rw [List.cons_append] at hspan ⊢
      rw [afterSuffix, if_pos hstart, hspan]
    · right
      rw [List.cons_append, afterSuffix, if_neg hstart]
      exact ⟨c, _, rfl, hrun c List.mem_cons_self, by simpa using hstart, hdigit c rfl⟩

/-! ## Tokens of such runs -/

theorem readToken_part {cs : List Char} (hpart : isIdentifierPart c = true) : readToken (c :: cs) = readLeaf (c :: cs) := by
  obtain ⟨hopen, hclose⟩ := brackets_of_part hpart
  unfold readToken
  simp only [hopen, hclose]

/-- What only continues names begins neither a word nor a sign. -/
theorem readLeaf_not_start {cs : List Char} (hpart : isIdentifierPart c = true) (hstart : isIdentifierStart c = false)
    (hliteral : afterLiteral (c :: cs) = none) : readLeaf (c :: cs) = none := by
  have hquote : c ≠ '\x27' := by rintro rfl; revert hpart; decide
  unfold readLeaf
  simp [hliteral, beginsSign_of_part hpart, readWord_not_start hstart]

theorem readTokens_part {cs : List Char} {fuel : Nat} (hpart : isIdentifierPart c = true) (hread : readToken (c :: cs) = none) :
    readTokens fuel (c :: cs) = none := by
  have hslash : c ≠ '/' := by rintro rfl; revert hpart; decide
  cases fuel with
  | zero => rfl
  | succ fuel =>
    rw [readTokens, List.dropWhile_cons_of_neg (by simp [isSpace_of_part hpart])]
    simp [openingComment_other hslash, hread]

/-- What begins neither a name nor a number has no tokens. -/
theorem readTokens_not_start {cs : List Char} {fuel : Nat} (hpart : isIdentifierPart c = true)
    (hstart : isIdentifierStart c = false) (hdigit : isAsciiDigit c = false) : readTokens fuel (c :: cs) = none := by
  have hother : c ∉ literalStarts := fun hmem => by
    have hall : literalStarts.all (fun d => !isIdentifierPart d || isIdentifierStart d) = true := by decide
    have hc := List.all_eq_true.1 hall c hmem
    simp [hpart, hstart] at hc
  have hwhole : afterWhole (c :: cs) = none := by
    have hzero : c ≠ '0' := by rintro rfl; cases hdigit
    have hmark : c ≠ '_' := by rintro rfl; revert hstart; decide
    have hbeyond : ¬c.toNat < 128 := fun hlt => by
      have h := forall_ascii (p := fun c => !isIdentifierPart c || isIdentifierStart c || isAsciiDigit c) (by decide) c hlt
      simp [hpart, hstart, hdigit] at h
    have hnone := (digitOf_beyond hbeyond).2
    unfold afterWhole
    split
    next heq => exact absurd (List.cons.inj heq).1 hzero
    next heq => exact absurd (List.cons.inj heq).1 hzero
    next heq => exact absurd (List.cons.inj heq).1 hzero
    next => rw [afterDigits, if_neg hmark, hnone]; rfl
  have hfraction : afterFraction (c :: cs) = none := by
    unfold afterFraction
    simp [hdigit]
  have hliteral : afterLiteral (c :: cs) = none := by
    rw [afterLiteral_other hother, hwhole, hfraction]
    rfl
  refine readTokens_part hpart ?_
  rw [readToken_part hpart, readLeaf_not_start hpart hstart hliteral]

/-- **What begins with a digit is one literal**, if there are tokens at all. -/
theorem beginsWith_digits (hparts : ∀ c ∈ w.toList, isIdentifierPart c = true)
    (hdigit : w.toList.head?.any isAsciiDigit = true) :
    BeginsWith (w.toList ++ '(' :: tail) [.literal w] ('(' :: tail) := by
  obtain ⟨c, run, hw⟩ : ∃ c run, w.toList = c :: run := by
    cases h : w.toList with
    | nil => simp [h] at hdigit
    | cons c run => exact ⟨c, run, rfl⟩
  have hc : isAsciiDigit c = true := by simpa [hw] using hdigit
  have hpart := digit_is_part hc
  have hslash : c ≠ '/' := by rintro rfl; cases hc
  have hstart : isIdentifierStart c = false := by
    rw [Bool.eq_false_iff]
    intro hstart
    simp [(digitOf_of_start hstart).1] at hc
  intro fuel ts hread
  rw [hw, List.cons_append] at hread
  rw [hw] at hparts
  cases hliteral : afterLiteral (c :: (run ++ '(' :: tail)) with
  | none =>
    have hnone : readToken (c :: (run ++ '(' :: tail)) = none := by
      rw [readToken_part hpart, readLeaf_not_start hpart hstart hliteral]
    rw [readTokens_part hpart hnone] at hread
    cases hread
  | some rest =>
    have hends : ∃ mid, EndsDigits (c :: run) tail mid ∧ rest = afterSuffix mid := by
      rw [afterLiteral_other (digit_not_literalStart hc)] at hliteral
      rcases Option.or_eq_some_iff.1 hliteral with h | ⟨-, h⟩
      · exact afterFraction_before_call hparts h
      · exact afterWhole_before_call (List.cons_ne_nil c run) h
    obtain ⟨mid, hmid, rfl⟩ := hends
    cases fuel with
    | zero => cases hread
    | succ fuel =>
      have hleaf : readToken (c :: (run ++ '(' :: tail)) = some (.literal (String.ofList ((c :: (run ++ '(' :: tail)).take
          ((c :: (run ++ '(' :: tail)).length - (afterSuffix mid).length))), afterSuffix mid) := by
        rw [readToken_part hpart]
        unfold readLeaf
        rw [hliteral]
      rw [readTokens_cons (isSpace_of_part hpart) hslash hleaf] at hread
      obtain ⟨later, hlater, rfl⟩ := Option.map_eq_some_iff.1 hread
      rcases afterSuffix_before_call hparts hmid with hrest | ⟨d, cs, hrest, hd, hstart', hdigit'⟩
      · rw [hrest] at hlater ⊢
        refine ⟨fuel, later, hlater, ?_⟩
        have htake : (c :: (run ++ '(' :: tail)).take ((c :: (run ++ '(' :: tail)).length - ('(' :: tail).length) = c :: run := by
          rw [← List.cons_append, List.length_append, Nat.add_sub_cancel, List.take_left' rfl]
        rw [htake, ← hw, String.ofList_toList]
        rfl
      · rw [hrest, readTokens_not_start hd hstart' hdigit'] at hlater
        cases hlater

end Retag.Code
