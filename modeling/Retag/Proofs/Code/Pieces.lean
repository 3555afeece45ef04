/-
Texts put together from pieces: fixed text, which is taken apart by running
`scan`, with words and numbers in between that are not known beforehand. A piece
begins with a blank or a bracket and does not end with a number, so any two of
them fit together.
-/
import Retag.Proofs.Code.Scan
import Retag.Proofs.Text.Digits

namespace Retag.Code

open Text (isIdentifierPart isIdentifierStart)

/-- The characters that pieces begin with. -/
def pieceStarts : List Char := [' ', '\n', '(', ')', '{', '}']

def Token.isLiteral : Token → Bool
  | .literal _ => true
  | _ => false

/-- A text with its tokens, to be put behind another one. -/
structure IsPiece (text : String) (ts : List Token) : Prop where
  tokens : scan text.toList = some ts
  starts : ∀ c ∈ text.toList.head?, c ∈ pieceStarts
  ends : EndsOpen ts

theorem endsOpen_iff {ts : List Token} : EndsOpen ts ↔ ts.getLast?.all (!·.isLiteral) = true := by
  unfold EndsOpen
  cases ts.getLast? with
  | none => simp
  | some t => cases t <;> simp [Token.isLiteral]

instance (text : String) (ts : List Token) : Decidable (IsPiece text ts) :=
  decidable_of_iff
    (scan text.toList = some ts ∧ text.toList.head?.all (pieceStarts.contains ·) = true ∧
      ts.getLast?.all (!·.isLiteral) = true)
    ⟨fun ⟨h, hs, he⟩ => ⟨h, fun c hc => by rw [Option.mem_def.1 hc] at hs; simpa using hs, endsOpen_iff.2 he⟩,
      fun ⟨h, hs, he⟩ => ⟨h, by cases hc : text.toList.head? with
        | none => rfl
        | some c => simpa using hs c hc, endsOpen_iff.1 he⟩⟩

variable {text rest : String} {ts tr : List Token}

/-- What begins like a piece has a border with everything. -/
theorem border_of_starts {a b : List Char} {ta tb : List Token} (h : ∀ c ∈ b.head?, c ∈ pieceStarts)
    (hpoint : beginsPoint tb = true → EndsOpen ta) : Border a b ta tb := by
  refine ⟨fun _ _ _ d hd => ?_, fun _ _ _ => ?_, hpoint⟩
  · have hstarts : pieceStarts.all (!isIdentifierPart ·) = true := by decide
    simpa using List.all_eq_true.1 hstarts d (h d hd)
  · cases b with
    | nil => rfl
    | cons d b =>
      have hd := h d rfl
      simp only [pieceStarts, List.mem_cons, List.not_mem_nil, or_false] at hd
      rcases hd with rfl | rfl | rfl | rfl | rfl | rfl <;> rfl

/-- A text that is written out is a piece if its characters are. -/
theorem IsPiece.ofList {cs : List Char} (h : scan cs = some ts ∧ cs.head?.all (pieceStarts.contains ·) = true ∧
    ts.getLast?.all (!·.isLiteral) = true) : IsPiece (String.ofList cs) ts := by
  obtain ⟨htokens, hstarts, hends⟩ := h
  rw [← String.toList_ofList (l := cs)] at htokens hstarts
  refine ⟨htokens, fun c hc => ?_, endsOpen_iff.2 hends⟩
  rw [Option.mem_def.1 hc] at hstarts
  simpa using hstarts

theorem scan_ofList {cs : List Char} (h : scan cs = some ts) : scan (String.ofList cs).toList = some ts := by
  rw [String.toList_ofList, h]

theorem IsPiece.nil : IsPiece "" [] := by decide

theorem IsPiece.of_eq {ts' : List Token} (h : IsPiece text ts) (hts : ts = ts') : IsPiece text ts' := hts ▸ h

theorem IsPiece.append (ha : IsPiece text ts) (hb : IsPiece rest tr) : IsPiece (text ++ rest) (ts ++ tr) := by
  refine ⟨?_, ?_, ?_⟩
  · rw [String.toList_append]
    exact scan_append ha.tokens hb.tokens (border_of_starts hb.starts fun _ => ha.ends)
  · intro c hc
    rw [String.toList_append, List.head?_append] at hc
    rcases Option.or_eq_some_iff.1 hc with h | ⟨-, h⟩
    · exact ha.starts c h
    · exact hb.starts c h
  · intro s hs
    rw [List.getLast?_append] at hs
    rcases Option.or_eq_some_iff.1 hs with h | ⟨-, h⟩
    · exact hb.ends s h
    · exact ha.ends s h

/-- A text after which every other one may stand. -/
def endsClosed (text : String) : Bool := text.toList.getLast?.any fun c => !isIdentifierPart c && !plainSigns.contains c

theorem endsClosed_append (text : String) (h : endsClosed rest = true) : endsClosed (text ++ rest) = true := by
  unfold endsClosed at h ⊢
  rw [String.toList_append, List.getLast?_append]
  cases hr : rest.toList.getLast? with
  | none => simp [hr] at h
  | some c => simpa [hr] using h

/-- A piece goes on with any text from behind a bracket or a blank. -/
theorem IsPiece.andThen (ha : IsPiece text ts) (hends : endsClosed text = true) (hb : Code.scan rest.toList = some tr)
    (hopen : EndsOpen tr) : IsPiece (text ++ rest) (ts ++ tr) := by
  refine ⟨?_, ?_, ?_⟩
  · rw [String.toList_append]
    refine scan_append ha.tokens hb ⟨fun c hc hp => ?_, fun c hc hs => ?_, fun _ => ha.ends⟩
    · simp [endsClosed, Option.mem_def.1 hc, hp] at hends
    · simp [endsClosed, Option.mem_def.1 hc, hs] at hends
  · intro c hc
    rw [String.toList_append, List.head?_append] at hc
    cases h : text.toList with
    | nil => simp [endsClosed, h] at hends
    | cons d cs =>
      rw [h] at hc
      exact ha.starts c (by rw [h]; exact hc)
  · intro s hs
    rw [List.getLast?_append] at hs
    rcases Option.or_eq_some_iff.1 hs with h | ⟨-, h⟩
    · exact hopen s h
    · exact ha.ends s h

/-! ## Words -/

/-- A word of any letters, as names are. -/
structure IsIdentifier (w : String) : Prop where
  parts : ∀ c ∈ w.toList, isIdentifierPart c = true
  start : ∃ c cs, w.toList = c :: cs ∧ isIdentifierStart c = true

theorem scanFrom_parts {run : List Char} (h : ∀ c ∈ run, isIdentifierPart c = true) :
    scanFrom run = some (run, []) := by
  induction run with
  | nil => rfl
  | cons c run ih =>
    rw [scanFrom, ih fun d hd => h d (List.mem_cons_of_mem _ hd), Option.bind_some]
    simp [h c List.mem_cons_self]

theorem IsIdentifier.scan {w : String} (h : IsIdentifier w) : scan w.toList = some [.word w] := by
  obtain ⟨c, cs, heq, hstart⟩ := h.start
  rw [Code.scan, scanFrom_parts h.parts, Option.bind_some]
  dsimp only
  rw [heq, flush, if_neg (by simp [(digitOf_of_start hstart).1]), if_pos hstart, ← heq, String.ofList_toList]

theorem isIdentifier_iff {w : String} :
    IsIdentifier w ↔ (w.toList.all isIdentifierPart && w.toList.head?.any isIdentifierStart) = true := by
  rw [Bool.and_eq_true, List.all_eq_true]
  constructor
  · rintro ⟨hparts, c, cs, hw, hstart⟩
    exact ⟨hparts, by simp [hw, hstart]⟩
  · rintro ⟨hparts, hstart⟩
    refine ⟨hparts, ?_⟩
    cases hw : w.toList with
    | nil => simp [hw] at hstart
    | cons c cs => exact ⟨c, cs, rfl, by simpa [hw] using hstart⟩

instance (w : String) : Decidable (IsIdentifier w) := decidable_of_iff _ isIdentifier_iff.symm

theorem IsIdentifier.append {w suffix : String} (h : IsIdentifier w)
    (hs : ∀ c ∈ suffix.toList, isIdentifierPart c = true) : IsIdentifier (w ++ suffix) := by
  obtain ⟨c, cs, hw, hstart⟩ := h.start
  refine ⟨fun d hd => ?_, c, cs ++ suffix.toList, by rw [String.toList_append, hw]; rfl, hstart⟩
  rw [String.toList_append, List.mem_append] at hd
  exact hd.elim (h.parts d) (hs d)

/-- A word of plain text. -/
structure IsWord (w : String) : Prop where
  parts : ∀ c ∈ w.toList, isPlainPart c = true
  start : ∃ c cs, w.toList = c :: cs ∧ Text.isAsciiDigit c = false

theorem isWord_iff {w : String} :
    IsWord w ↔ (w.toList.all isPlainPart && w.toList.head?.any (!Text.isAsciiDigit ·)) = true := by
  rw [Bool.and_eq_true, List.all_eq_true]
  constructor
  · rintro ⟨hparts, c, cs, hw, hd⟩
    exact ⟨hparts, by simp [hw, hd]⟩
  · rintro ⟨hparts, hstart⟩
    refine ⟨hparts, ?_⟩
    cases hw : w.toList with
    | nil => simp [hw] at hstart
    | cons c cs => exact ⟨c, cs, rfl, by simpa [hw] using hstart⟩

instance (w : String) : Decidable (IsWord w) := decidable_of_iff _ isWord_iff.symm

theorem IsWord.isIdentifier {w : String} (h : IsWord w) : IsIdentifier w := by
  obtain ⟨c, cs, hw, hd⟩ := h.start
  refine ⟨fun c hc => isIdentifierPart_of_part (h.parts c hc), c, cs, hw, start_of_part (h.parts c ?_) hd⟩
  rw [hw]
  exact List.mem_cons_self

/-- Words of plain text stand where those of any letters may. -/
instance (w : String) : Coe (IsWord w) (IsIdentifier w) := ⟨IsWord.isIdentifier⟩

/-- A text after which a word may stand. -/
def endsApart (text : String) : Bool := text.toList.getLast?.any (!isIdentifierPart ·)

theorem endsApart_append (text : String) (h : endsApart rest = true) : endsApart (text ++ rest) = true := by
  unfold endsApart at h ⊢
  rw [String.toList_append, List.getLast?_append]
  cases hr : rest.toList.getLast? with
  | none => simp [hr] at h
  | some c => simpa [hr] using h

theorem border_word {w : String} (hw : ∀ c ∈ w.toList, isIdentifierPart c = true) {tw : List Token}
    (ha : endsApart text = true) (hpoint : beginsPoint tw = false) : Border text.toList w.toList ts tw := by
  unfold endsApart at ha
  refine ⟨fun c hc hp => ?_, fun _ _ _ => ?_, fun h => by simp [h] at hpoint⟩
  · simp [Option.mem_def.1 hc, hp] at ha
  · cases h : w.toList with
    | nil => rfl
    | cons d cs => exact beginsSign_of_part (hw d (by simp [h])) cs

/-- A piece goes on with a word. -/
theorem IsPiece.word {w : String} (ha : IsPiece text ts) (hends : endsApart text = true) (hw : IsIdentifier w) :
    IsPiece (text ++ w) (ts ++ [.word w]) := by
  refine ⟨?_, ?_, ?_⟩
  · rw [String.toList_append]
    exact scan_append ha.tokens hw.scan (border_word hw.parts hends rfl)
  · intro c hc
    rw [String.toList_append, List.head?_append] at hc
    cases h : text.toList with
    | nil => simp [endsApart, h] at hends
    | cons d cs =>
      rw [h] at hc
      exact ha.starts c (by rw [h]; exact hc)
  · simp [EndsOpen]

/-! ## Numbers -/

/-- A number in base ten, maybe with marks between its digits. -/
theorem scan_digits {w : String} (hparts : ∀ c ∈ w.toList, isNumberPart c = true)
    (hfirst : w.toList.head?.any Text.isAsciiDigit = true) : scan w.toList = some [.literal w] := by
  cases hw : w.toList with
  | nil => simp [hw] at hfirst
  | cons c cs =>
    rw [hw] at hparts hfirst
    rw [scan, scanFrom_parts fun d hd => numberPart_is_part (hparts d hd), Option.bind_some]
    dsimp only
    rw [flush, if_pos (by simpa using hfirst), if_pos ⟨List.all_eq_true.2 hparts, rfl⟩, ← hw, String.ofList_toList]

theorem digit_is_numberPart {c : Char} (h : Text.isAsciiDigit c = true) : isNumberPart c = true := by simp [isNumberPart, h]

theorem scan_number (n : Nat) : scan (toString n).toList = some [.literal (toString n)] := by
  refine scan_digits (fun c hc => digit_is_numberPart (digits_isAsciiDigit hc)) ?_
  cases h : (toString n).toList with
  | nil => exact absurd (digits_toList n ▸ h) Nat.toDigits_ne_nil
  | cons c cs => exact digits_isAsciiDigit (h ▸ List.mem_cons_self)

/-- A word or a number stands between a piece and one that does not begin with a
point. -/
theorem IsPiece.run {w : String} {t : Token} (ha : IsPiece text ts) (hends : endsApart text = true)
    (hw : ∀ c ∈ w.toList, isIdentifierPart c = true) (hscan : Code.scan w.toList = some [t]) (hb : IsPiece rest tr)
    (hpoints : beginsPoint [t] = false ∧ beginsPoint tr = false) (hne : tr ≠ []) :
    IsPiece (text ++ w ++ rest) (ts ++ t :: tr) := by
  have hrun : Code.scan (text ++ w).toList = some (ts ++ [t]) := by
    rw [String.toList_append]
    exact scan_append ha.tokens hscan (border_word hw hends hpoints.1)
  refine ⟨?_, ?_, ?_⟩
  · have := scan_append hrun hb.tokens (border_of_starts hb.starts fun h => by simp [h] at hpoints)
    rwa [← String.toList_append, List.append_assoc] at this
  · intro c hc
    rw [String.toList_append, String.toList_append, List.append_assoc, List.head?_append] at hc
    cases h : text.toList with
    | nil => simp [endsApart, h] at hends
    | cons d cs =>
      rw [h] at hc
      exact ha.starts c (by rw [h]; exact hc)
  · intro s hs
    obtain ⟨t, tr, rfl⟩ := List.exists_cons_of_ne_nil hne
    rw [List.getLast?_append, List.getLast?_cons_cons, List.getLast?_cons] at hs
    exact hb.ends s (by rw [List.getLast?_cons]; simpa using hs)

theorem IsPiece.number (ha : IsPiece text ts) (hends : endsApart text = true) (n : Nat)
    (hb : IsPiece rest tr) (hpoint : beginsPoint tr = false) (hne : tr ≠ []) :
    IsPiece (text ++ toString n ++ rest) (ts ++ .literal (toString n) :: tr) :=
  ha.run hends (fun _ hc => digit_is_part (digits_isAsciiDigit hc)) (scan_number n) hb ⟨rfl, hpoint⟩ hne

end Retag.Code
