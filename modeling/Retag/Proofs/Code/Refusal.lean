/-
Texts that make no file. A file is read item by item, so none is read if the first
item that cannot be read comes behind any number of others (`Refused.behind`).

Where the tokens of a whole text are not known, those at its start still are: they are
taken off one after the other, whatever is left (`BeginsWith`).
-/
import Retag.Proofs.Code.Comments
import Retag.Proofs.Code.Items

namespace Retag.Code

open Text (isIdentifierPart isIdentifierStart)

variable {cs mid tail rest : List Char} {ts front back : List Token} {t : Token} {c : Char} {w : String} {fuel : Nat}

/-! ## Tokens at the start -/

/-- If a text has tokens, they begin with the given ones and go on with those of the
rest. -/
def BeginsWith (cs : List Char) (front : List Token) (rest : List Char) : Prop :=
  ∀ fuel ts, readTokens fuel cs = some ts → ∃ fuel' later, readTokens fuel' rest = some later ∧ ts = front ++ later

theorem BeginsWith.trans (h : BeginsWith cs front mid) (hrest : BeginsWith mid back rest) :
    BeginsWith cs (front ++ back) rest := by
  intro fuel ts hread
  obtain ⟨fuel₁, ts₁, hread₁, rfl⟩ := h fuel ts hread
  obtain ⟨fuel₂, ts₂, hread₂, rfl⟩ := hrest fuel₁ ts₁ hread₁
  exact ⟨fuel₂, ts₂, hread₂, (List.append_assoc ..).symm⟩

theorem Step.beginsWith (h : Step cs t rest) : BeginsWith cs [t] rest := by
  intro fuel ts hread
  cases fuel with
  | zero => cases hread
  | succ fuel =>
    rw [h.reads] at hread
    obtain ⟨later, hlater, rfl⟩ := Option.map_eq_some_iff.1 hread
    exact ⟨fuel, later, hlater, rfl⟩

theorem BeginsWith.blank (hc : isSpace c = true) (h : BeginsWith cs front rest) : BeginsWith (c :: cs) front rest := by
  intro fuel ts hread
  rw [readTokens_blank hc] at hread
  exact h fuel ts hread

theorem IsIdentifier.beginsWith (hw : IsIdentifier w) (hbreaks : BreaksOff tail) :
    BeginsWith (w.toList ++ tail) [.word w] tail := (hw.step hbreaks).beginsWith

/-- A word before a blank. -/
theorem IsIdentifier.beginsWith_spaced (hw : IsIdentifier w) : BeginsWith (w.toList ++ ' ' :: rest) [.word w] rest :=
  (hw.beginsWith (breaksOff_cons (by decide))).trans (.blank isSpace_blank fun fuel ts h => ⟨fuel, ts, h, rfl⟩)

theorem IsIdentifier.beginsWith_raw (hw : IsIdentifier w) (hraw : w ∉ neverRaw) (hbreaks : BreaksOff tail) :
    BeginsWith (("r#" ++ w).toList ++ tail) [.word ("r#" ++ w)] tail := (hw.stepRaw hraw hbreaks).beginsWith

theorem beginsWith_sign (hc : c ∈ plainSigns) : BeginsWith (c :: tail) [.sign c (beginsSign tail)] tail :=
  (Step.sign hc).beginsWith

theorem beginsWith_opening {b : Bracket} (hc : openingOf c = some b) : BeginsWith (c :: tail) [.opening b] tail :=
  (Step.opening hc).beginsWith

theorem beginsWith_closing {b : Bracket} (hc : closingOf c = some b) : BeginsWith (c :: tail) [.closing b] tail :=
  (Step.closing hc).beginsWith

theorem BeginsWith.refl (cs : List Char) : BeginsWith cs [] cs := fun fuel ts h => ⟨fuel, ts, h, rfl⟩

theorem BeginsWith.tokenizes (rest : List Char) : Tokenizes fun cs ts => BeginsWith cs ts rest where
  blank := .blank
  step h hlater := h.beginsWith.trans hlater

/-- A comment of a line that documents, whatever stands in it. -/
theorem beginsWith_doc (hslash : cs.head? ≠ some '/') :
    BeginsWith ('/' :: '/' :: '/' :: cs) [.doc false (String.ofList (lineComment cs).1)] (lineComment cs).2 := by
  intro fuel ts hread
  cases fuel with
  | zero => cases hread
  | succ fuel =>
    rw [readTokens, List.dropWhile_cons_of_neg (by simp)] at hread
    simp only [openingComment_doc hslash] at hread
    obtain ⟨⟨t, rest⟩, hdoc, hread⟩ := Option.bind_eq_some_iff.1 hread
    obtain ⟨later, hlater, heq⟩ := Option.bind_eq_some_iff.1 hread
    unfold docToken at hdoc
    split at hdoc
    next =>
      obtain ⟨rfl, rfl⟩ := Prod.mk.inj (Option.some.inj hdoc)
      exact ⟨fuel, later, hlater, (Option.some.inj heq).symm⟩
    next => cases hdoc

theorem BeginsWith.skipped {skip : List Char} (hskip : Skipped skip) (h : BeginsWith cs front rest) :
    BeginsWith (skip ++ cs) front rest := by
  intro fuel ts hread
  obtain ⟨_, hread⟩ := hskip.readTokens hread
  exact h _ _ hread

/-- Comments of lines that document. -/
theorem beginsWith_docs {lines : List String} (h : ∀ line ∈ lines, '\n' ∉ line.toList ∧ line.toList.head? ≠ some '/') :
    ∃ docs : List String, docs.length = lines.length ∧
      BeginsWith ((String.join (lines.map docLine)).toList ++ tail) (docs.map (.doc false)) tail := by
  induction lines with
  | nil => exact ⟨[], rfl, fun fuel ts hread => ⟨fuel, ts, by simpa using hread, rfl⟩⟩
  | cons line lines ih =>
    obtain ⟨⟨hline, hslash⟩, hlines⟩ := List.forall_mem_cons.1 h
    obtain ⟨docs, hlength, hlater⟩ := ih hlines
    have hlist : (String.join ((line :: lines).map docLine)).toList ++ tail =
        '/' :: '/' :: '/' :: (line.toList ++ '\n' :: ((String.join (lines.map docLine)).toList ++ tail)) := by
      simp [docLine, String.join_cons]
    have hhead : (line.toList ++ '\n' :: ((String.join (lines.map docLine)).toList ++ tail)).head? ≠ some '/' := by
      cases hchars : line.toList with
      | nil => simp
      | cons c cs => simpa [hchars] using hslash
    have hfirst := beginsWith_doc hhead
    rw [lineComment_rest hline] at hfirst
    rw [hlist]
    exact ⟨_ :: docs, by simp [hlength], hfirst.trans (.blank isSpace_feed hlater)⟩

/-! ## Items that cannot be read -/

/-- Tokens that are no items, however far the reading goes. -/
structure Refused (ts : List Token) : Prop where
  begins : ts.head?.all Token.beginsItem = true
  reads : ∀ fuel n, 16 * ts.length ≤ fuel → readItems fuel n ts = none

/-- If an item is read here, what is left behind it cannot be read. -/
theorem Refused.behind (hbegins : (t :: ts).head?.all Token.beginsItem = true)
    (h : ∀ fuel, 16 * (t :: ts).length ≤ fuel → ∀ item back, readItem fuel (t :: ts) = some (item, back) →
      back.length ≤ ts.length ∧ Refused back) : Refused (t :: ts) := by
  refine ⟨hbegins, fun fuel n hfuel => ?_⟩
  cases n with
  | zero => rfl
  | succ n =>
    unfold readItems
    cases hread : readItem fuel (t :: ts) with
    | none => rfl
    | some r =>
      obtain ⟨item, back⟩ := r
      obtain ⟨hlt, hback⟩ := h fuel hfuel item back hread
      have hnone := hback.reads fuel n (by simp only [List.length_cons] at hfuel; omega)
      simp [hnone]

/-- No item begins here. -/
theorem Refused.first (hbegins : (t :: ts).head?.all Token.beginsItem = true)
    (h : ∀ fuel, 16 * (t :: ts).length ≤ fuel → readItem fuel (t :: ts) = none) : Refused (t :: ts) :=
  .behind hbegins fun fuel hfuel item back hread => by
    rw [h fuel hfuel] at hread
    cases hread

/-- The same where it is known what is left. -/
theorem Refused.later (hbegins : (t :: ts).head?.all Token.beginsItem = true) (hlt : back.length ≤ ts.length)
    (h : ∀ fuel, 16 * (t :: ts).length ≤ fuel → ∀ item rest, readItem fuel (t :: ts) = some (item, rest) → rest = back)
    (hback : Refused back) : Refused (t :: ts) :=
  .behind hbegins fun fuel hfuel item rest hread => by
    obtain rfl := h fuel hfuel item rest hread
    exact ⟨hlt, hback⟩

/-- A name that another word follows begins no item. -/
theorem readItem_words {docs : List String} {x : String} (hx : isName x = true) (hfuel : docs.length + 2 ≤ fuel) :
    readItem fuel (docs.map (.doc false) ++ .word x :: .word w :: ts) = none := by
  obtain ⟨fuel, rfl⟩ : ∃ n, fuel = n + 2 := ⟨fuel - 2, by omega⟩
  have hne : ∀ k ∈ reserved, x ≠ k := by
    rintro k hk rfl
    simp [isName, hk] at hx
  have hpub : x ≠ "pub" := hne "pub" (by decide)
  have hattributes : readAttributes false (fuel + 1) (docs.map (.doc false) ++ .word x :: .word w :: ts) =
      some (docs.map .doc, .word x :: .word w :: ts) := readAttributes_docs docs (by omega)
  have hvisibility : readVisibility (.word x :: .word w :: ts) = (.inherited, .word x :: .word w :: ts) := by
    simp [readVisibility, hpub]
  have hfunction : readFunction fuel (.word x :: .word w :: ts) = none := by
    have hqualifiers : readQualifiers (.word x :: .word w :: ts) = ([], .word x :: .word w :: ts) := by
      simp [readQualifiers, optionalWord, word, hne "const" (by decide), hne "async" (by decide), hne "unsafe" (by decide),
        hne "extern" (by decide)]
    have hfn : word "fn" (.word x :: .word w :: ts) = none := by simp [word, hne "fn" (by decide)]
    unfold readFunction
    simp [hqualifiers, hfn]
  have hmacro : readMacroItem fuel (.word x :: .word w :: ts) = none := by
    unfold readMacroItem
    rcases readPath_word fuel x (rfl : sign "::" (.word w :: ts) = none) with h | h
    · simp [h]
    · have hplain : plainPath [.mk x []] = some [x] := plainPath_names [x]
      have hcall : readMacroCall [x] false (.word w :: ts) = none := rfl
      simp [h, hplain, hcall]
  have hkind : readKind (fuel + 1) .inherited (.word x :: .word w :: ts) = none := by
    unfold readKind
    split
    -- Each word that an item begins with is reserved.
    all_goals
      first
      | (next heq => cases heq; exact absurd hx (by decide))
      | simp only [hfunction]
    split
    next heq => cases heq; exact absurd hx (by decide)
    next => rw [if_pos trivial, hmacro]
  unfold readItem
  simp [hattributes, hvisibility, hkind]

/-- What is no function behind the words before one is no item. -/
theorem readItem_no_function {docs : List String} (hdocs : docs.length ≤ fuel)
    (h : readFunction fuel (.word "async" :: .word "fn" :: ts) = none) :
    readItem (fuel + 2) (docs.map (.doc false) ++ .word "pub" :: .word "async" :: .word "fn" :: ts) = none := by
  have hattributes : readAttributes false (fuel + 1) (docs.map (.doc false) ++ .word "pub" :: .word "async" :: .word "fn" :: ts) =
      some (docs.map .doc, .word "pub" :: .word "async" :: .word "fn" :: ts) :=
    readAttributes_docs docs (Nat.lt_succ_of_le hdocs)
  have hvisibility : readVisibility (.word "pub" :: .word "async" :: .word "fn" :: ts) =
      (.everyone, .word "async" :: .word "fn" :: ts) := rfl
  have hkind : readKind (fuel + 1) .everyone (.word "async" :: .word "fn" :: ts) = none := by
    unfold readKind
    simp [h]
  unfold readItem
  simp [hattributes, hvisibility, hkind]

/-- The name of a function is one word. -/
theorem readFunction_words (h : ∀ x later, ts = .word x :: later → ∃ w, later.head? = some (.word w)) :
    readFunction fuel (.word "async" :: .word "fn" :: ts) = none := by
  have hqualifiers : readQualifiers (.word "async" :: .word "fn" :: ts) = (["async"], .word "fn" :: ts) := rfl
  have hfn : word "fn" (.word "fn" :: ts) = some ts := rfl
  unfold readFunction
  simp only [hqualifiers, hfn, Option.bind_eq_bind, Option.bind_some]
  cases hname : readName ts with
  | none => rfl
  | some r =>
    obtain ⟨x, later⟩ := r
    obtain ⟨w, hw⟩ : ∃ w, later.head? = some (.word w) := by
      unfold readName at hname
      split at hname
      next =>
        split at hname
        next =>
          obtain ⟨rfl, rfl⟩ := Prod.mk.inj (Option.some.inj hname)
          exact h _ _ rfl
        next => cases hname
      next => cases hname
    obtain ⟨rest, rfl⟩ : ∃ rest, later = .word w :: rest := by
      cases later with
      | nil => cases hw
      | cons t rest => exact ⟨rest, by rw [Option.some.inj hw]⟩
    rfl

/-- A text on a new line that makes no file. -/
structure RefusedAs (text : String) : Prop where
  refused : ∃ ts, OnNewLine text ts ∧ Refused ts

variable {text : String} {item : Item}

theorem ReadsItem.beforeRefused (h : ReadsItem ts item back) (hbegins : ts.head?.all Token.beginsItem = true)
    (hback : Refused back) : Refused ts := by
  have hlt := h.shorter
  cases ts with
  | nil => cases hlt
  | cons t ts =>
    refine .later hbegins (Nat.le_of_lt_succ hlt) (fun fuel hfuel item' rest heq => ?_) hback
    rw [h.reads fuel hfuel] at heq
    exact (Prod.mk.inj (Option.some.inj heq)).2.symm

theorem IsPart.beforeRefused (h : IsPart text item) {rest : String} (hrest : RefusedAs rest) :
    RefusedAs (text ++ rest) := by
  obtain ⟨ts, hlexes, hread⟩ := h.reads
  obtain ⟨tr, hline, hrefused⟩ := hrest.refused
  have hall := hlexes rest tr hline
  exact ⟨ts ++ tr, hall, (hread tr).beforeRefused hall.begins hrefused⟩

theorem RefusedAs.join {α : Type} {xs : List α} {text : α → String} {item : α → Item}
    (h : ∀ a ∈ xs, IsPart (text a) (item a)) {rest : String} (hrest : RefusedAs rest) :
    RefusedAs (String.join (xs.map text) ++ rest) := by
  induction xs with
  | nil =>
    rw [List.map_nil, String.join_nil, String.empty_append]
    exact hrest
  | cons a xs ih =>
    rw [List.map_cons, String.join_cons, String.append_assoc]
    exact (h a List.mem_cons_self).beforeRefused (ih fun b hb => h b (List.mem_cons_of_mem _ hb))

/-- A text that begins with an empty line makes no file, if its tokens are refused. -/
theorem File.read_refused (hfeed : text.toList = '\n' :: cs) (h : ∀ ts, tokens text.toList = some ts → Refused ts) :
    File.read text = none := by
  cases htokens : tokens text.toList with
  | none => exact File.read_no_tokens hfeed htokens
  | some ts =>
    have hrefused := h ts htokens
    rw [File.read_feed hfeed htokens hrefused.begins, hrefused.reads _ _ (by unfold fuelFor; omega)]
    rfl

theorem RefusedAs.read (h : RefusedAs text) : File.read text = none := by
  obtain ⟨ts, hline, hrefused⟩ := h.refused
  obtain ⟨cs, hcs⟩ := hline.feed
  refine File.read_refused hcs fun ts' htokens => ?_
  rw [hline.lexes.tokens] at htokens
  exact Option.some.inj htokens ▸ hrefused

end Retag.Code
