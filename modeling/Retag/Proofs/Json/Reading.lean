/-
What is written is read back. A value that can be written (`Writable`: its numbers
are whole ones of 64 bits, its brackets no deeper than a reader goes) is read from
its text with its members in order, in every layout and whatever may follow it
(`Writable.readsBack`), and so `parse` reads its pretty text, with a line break or
without (`parse_pretty`). A value whose members are in order is read as itself
(`Plain`, `parse_compact`).

A text in quotes comes first: each of its characters is one step of `readText`,
escaped or not (`readText_escaped`). A number goes on for as long as there are
digits, so something has to end it (`Ends`). Lists and objects go by induction on
what they hold: one item with what stands before it (`lead`), then the others up to
the closing bracket. Every step passes at least one character, so the length of
the text is fuel enough. Where in the text a reader stands does not matter to
what it reads, so positions are existential throughout (`Reads`).
-/
import Mathlib.Tactic.SplitIfs
import Retag.Json.Reader
import Retag.Proofs.Json.Layout
import Retag.Proofs.Json.Ordered
import Retag.Proofs.Text.Digits

namespace Retag.Json

/-- The reader answers `a` and stops before `rest`. -/
def Reads {α : Type} (r : Except Fault (α × Cursor)) (a : α) (rest : List Char) : Prop :=
  ∃ p, r = .ok (a, ⟨rest, p⟩)

theorem Reads.bind {α β : Type} {r : Except Fault (α × Cursor)} {f : α × Cursor → Except Fault (β × Cursor)}
    {a : α} {b : β} {rest rest' : List Char} (h : Reads r a rest) (hf : ∀ p, Reads (f (a, ⟨rest, p⟩)) b rest') :
    Reads (r >>= f) b rest' := by
  obtain ⟨p, rfl⟩ := h
  exact hf p

/-! ## Texts in quotes -/

theorem hexValue4_hexPair (n : Nat) (h : n < 0x20) :
    ∃ a b, hexPair n = [a, b] ∧ hexValue4 '0' '0' a b = some n := by
  refine ⟨_, _, rfl, ?_⟩
  revert n
  decide

/-- A character is read from what it is written as. -/
theorem readText_escaped (c : Char) (acc : List Char) (p : Position) (rest : List Char) :
    ∃ p', readText acc p (escaped c ++ rest) = readText (c :: acc) p' rest := by
  unfold escaped
  split_ifs with hquote hslash hline hreturn htab hback hfeed hcontrol
  · subst hquote; exact ⟨_, by simp [readText, simpleEscape]; rfl⟩
  · subst hslash; exact ⟨_, by simp [readText, simpleEscape]; rfl⟩
  · subst hline; exact ⟨_, by simp [readText, simpleEscape]; rfl⟩
  · subst hreturn; exact ⟨_, by simp [readText, simpleEscape]; rfl⟩
  · subst htab; exact ⟨_, by simp [readText, simpleEscape]; rfl⟩
  · subst hback; exact ⟨_, by simp [readText, simpleEscape]; rfl⟩
  · subst hfeed; exact ⟨_, by simp [readText, simpleEscape]; rfl⟩
  · obtain ⟨a, b, hpair, hvalue⟩ := hexValue4_hexPair c.toNat hcontrol
    have hlow : ¬ (0xDC00 ≤ c.toNat ∧ c.toNat ≤ 0xDFFF) := by omega
    have hhigh : ¬ (0xD800 ≤ c.toNat ∧ c.toNat ≤ 0xDBFF) := by omega
    refine ⟨(((((p.after '\\').after 'u').after '0').after '0').after a).after b, ?_⟩
    simp only [hpair, List.cons_append, List.nil_append, readText, hvalue, if_neg hlow, if_neg hhigh,
      Char.ofNat_toNat]
  · exact ⟨_, by simp [readText, hslash, hcontrol]; rfl⟩

theorem readText_chars (s acc : List Char) (p : Position) (rest : List Char) :
    Reads (readText acc p (s.flatMap escaped ++ '"' :: rest)) (String.ofList (acc.reverse ++ s)) rest := by
  induction s generalizing acc p with
  | nil =>
    rw [List.flatMap_nil, List.nil_append, List.append_nil, readText]
    exact ⟨_, rfl⟩
  | cons c s ih =>
    obtain ⟨p', hc⟩ := readText_escaped c acc p (s.flatMap escaped ++ '"' :: rest)
    rw [List.flatMap_cons, List.append_assoc, hc]
    simpa using ih (c :: acc) p'

/-- A text is read from behind its opening quote. -/
theorem readText_quoted (s : String) (p : Position) (rest : List Char) :
    Reads (readText [] p (s.toList.flatMap escaped ++ '"' :: rest)) s rest := by
  simpa using readText_chars s.toList [] p rest

theorem quoted_append (s : String) (rest : List Char) :
    quoted s ++ rest = '"' :: (s.toList.flatMap escaped ++ '"' :: rest) := by
  simp [quoted]

/-! ## Blanks -/

theorem nil_blank : ∀ c ∈ ([] : List Char), IsBlank c := by simp

theorem skipBlank_of {c : Char} (h : ¬ IsBlank c) (rest : List Char) (p : Position) :
    (Cursor.mk (c :: rest) p).skipBlank = ⟨c :: rest, p⟩ := by
  rw [Cursor.skipBlank, Cursor.skip]
  exact if_neg h

theorem skipBlank_gap {gap : List Char} (hgap : ∀ c ∈ gap, IsBlank c) {c : Char} (h : ¬ IsBlank c)
    (rest : List Char) (p : Position) :
    ∃ p', (Cursor.mk (gap ++ c :: rest) p).skipBlank = ⟨c :: rest, p'⟩ := by
  induction gap generalizing p with
  | nil => exact ⟨p, skipBlank_of h rest p⟩
  | cons b gap ih =>
    obtain ⟨p', hp'⟩ := ih (fun c hc => hgap c (List.mem_cons_of_mem _ hc)) (p.after b)
    refine ⟨p', ?_⟩
    rw [List.cons_append, Cursor.skipBlank, Cursor.skip]
    exact (if_pos (hgap b List.mem_cons_self)).trans hp'

theorem skipBlank_all {gap : List Char} (hgap : ∀ c ∈ gap, IsBlank c) (p : Position) :
    ∃ p', (Cursor.mk gap p).skipBlank = ⟨[], p'⟩ := by
  induction gap generalizing p with
  | nil => exact ⟨p, rfl⟩
  | cons b gap ih =>
    obtain ⟨p', hp'⟩ := ih (fun c hc => hgap c (List.mem_cons_of_mem _ hc)) (p.after b)
    refine ⟨p', ?_⟩
    rw [Cursor.skipBlank, Cursor.skip]
    exact (if_pos (hgap b List.mem_cons_self)).trans hp'

/-! ## Numbers -/

/-- What may follow a value: nothing, a blank, a comma or a closing bracket. -/
def Ends (rest : List Char) : Prop := ∀ c ∈ rest.head?, IsBlank c ∨ c = ',' ∨ c = ']' ∨ c = '}'

theorem ends_blank {gap : List Char} (hgap : ∀ c ∈ gap, IsBlank c) : Ends gap :=
  fun c hc => .inl (hgap c (List.mem_of_mem_head? hc))

/-- Blanks and a closing bracket end a value. -/
theorem ends_close {gap : List Char} (hgap : ∀ c ∈ gap, IsBlank c) {close : Char} (hclose : close = ']' ∨ close = '}')
    (rest : List Char) : Ends (gap ++ close :: rest) := by
  intro c hc
  cases gap with
  | nil =>
    obtain rfl := Option.some.inj hc
    exact .inr (.inr hclose)
  | cons b gap =>
    obtain rfl := Option.some.inj hc
    exact .inl (hgap b List.mem_cons_self)

theorem Ends.not_digit {rest : List Char} (h : Ends rest) : ∀ c ∈ rest.head?, isDigit c = false := by
  intro c hc
  obtain (rfl | rfl | rfl | rfl) | rfl | rfl | rfl := h c hc
  all_goals rfl

/-- Neither a fraction nor an exponent goes on where a number has ended. -/
theorem finishWhole_ends {rest : List Char} (h : Ends rest) (n : Nat) (p : Position) :
    finishWhole false n ⟨rest, p⟩ = .ok (.natural n, ⟨rest, p⟩) := by
  cases rest with
  | nil => rfl
  | cons c rest =>
    obtain (rfl | rfl | rfl | rfl) | rfl | rfl | rfl := h c rfl
    all_goals rfl

/-- Digits are read up to the first character that is none, as long as they fit. -/
theorem readDigits_digits {rest : List Char} (hrest : ∀ c ∈ rest.head?, isDigit c = false) (cs : List Char) :
    ∀ (n count : Nat) (p : Position), (∀ c ∈ cs, isDigit c = true) → Nat.ofDigitChars 10 cs n ≤ largestNatural →
      ∃ p', readDigits n count p (cs ++ rest) = (Nat.ofDigitChars 10 cs n, count + cs.length, ⟨rest, p'⟩) := by
  induction cs with
  | nil =>
    intro n count p _ _
    refine ⟨p, ?_⟩
    cases rest with
    | nil => rfl
    | cons c rest => simp [readDigits, hrest c rfl, Nat.ofDigitChars_nil]
  | cons c cs ih =>
    intro n count p hdigits hle
    have hvalue : n * 10 + digitValue c = 10 * n + (c.toNat - '0'.toNat) := by
      rw [Nat.mul_comm, digitValue]
      rfl
    rw [Nat.ofDigitChars_cons] at hle ⊢
    obtain ⟨p', hread⟩ := ih (10 * n + (c.toNat - '0'.toNat)) (count + 1) (p.after c)
      (fun d hd => hdigits d (List.mem_cons_of_mem _ hd)) hle
    have hfits : n * 10 + digitValue c ≤ largestNatural := by
      rw [hvalue]
      exact Nat.le_trans (le_ofDigitChars cs _) hle
    refine ⟨p', ?_⟩
    rw [List.cons_append, readDigits, if_pos ⟨hdigits c List.mem_cons_self, hfits⟩, hvalue, hread, List.length_cons,
      Nat.add_right_comm, Nat.add_assoc]

/-- A whole number of 64 bits is read from its digits. -/
theorem readNumber_digits {rest : List Char} (hrest : Ends rest) {n : Nat} (hn : n ≤ largestNatural) (p : Position) :
    Reads (readNumber false ⟨(toString n).toList ++ rest, p⟩) (.natural n) rest := by
  by_cases hzero : n = 0
  · subst hzero
    refine ⟨p.after '0', ?_⟩
    have hdigit := hrest.not_digit
    change readNumber false ⟨'0' :: rest, p⟩ = _
    cases rest with
    | nil => rfl
    | cons c rest =>
      rw [readNumber]
      simp only [hdigit c rfl, Bool.false_eq_true, if_false, Cursor.next]
      exact finishWhole_ends hrest 0 _
  · obtain ⟨c, cs, hcs, hc⟩ := digits_head hzero
    have hdigits : ∀ d ∈ c :: cs, isDigit d = true := fun d hd => digits_isAsciiDigit (n := n) (hcs ▸ hd)
    have hvalue : Nat.ofDigitChars 10 (c :: cs) 0 = n := by rw [← hcs, digits_toList, Nat.ofDigitChars_ten_toDigits]
    obtain ⟨p', hread⟩ := readDigits_digits hrest.not_digit (c :: cs) 0 0 p hdigits (hvalue.symm ▸ hn)
    rw [hvalue] at hread
    have hfirst : isDigit c = true := hdigits c List.mem_cons_self
    refine ⟨p', ?_⟩
    rw [hcs, List.cons_append] at *
    rw [readNumber.eq_def]
    simp only [hfirst, if_true, hread]
    cases rest with
    | nil => simpa [hc] using finishWhole_ends hrest n p'
    | cons b rest => simpa [hc, hrest.not_digit b rfl] using finishWhole_ends hrest n p'

/-! ## Between items -/

variable {L : Layout} {level d : Nat} {first : Bool} {rest : List Char}

/-- What stands before an item: the first follows its bracket, the others follow
a comma. -/
def lead (L : Layout) (level : Nat) : Bool → List Char
  | true => L.gap level
  | false => ',' :: L.gap level

theorem items_cons (v : Json) (l : List Json) :
    items L level (v :: l) = chars L level v ++
      match l with
      | [] => []
      | w :: rest => lead L level false ++ items L level (w :: rest) := by
  cases l with
  | nil => rw [items, List.append_nil]
  | cons w rest => rw [items]; rfl

theorem members_cons (m : String × Json) (l : List (String × Json)) :
    members L level (m :: l) = quoted m.1 ++ ':' :: (L.space ++ (chars L level m.2 ++
      match l with
      | [] => []
      | n :: rest => lead L level false ++ members L level (n :: rest))) := by
  cases l with
  | nil => rw [members, List.append_nil]
  | cons n rest => rw [members]; rfl

theorem comma_not_blank : ¬ IsBlank ',' := by simp [IsBlank]

theorem quote_not_blank : ¬ IsBlank '"' := by simp [IsBlank]

theorem nextItem_lead (L : Layout) (level : Nat) (first : Bool) {c : Char} (hblank : ¬ IsBlank c) (hclose : c ≠ ']')
    (rest : List Char) (p : Position) :
    ∃ p', nextItem first ⟨lead L level first ++ c :: rest, p⟩ = .ok (some ⟨c :: rest, p'⟩) := by
  cases first with
  | true =>
    obtain ⟨p', hskip⟩ := skipBlank_gap (L.gap_blank level) hblank rest p
    exact ⟨p', by simp [nextItem, lead, hskip]⟩
  | false =>
    obtain ⟨p', hskip⟩ := skipBlank_gap (L.gap_blank level) hblank rest (p.after ',')
    refine ⟨p', ?_⟩
    simp [nextItem, lead, skipBlank_of comma_not_blank, Cursor.next, hskip, hclose]

theorem nextName_lead (L : Layout) (level : Nat) (first : Bool) (rest : List Char) (p : Position) :
    ∃ p', nextName first ⟨lead L level first ++ '"' :: rest, p⟩ = .ok (some ⟨rest, p'⟩) := by
  cases first with
  | true =>
    obtain ⟨p', hskip⟩ := skipBlank_gap (L.gap_blank level) quote_not_blank rest p
    exact ⟨p'.after '"', by simp [nextName, lead, hskip, Cursor.next]⟩
  | false =>
    obtain ⟨p', hskip⟩ := skipBlank_gap (L.gap_blank level) quote_not_blank rest (p.after ',')
    refine ⟨p'.after '"', ?_⟩
    simp [nextName, lead, skipBlank_of comma_not_blank, Cursor.next, hskip]

theorem readColon_colon (rest : List Char) (p : Position) : ∃ p', readColon ⟨':' :: rest, p⟩ = .ok ⟨rest, p'⟩ :=
  ⟨p.after ':', by simp [readColon, skipBlank_of (c := ':') (by simp [IsBlank]), Cursor.next]⟩

theorem readItems_close {gap : List Char} (hgap : ∀ c ∈ gap, IsBlank c) {fuel : Nat} (hfuel : 0 < fuel)
    (p : Position) : Reads (readItems fuel d first ⟨gap ++ ']' :: rest, p⟩) [] rest := by
  obtain ⟨fuel, rfl⟩ := Nat.exists_eq_add_one.2 hfuel
  obtain ⟨p', hskip⟩ := skipBlank_gap hgap (c := ']') (by simp [IsBlank]) rest p
  exact ⟨p'.after ']', by simp [readItems, nextItem, hskip, Cursor.next]; rfl⟩

theorem readMembers_close {gap : List Char} (hgap : ∀ c ∈ gap, IsBlank c) {fuel : Nat} (hfuel : 0 < fuel)
    (p : Position) : Reads (readMembers fuel d first ⟨gap ++ '}' :: rest, p⟩) [] rest := by
  obtain ⟨fuel, rfl⟩ := Nat.exists_eq_add_one.2 hfuel
  obtain ⟨p', hskip⟩ := skipBlank_gap hgap (c := '}') (by simp [IsBlank]) rest p
  exact ⟨p'.after '}', by simp [readMembers, nextName, hskip, Cursor.next]; rfl⟩

/-! ## Values -/

/-- Values whose numbers are whole ones of 64 bits and in which at most `d` lists and
objects are inside one another. -/
inductive Writable : Nat → Json → Prop
  | null {d : Nat} : Writable d .null
  | bool {d : Nat} {b : Bool} : Writable d (.bool b)
  | natural {d n : Nat} (small : n ≤ largestNatural) : Writable d (.number (.natural n))
  | string {d : Nat} {s : String} : Writable d (.string s)
  | array {d : Nat} {items : List Json} (writable : ∀ v ∈ items, Writable d v) : Writable (d + 1) (.array items)
  | object {d : Nat} {members : List (String × Json)} (writable : ∀ m ∈ members, Writable d m.2) :
    Writable (d + 1) (.object members)

/-- The first character of a number is a digit. -/
theorem digits_cons (n : Nat) : ∃ c cs, (toString n).toList = c :: cs ∧ isDigit c = true := by
  have hne : (toString n).toList ≠ [] := by
    rw [digits_toList]
    exact Nat.toDigits_ne_nil
  obtain ⟨c, cs, hcs⟩ := List.exists_cons_of_ne_nil hne
  exact ⟨c, cs, hcs, digits_isAsciiDigit (n := n) (hcs ▸ List.mem_cons_self)⟩

theorem not_blank_of_digit {c : Char} (h : isDigit c = true) : ¬ IsBlank c := by
  rintro (rfl | rfl | rfl | rfl)
  all_goals cases h

/-- A value begins neither with a blank nor with a closing bracket. -/
theorem Writable.head {v : Json} (h : Writable d v) (L : Layout) (level : Nat) :
    ∃ c t, chars L level v = c :: t ∧ ¬ IsBlank c ∧ c ≠ ']' := by
  cases h with
  | null => exact ⟨_, _, by rw [chars], by simp [IsBlank], by decide⟩
  | @bool _ b => cases b <;> exact ⟨_, _, by rw [chars], by simp [IsBlank], by decide⟩
  | @natural _ n =>
    obtain ⟨c, cs, hcs, hc⟩ := digits_cons n
    refine ⟨c, cs, by rw [chars, JsonNumber.text, hcs], not_blank_of_digit hc, ?_⟩
    rintro rfl
    cases hc
  | string => exact ⟨_, _, by rw [chars, quoted], by simp [IsBlank], by decide⟩
  | @array _ items => cases items <;> exact ⟨_, _, by rw [chars], by simp [IsBlank], by decide⟩
  | @object _ members => cases members <;> exact ⟨_, _, by rw [chars], by simp [IsBlank], by decide⟩

/-- A value is read from its text, behind any blanks, with its members in order. -/
def ReadsBack (L : Layout) (level d : Nat) (v : Json) : Prop :=
  ∀ gap : List Char, (∀ c ∈ gap, IsBlank c) → ∀ (fuel : Nat) (p : Position) (rest : List Char), Ends rest →
    (chars L level v).length ≤ fuel → Reads (readValue fuel d ⟨gap ++ (chars L level v ++ rest), p⟩) v.ordered rest

/-- One item, and then the others. -/
theorem readItems_item {v : Json} {l : List Json} {after : List Char} {fuel : Nat} (hv : Writable d v)
    (hback : ReadsBack L level d v) (hfuel : (chars L level v).length ≤ fuel) (hends : Ends after)
    (hrest : ∀ p, Reads (readItems fuel d false ⟨after, p⟩) l rest) (p : Position) :
    Reads (readItems (fuel + 1) d first ⟨lead L level first ++ (chars L level v ++ after), p⟩) (v.ordered :: l) rest := by
  obtain ⟨c, t, hchars, hblank, hclose⟩ := hv.head L level
  obtain ⟨p', hnext⟩ := nextItem_lead L level first hblank hclose (t ++ after) p
  have hread := hback [] nil_blank fuel p' after hends hfuel
  rw [hchars] at hread
  rw [hchars, List.cons_append, readItems, hnext]
  exact hread.bind fun p => (hrest p).bind fun p => ⟨p, rfl⟩

/-- One member, and then the others. -/
theorem readMembers_member {k : String} {v : Json} {l : List (String × Json)} {after : List Char} {fuel : Nat}
    (hback : ReadsBack L level d v) (hfuel : (chars L level v).length ≤ fuel) (hends : Ends after)
    (hrest : ∀ p, Reads (readMembers fuel d false ⟨after, p⟩) l rest) (p : Position) :
    Reads (readMembers (fuel + 1) d first
      ⟨lead L level first ++ (quoted k ++ ':' :: (L.space ++ (chars L level v ++ after))), p⟩)
      ((k, v.ordered) :: l) rest := by
  rw [quoted_append]
  obtain ⟨p₁, hnext⟩ := nextName_lead L level first
    (k.toList.flatMap escaped ++ '"' :: (':' :: (L.space ++ (chars L level v ++ after)))) p
  rw [readMembers, hnext]
  refine (readText_quoted k p₁ _).bind fun p₂ => ?_
  obtain ⟨p₃, hcolon⟩ := readColon_colon (L.space ++ (chars L level v ++ after)) p₂
  simp only [hcolon]
  exact (hback L.space L.space_blank fuel p₃ after hends hfuel).bind fun p => (hrest p).bind fun p => ⟨p, rfl⟩

theorem ends_lead (rest : List Char) : Ends (lead L level false ++ rest) := by
  intro c hc
  obtain rfl := Option.some.inj hc
  exact .inr (.inl rfl)

theorem readItems_items {gap : List Char} (hgap : ∀ c ∈ gap, IsBlank c) (rest : List Char) (l : List Json) :
    ∀ (v : Json) (first : Bool) (fuel : Nat) (p : Position), (∀ w ∈ v :: l, Writable d w ∧ ReadsBack L level d w) →
      (items L level (v :: l)).length < fuel →
      Reads (readItems fuel d first ⟨lead L level first ++ (items L level (v :: l) ++ (gap ++ ']' :: rest)), p⟩)
        ((v :: l).map ordered) rest := by
  have hclose : Ends (gap ++ ']' :: rest) := ends_close hgap (.inl rfl) rest
  induction l with
  | nil =>
    intro v first fuel p h hfuel
    obtain ⟨fuel, rfl⟩ := Nat.exists_eq_add_one.2 (Nat.zero_lt_of_lt hfuel)
    obtain ⟨hv, hback⟩ := h v List.mem_cons_self
    obtain ⟨c, t, hchars, -⟩ := hv.head L level
    have hpos : 0 < (chars L level v).length := by rw [hchars]; exact Nat.succ_pos _
    rw [items] at hfuel ⊢
    exact readItems_item hv hback (by omega) hclose (readItems_close hgap (by omega)) p
  | cons w l ih =>
    intro v first fuel p h hfuel
    obtain ⟨fuel, rfl⟩ := Nat.exists_eq_add_one.2 (Nat.zero_lt_of_lt hfuel)
    obtain ⟨hv, hback⟩ := h v List.mem_cons_self
    have hothers : ∀ u ∈ w :: l, Writable d u ∧ ReadsBack L level d u := fun u hu => h u (List.mem_cons_of_mem _ hu)
    rw [items_cons] at hfuel ⊢
    simp only [List.length_append, lead, List.length_cons] at hfuel
    rw [List.append_assoc, List.append_assoc]
    exact readItems_item hv hback (by omega) (ends_lead _) (fun p => ih w false fuel p hothers (by omega)) p

theorem readMembers_members {gap : List Char} (hgap : ∀ c ∈ gap, IsBlank c) (rest : List Char)
    (l : List (String × Json)) :
    ∀ (m : String × Json) (first : Bool) (fuel : Nat) (p : Position), (∀ n ∈ m :: l, ReadsBack L level d n.2) →
      (members L level (m :: l)).length < fuel →
      Reads (readMembers fuel d first ⟨lead L level first ++ (members L level (m :: l) ++ (gap ++ '}' :: rest)), p⟩)
        ((m :: l).map fun n => (n.1, n.2.ordered)) rest := by
  have hclose : Ends (gap ++ '}' :: rest) := ends_close hgap (.inr rfl) rest
  induction l with
  | nil =>
    intro m first fuel p h hfuel
    obtain ⟨fuel, rfl⟩ := Nat.exists_eq_add_one.2 (Nat.zero_lt_of_lt hfuel)
    rw [members_cons, List.append_nil] at hfuel ⊢
    simp only [List.length_append, List.length_cons] at hfuel
    simp only [List.append_assoc, List.cons_append]
    exact readMembers_member (h m List.mem_cons_self) (by omega) hclose (readMembers_close hgap (by omega)) p
  | cons n l ih =>
    intro m first fuel p h hfuel
    obtain ⟨fuel, rfl⟩ := Nat.exists_eq_add_one.2 (Nat.zero_lt_of_lt hfuel)
    have hothers : ∀ o ∈ n :: l, ReadsBack L level d o.2 := fun o ho => h o (List.mem_cons_of_mem _ ho)
    rw [members_cons] at hfuel ⊢
    simp only [List.length_append, lead, List.length_cons] at hfuel
    simp only [List.append_assoc, List.cons_append]
    exact readMembers_member (h m List.mem_cons_self) (by omega) (ends_lead _)
      (fun p => by simpa only [List.append_assoc] using ih n false fuel p hothers (by omega)) p

theorem readValue_array {gap t : List Char} (hgap : ∀ c ∈ gap, IsBlank c) {fuel : Nat} {l : List Json}
    (h : ∀ p, Reads (readItems fuel d true ⟨t, p⟩) l rest) (p : Position) :
    Reads (readValue (fuel + 1) (d + 1) ⟨gap ++ '[' :: t, p⟩) (.array l) rest := by
  obtain ⟨p', hskip⟩ := skipBlank_gap hgap (c := '[') (by simp [IsBlank]) t p
  simp only [readValue, hskip, Cursor.next]
  exact (h _).bind fun p => ⟨p, rfl⟩

theorem readValue_object {gap t : List Char} (hgap : ∀ c ∈ gap, IsBlank c) {fuel : Nat} {l : List (String × Json)}
    (h : ∀ p, Reads (readMembers fuel d true ⟨t, p⟩) l rest) (p : Position) :
    Reads (readValue (fuel + 1) (d + 1) ⟨gap ++ '{' :: t, p⟩) (ofMembers l) rest := by
  obtain ⟨p', hskip⟩ := skipBlank_gap hgap (c := '{') (by simp [IsBlank]) t p
  simp only [readValue, hskip, Cursor.next]
  exact (h _).bind fun p => ⟨p, rfl⟩

/-- A list is read once its items are. -/
theorem readsBack_array {l : List Json} (h : ∀ v ∈ l, Writable d v ∧ ReadsBack L (level + 1) d v) :
    ReadsBack L level (d + 1) (.array l) := by
  intro gap hgap fuel p rest _ hfuel
  obtain ⟨fuel, rfl⟩ : ∃ n, fuel = n + 1 :=
    Nat.exists_eq_add_one.2 (Nat.lt_of_lt_of_le (by cases l <;> simp [chars]) hfuel)
  rw [ordered_array]
  cases l with
  | nil =>
    simp only [chars, List.length_cons, List.length_nil] at hfuel
    exact readValue_array hgap (readItems_close nil_blank (by omega)) p
  | cons v l =>
    simp only [chars, List.length_cons, List.length_append, List.length_nil] at hfuel
    have hitems := fun p => readItems_items (L.gap_blank level) rest l v true fuel p h (by omega)
    simpa only [chars, lead, List.cons_append, List.append_assoc, List.nil_append] using
      readValue_array hgap hitems p

/-- Behind its opening brace an object is its members. -/
theorem readMembers_object {l : List (String × Json)} (h : ∀ m ∈ l, ReadsBack L (level + 1) d m.2) :
    ∃ t, chars L level (.object l) = '{' :: t ∧
      ∀ (fuel : Nat) (p : Position) (rest : List Char), t.length ≤ fuel →
        Reads (readMembers fuel d true ⟨t ++ rest, p⟩) (l.map fun m => (m.1, m.2.ordered)) rest := by
  cases l with
  | nil =>
    refine ⟨_, by rw [chars], fun fuel p rest hfuel => ?_⟩
    simp only [List.length_cons, List.length_nil] at hfuel
    exact readMembers_close nil_blank (by omega) p
  | cons m l =>
    refine ⟨_, by rw [chars], fun fuel p rest hfuel => ?_⟩
    simp only [List.length_cons, List.length_append, List.length_nil] at hfuel
    simpa only [lead, List.append_assoc, List.cons_append, List.nil_append] using
      readMembers_members (L.gap_blank level) rest l m true fuel p h (by omega)

/-- An object is read once its members are. -/
theorem readsBack_object {l : List (String × Json)} (h : ∀ m ∈ l, ReadsBack L (level + 1) d m.2) :
    ReadsBack L level (d + 1) (.object l) := by
  intro gap hgap fuel p rest _ hfuel
  obtain ⟨t, hchars, hmembers⟩ := readMembers_object h
  rw [hchars, List.length_cons] at hfuel
  obtain ⟨fuel, rfl⟩ := Nat.exists_eq_add_one.2 (Nat.zero_lt_of_lt hfuel)
  rw [hchars, List.cons_append, ordered_object]
  exact readValue_object hgap (fun p => hmembers fuel p rest (by omega)) p

theorem readsBack_null : ReadsBack L level d .null := by
  intro gap hgap fuel p rest _ hfuel
  rw [chars] at hfuel ⊢
  rw [ordered_null]
  obtain ⟨fuel, rfl⟩ := Nat.exists_eq_add_one.2 (Nat.zero_lt_of_lt hfuel)
  obtain ⟨p', hskip⟩ := skipBlank_gap hgap (c := 'n') (by simp [IsBlank]) ('u' :: 'l' :: 'l' :: rest) p
  exact ⟨_, by simp [readValue, hskip, readIdent, Cursor.next]; rfl⟩

theorem readsBack_bool (b : Bool) : ReadsBack L level d (.bool b) := by
  intro gap hgap fuel p rest _ hfuel
  rw [ordered_bool]
  cases b with
  | true =>
    rw [chars] at hfuel ⊢
    obtain ⟨fuel, rfl⟩ := Nat.exists_eq_add_one.2 (Nat.zero_lt_of_lt hfuel)
    obtain ⟨p', hskip⟩ := skipBlank_gap hgap (c := 't') (by simp [IsBlank]) ('r' :: 'u' :: 'e' :: rest) p
    exact ⟨_, by simp [readValue, hskip, readIdent, Cursor.next]; rfl⟩
  | false =>
    rw [chars] at hfuel ⊢
    obtain ⟨fuel, rfl⟩ := Nat.exists_eq_add_one.2 (Nat.zero_lt_of_lt hfuel)
    obtain ⟨p', hskip⟩ := skipBlank_gap hgap (c := 'f') (by simp [IsBlank]) ('a' :: 'l' :: 's' :: 'e' :: rest) p
    exact ⟨_, by simp [readValue, hskip, readIdent, Cursor.next]; rfl⟩

theorem readsBack_string (s : String) : ReadsBack L level d (.string s) := by
  intro gap hgap fuel p rest _ hfuel
  rw [chars] at hfuel ⊢
  rw [ordered_string]
  obtain ⟨fuel, rfl⟩ := Nat.exists_eq_add_one.2 (Nat.zero_lt_of_lt hfuel)
  obtain ⟨p', hskip⟩ := skipBlank_gap hgap quote_not_blank (s.toList.flatMap escaped ++ '"' :: rest) p
  rw [quoted_append]
  simp only [readValue, hskip]
  exact (readText_quoted s _ rest).bind fun p => ⟨p, rfl⟩

/-- A value that begins with a digit is a number. -/
theorem readValue_digit {c : Char} (hc : isDigit c = true) (fuel : Nat) {gap t : List Char}
    (hgap : ∀ c ∈ gap, IsBlank c) {n : JsonNumber} (h : ∀ p, Reads (readNumber false ⟨c :: t, p⟩) n rest) (p : Position) :
    Reads (readValue (fuel + 1) d ⟨gap ++ c :: t, p⟩) (.number n) rest := by
  obtain ⟨p', hskip⟩ := skipBlank_gap hgap (not_blank_of_digit hc) t p
  rw [readValue.eq_def]
  simp only [hskip]
  split
  case h_1 heq => cases heq
  case h_9 b tail _ _ _ _ _ _ _ heq =>
    obtain ⟨rfl, rfl⟩ := List.cons.inj heq
    rw [if_pos hc]
    exact (h _).bind fun p => ⟨p, rfl⟩
  -- Every other character with which a value may begin is no digit.
  all_goals
    rename_i heq
    obtain ⟨rfl, -⟩ := List.cons.inj heq
    exact absurd hc (by decide)

theorem readsBack_natural {n : Nat} (hn : n ≤ largestNatural) : ReadsBack L level d (.number (.natural n)) := by
  intro gap hgap fuel p rest hends hfuel
  rw [chars, JsonNumber.text] at hfuel ⊢
  rw [ordered_number]
  obtain ⟨c, cs, hcs, hc⟩ := digits_cons n
  have hread := readNumber_digits hends hn
  rw [hcs] at hfuel hread ⊢
  obtain ⟨fuel, rfl⟩ := Nat.exists_eq_add_one.2 (Nat.zero_lt_of_lt hfuel)
  exact readValue_digit hc fuel hgap hread p

/-- **A value is read back** from its text in every layout. -/
theorem Writable.readsBack {v : Json} (h : Writable d v) (L : Layout) (level : Nat) : ReadsBack L level d v := by
  induction h generalizing level with
  | null => exact readsBack_null
  | bool => exact readsBack_bool _
  | natural small => exact readsBack_natural small
  | string => exact readsBack_string _
  | array writable ih => exact readsBack_array fun v hv => ⟨writable v hv, ih v hv (level + 1)⟩
  | object writable ih => exact readsBack_object fun m hm => ih m hm (level + 1)

theorem parse_chars {v : Json} (h : Writable nestingLimit v) (L : Layout) {after : List Char}
    (hafter : ∀ c ∈ after, IsBlank c) : parse (String.ofList (chars L 0 v ++ after)) = .ok v.ordered := by
  have hfuel : (chars L 0 v).length ≤ fuelFor (String.ofList (chars L 0 v ++ after)) := by
    rw [fuelFor, String.length_ofList, List.length_append]; omega
  obtain ⟨p, hread⟩ := h.readsBack L 0 [] nil_blank _ ⟨1, 0⟩ after (ends_blank hafter) hfuel
  obtain ⟨p', hskip⟩ := skipBlank_all hafter p
  rw [List.nil_append] at hread
  rw [parse, Cursor.start, String.toList_ofList, hread]
  simp only [Bind.bind, Except.bind, readEnd, hskip]
  rfl

/-- The pretty text of a value as a line. -/
theorem parse_pretty {v : Json} (h : Writable nestingLimit v) : parse (v.pretty ++ "\n") = .ok v.ordered := by
  have hline : v.pretty ++ "\n" = String.ofList (v.prettyChars 0 ++ ['\n']) := by
    rw [pretty, String.ofList_append]
  rw [hline, ← chars_pretty 0]
  exact parse_chars h .pretty (by simp [IsBlank])

/-! ## Values in order -/

/-- A value that is read as itself: it can be written and its members ascend. -/
structure Plain (d : Nat) (v : Json) : Prop where
  writable : Writable d v
  ordered : v.ordered = v

namespace Plain

theorem string {s : String} : Plain d (.string s) := ⟨.string, ordered_string s⟩

theorem array {items : List Json} (plain : ∀ v ∈ items, Plain d v) : Plain (d + 1) (.array items) where
  writable := .array fun v hv => (plain v hv).writable
  ordered := by rw [ordered_array, map_ordered_items fun v hv => (plain v hv).ordered]

theorem object {members : List (String × Json)} (ascending : Keyed.Ascending members)
    (plain : ∀ m ∈ members, Plain d m.2) : Plain (d + 1) (.object members) where
  writable := .object fun m hm => (plain m hm).writable
  ordered := by
    rw [ordered_object, map_ordered_members fun m hm => (plain m hm).ordered, ofMembers_of_ascending ascending]

end Plain

theorem parse_compact {v : Json} (h : Plain nestingLimit v) : parse v.compact = .ok v := by
  have hread := parse_chars h.writable .compact nil_blank
  rwa [List.append_nil, chars_compact, h.ordered] at hread

end Retag.Json
