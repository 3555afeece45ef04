/-
The characters of the text of a JSON value. All of them are blanks or printable,
whatever the value holds (`chars_printable`), with one exception: a delete character
in a text or in the name of a member is written as it stands (`delete_mem_chars`).
-/
import Retag.Proofs.Json.Reading

namespace Retag.Json

/-! ## The texts in a value -/

mutual

/-- The texts in a value and the names of its members. -/
def texts : Json → List String
  | .string s => [s]
  | .array items => textsOfItems items
  | .object members => textsOfMembers members
  | .null | .bool _ | .number _ => []

def textsOfItems : List Json → List String
  | [] => []
  | v :: rest => texts v ++ textsOfItems rest

def textsOfMembers : List (String × Json) → List String
  | [] => []
  | (k, v) :: rest => k :: (texts v ++ textsOfMembers rest)

end

theorem mem_textsOfItems {s : String} (l : List Json) : s ∈ textsOfItems l ↔ ∃ v ∈ l, s ∈ v.texts := by
  induction l with
  | nil => simp [textsOfItems]
  | cons v l ih => simp [textsOfItems, ih]

theorem mem_textsOfMembers {s : String} (l : List (String × Json)) :
    s ∈ textsOfMembers l ↔ ∃ m ∈ l, s = m.1 ∨ s ∈ m.2.texts := by
  induction l with
  | nil => simp [textsOfMembers]
  | cons m l ih => simp [textsOfMembers, ih, or_assoc]

theorem mem_texts_string {s t : String} : s ∈ texts (.string t) ↔ s = t := by
  rw [texts, List.mem_singleton]

theorem mem_texts_array {s : String} {l : List Json} : s ∈ texts (.array l) ↔ ∃ v ∈ l, s ∈ v.texts := by
  rw [texts, mem_textsOfItems]

theorem mem_texts_object {s : String} {l : List (String × Json)} :
    s ∈ texts (.object l) ↔ ∃ m ∈ l, s = m.1 ∨ s ∈ m.2.texts := by
  rw [texts, mem_textsOfMembers]

section Forall

variable {P : String → Prop}

theorem forall_texts_string {t : String} : (∀ s ∈ texts (.string t), P s) ↔ P t := by
  simp [mem_texts_string]

theorem forall_texts_array {l : List Json} : (∀ s ∈ texts (.array l), P s) ↔ ∀ v ∈ l, ∀ s ∈ v.texts, P s := by
  simp only [mem_texts_array]
  exact ⟨fun h v hv s hs => h s ⟨v, hv, hs⟩, fun h s ⟨v, hv, hs⟩ => h v hv s hs⟩

theorem forall_texts_object {l : List (String × Json)} :
    (∀ s ∈ texts (.object l), P s) ↔ ∀ m ∈ l, P m.1 ∧ ∀ s ∈ m.2.texts, P s := by
  simp only [mem_texts_object]
  refine ⟨fun h m hm => ⟨h m.1 ⟨m, hm, .inl rfl⟩, fun s hs => h s ⟨m, hm, .inr hs⟩⟩, ?_⟩
  rintro h s ⟨m, hm, rfl | hs⟩
  · exact (h m hm).1
  · exact (h m hm).2 s hs

end Forall

/-! ## Characters of lists and objects -/

variable {L : Layout} {level d : Nat} {c : Char} {v : Json}

theorem of_mem_items {l : List Json} (h : c ∈ items L level l) :
    c = ',' ∨ c ∈ L.gap level ∨ ∃ v ∈ l, c ∈ chars L level v := by
  induction l with
  | nil => simp [items] at h
  | cons v l ih =>
    rw [items_cons] at h
    cases l with
    | nil =>
      rw [List.append_nil] at h
      exact .inr (.inr ⟨v, List.mem_cons_self, h⟩)
    | cons w l =>
      simp only [List.mem_append, lead, List.mem_cons] at h
      obtain h | (h | h) | h := h
      · exact .inr (.inr ⟨v, List.mem_cons_self, h⟩)
      · exact .inl h
      · exact .inr (.inl h)
      · obtain h | h | ⟨u, hu, h⟩ := ih h
        · exact .inl h
        · exact .inr (.inl h)
        · exact .inr (.inr ⟨u, List.mem_cons_of_mem _ hu, h⟩)

theorem mem_items {l : List Json} (hv : v ∈ l) (h : c ∈ chars L level v) : c ∈ items L level l := by
  induction l with
  | nil => cases hv
  | cons w l ih =>
    rw [items_cons]
    rcases List.mem_cons.1 hv with rfl | hv
    · exact List.mem_append_left _ h
    · cases l with
      | nil => cases hv
      | cons u l => exact List.mem_append_right _ (List.mem_append_right _ (ih hv))

theorem of_mem_members {l : List (String × Json)} (h : c ∈ members L level l) :
    c = ',' ∨ c = ':' ∨ c ∈ L.gap level ∨ c ∈ L.space ∨ ∃ m ∈ l, c ∈ quoted m.1 ∨ c ∈ chars L level m.2 := by
  induction l with
  | nil => simp [members] at h
  | cons m l ih =>
    rw [members_cons] at h
    simp only [List.mem_append, List.mem_cons] at h
    obtain h | h | h | h | h := h
    · exact .inr (.inr (.inr (.inr ⟨m, List.mem_cons_self, .inl h⟩)))
    · exact .inr (.inl h)
    · exact .inr (.inr (.inr (.inl h)))
    · exact .inr (.inr (.inr (.inr ⟨m, List.mem_cons_self, .inr h⟩)))
    · cases l with
      | nil => cases h
      | cons n l =>
        simp only [List.mem_append, lead, List.mem_cons] at h
        obtain (h | h) | h := h
        · exact .inl h
        · exact .inr (.inr (.inl h))
        · obtain h | h | h | h | ⟨o, ho, h⟩ := ih h
          · exact .inl h
          · exact .inr (.inl h)
          · exact .inr (.inr (.inl h))
          · exact .inr (.inr (.inr (.inl h)))
          · exact .inr (.inr (.inr (.inr ⟨o, List.mem_cons_of_mem _ ho, h⟩)))

theorem mem_members {l : List (String × Json)} {m : String × Json} (hm : m ∈ l)
    (h : c ∈ quoted m.1 ∨ c ∈ chars L level m.2) : c ∈ members L level l := by
  induction l with
  | nil => cases hm
  | cons n l ih =>
    rw [members_cons]
    rcases List.mem_cons.1 hm with rfl | hm
    · rcases h with h | h <;> simp [h]
    · cases l with
      | nil => cases hm
      | cons o l => simp [ih hm]

theorem of_mem_chars_array {l : List Json} (h : c ∈ chars L level (.array l)) :
    c ∈ ['[', ']', ','] ∨ IsBlank c ∨ ∃ v ∈ l, c ∈ chars L (level + 1) v := by
  cases l with
  | nil =>
    rw [chars] at h
    exact .inl (List.mem_append_left [','] h)
  | cons v l =>
    rw [chars] at h
    simp only [List.mem_append, List.mem_cons, List.not_mem_nil, or_false] at h
    obtain h | h | h | h | h := h
    · simp [h]
    · exact .inr (.inl (L.gap_blank _ c h))
    · obtain h | h | h := of_mem_items h
      · simp [h]
      · exact .inr (.inl (L.gap_blank _ c h))
      · exact .inr (.inr h)
    · exact .inr (.inl (L.gap_blank _ c h))
    · simp [h]

theorem of_mem_chars_object {l : List (String × Json)} (h : c ∈ chars L level (.object l)) :
    c ∈ ['\x7b', '\x7d', ',', ':'] ∨ IsBlank c ∨ ∃ m ∈ l, c ∈ quoted m.1 ∨ c ∈ chars L (level + 1) m.2 := by
  cases l with
  | nil =>
    rw [chars] at h
    exact .inl (List.mem_append_left [',', ':'] h)
  | cons m l =>
    rw [chars] at h
    simp only [List.mem_append, List.mem_cons, List.not_mem_nil, or_false] at h
    obtain h | h | h | h | h := h
    · simp [h]
    · exact .inr (.inl (L.gap_blank _ c h))
    · obtain h | h | h | h | h := of_mem_members h
      · simp [h]
      · simp [h]
      · exact .inr (.inl (L.gap_blank _ c h))
      · exact .inr (.inl (L.space_blank c h))
      · exact .inr (.inr h)
    · exact .inr (.inl (L.gap_blank _ c h))
    · simp [h]

theorem mem_chars_array {l : List Json} (hv : v ∈ l) (h : c ∈ chars L (level + 1) v) : c ∈ chars L level (.array l) := by
  cases l with
  | nil => cases hv
  | cons w l =>
    rw [chars]
    have hitems := mem_items hv h
    simp [hitems]

theorem mem_chars_object {l : List (String × Json)} {m : String × Json} (hm : m ∈ l)
    (h : c ∈ quoted m.1 ∨ c ∈ chars L (level + 1) m.2) : c ∈ chars L level (.object l) := by
  cases l with
  | nil => cases hm
  | cons n l =>
    rw [chars]
    have hmembers := mem_members hm h
    simp [hmembers]

/-! ## Printable characters -/

/-- Blanks, and the characters from the space on. -/
def Printable (c : Char) : Prop := IsBlank c ∨ ' ' ≤ c

instance (c : Char) : Decidable (Printable c) :=
  inferInstanceAs (Decidable ((c = ' ' ∨ c = '\n' ∨ c = '\t' ∨ c = '\r') ∨ ' ' ≤ c))

theorem printable_of_all {l : List Char} (h : l.all (fun c => decide (Printable c)) = true) : ∀ c ∈ l, Printable c :=
  fun c hc => of_decide_eq_true (List.all_eq_true.1 h c hc)

theorem hexPair_printable {n : Nat} (h : n < 0x20) : ∀ c ∈ hexPair n, ' ' ≤ c ∧ c ≠ '\x7f' := by
  have hall : ∀ n < 0x20, (hexPair n).all (fun c => decide (' ' ≤ c) && c != '\x7f') = true := by decide
  intro c hc
  simpa using List.all_eq_true.1 (hall n h) c hc

theorem escaped_printable (c : Char) : ∀ e ∈ escaped c, Printable e := by
  unfold escaped
  split_ifs with hquote hslash hline hreturn htab hback hfeed hcontrol
  iterate 7 exact printable_of_all (by decide)
  · have hpair := hexPair_printable hcontrol
    simp only [List.forall_mem_cons]
    exact ⟨by decide, by decide, by decide, by decide, fun e he => .inr (hpair e he).1⟩
  · intro e he
    obtain rfl := List.mem_singleton.1 he
    refine .inr ?_
    rw [Char.le_def, UInt32.le_iff_toNat_le]
    exact Nat.le_of_not_lt hcontrol

theorem quoted_printable (s : String) : ∀ c ∈ quoted s, Printable c := by
  intro c hc
  simp only [quoted, List.mem_cons, List.mem_append, List.mem_flatMap, List.not_mem_nil, or_false] at hc
  obtain rfl | ⟨e, -, hc⟩ | rfl := hc
  · decide
  · exact escaped_printable e c hc
  · decide

theorem digit_printable (h : isDigit c = true) : ' ' ≤ c ∧ c ≠ '\x7f' := by
  simp only [isDigit, Bool.and_eq_true, decide_eq_true_eq] at h
  refine ⟨Char.le_trans (by decide) h.1, ?_⟩
  rintro rfl
  exact absurd h.2 (by decide)

/-- Whatever a value holds, its text consists of printable characters. -/
theorem chars_printable (h : Writable d v) : ∀ level, ∀ c ∈ chars L level v, Printable c := by
  induction h with
  | null =>
    intro level
    rw [chars]
    exact printable_of_all (by decide)
  | @bool d b =>
    intro level
    cases b <;> (rw [chars]; exact printable_of_all (by decide))
  | @natural d n =>
    intro level c hc
    rw [chars, JsonNumber.text] at hc
    exact .inr (digit_printable (digits_isAsciiDigit hc)).1
  | @string d s =>
    intro level
    rw [chars]
    exact quoted_printable s
  | array _ ih =>
    intro level c hc
    obtain hc | hc | ⟨v, hv, hc⟩ := of_mem_chars_array hc
    · exact printable_of_all (by decide) c hc
    · exact .inl hc
    · exact ih v hv (level + 1) c hc
  | object _ ih =>
    intro level c hc
    obtain hc | hc | ⟨m, hm, hc | hc⟩ := of_mem_chars_object hc
    · exact printable_of_all (by decide) c hc
    · exact .inl hc
    · exact quoted_printable m.1 c hc
    · exact ih m hm (level + 1) c hc

/-! ## The delete character -/

/-- A text without delete characters. -/
def Undeleted (s : String) : Prop := '\x7f' ∉ s.toList

instance (s : String) : Decidable (Undeleted s) := inferInstanceAs (Decidable (¬ _))

theorem undeleted_ofList {cs : List Char} (h : '\x7f' ∉ cs) : Undeleted (String.ofList cs) := by
  rwa [Undeleted, String.toList_ofList]

theorem undeleted_append {a b : String} (ha : Undeleted a) (hb : Undeleted b) : Undeleted (a ++ b) := by
  rw [Undeleted, String.toList_append, List.mem_append]
  exact fun h => h.elim ha hb

theorem delete_not_blank : ¬ IsBlank '\x7f' := by simp [IsBlank]

theorem delete_mem_escaped (c : Char) : '\x7f' ∈ escaped c ↔ c = '\x7f' := by
  unfold escaped
  split_ifs with hquote hslash hline hreturn htab hback hfeed hcontrol
  · subst hquote; decide
  · subst hslash; decide
  · subst hline; decide
  · subst hreturn; decide
  · subst htab; decide
  · subst hback; decide
  · subst hfeed; decide
  · have hpair : '\x7f' ∉ hexPair c.toNat := fun hmem => (hexPair_printable hcontrol _ hmem).2 rfl
    have hne : c ≠ '\x7f' := by
      rintro rfl
      exact absurd hcontrol (by decide)
    simp [hpair, hne]
  · simp [eq_comm]

theorem delete_mem_quoted (s : String) : '\x7f' ∈ quoted s ↔ '\x7f' ∈ s.toList := by
  simp [quoted, delete_mem_escaped]

/-- A delete character in the text of a value is one in a text of the value. -/
theorem delete_mem_chars (h : Writable d v) : ∀ level, '\x7f' ∈ chars L level v ↔ ∃ s ∈ v.texts, '\x7f' ∈ s.toList := by
  induction h with
  | null => simp [chars, texts]
  | @bool d b => cases b <;> simp [chars, texts]
  | @natural d n =>
    intro level
    have hnone : '\x7f' ∉ (toString n).toList := fun hmem => (digit_printable (digits_isAsciiDigit hmem)).2 rfl
    rw [chars, texts, JsonNumber.text]
    simp only [hnone, List.not_mem_nil, false_and, exists_false]
  | @string d s => simp [chars, mem_texts_string, delete_mem_quoted]
  | @array d l _ ih =>
    intro level
    refine ⟨fun hmem => ?_, ?_⟩
    · obtain hmem | hmem | ⟨v, hv, hmem⟩ := of_mem_chars_array hmem
      · simp at hmem
      · exact absurd hmem delete_not_blank
      · obtain ⟨s, hs, hmem⟩ := (ih v hv (level + 1)).1 hmem
        exact ⟨s, mem_texts_array.2 ⟨v, hv, hs⟩, hmem⟩
    · rintro ⟨s, hs, hmem⟩
      obtain ⟨v, hv, hs⟩ := mem_texts_array.1 hs
      exact mem_chars_array hv ((ih v hv (level + 1)).2 ⟨s, hs, hmem⟩)
  | @object d l _ ih =>
    intro level
    refine ⟨fun hmem => ?_, ?_⟩
    · obtain hmem | hmem | ⟨m, hm, hmem | hmem⟩ := of_mem_chars_object hmem
      · simp at hmem
      · exact absurd hmem delete_not_blank
      · exact ⟨m.1, mem_texts_object.2 ⟨m, hm, .inl rfl⟩, (delete_mem_quoted m.1).1 hmem⟩
      · obtain ⟨s, hs, hmem⟩ := (ih m hm (level + 1)).1 hmem
        exact ⟨s, mem_texts_object.2 ⟨m, hm, .inr hs⟩, hmem⟩
    · rintro ⟨s, hs, hmem⟩
      obtain ⟨m, hm, rfl | hs⟩ := mem_texts_object.1 hs
      · exact mem_chars_object hm (.inl ((delete_mem_quoted m.1).2 hmem))
      · exact mem_chars_object hm (.inr ((ih m hm (level + 1)).2 ⟨s, hs, hmem⟩))

theorem delete_not_mem_chars (h : Writable d v) (level : Nat) :
    '\x7f' ∉ chars L level v ↔ ∀ s ∈ v.texts, Undeleted s := by
  rw [delete_mem_chars h]
  exact ⟨fun hnone s hs hmem => hnone ⟨s, hs, hmem⟩, fun hall ⟨s, hs, hmem⟩ => hall s hs hmem⟩

end Retag.Json
