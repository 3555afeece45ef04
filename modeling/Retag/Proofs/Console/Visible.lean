/-
What is visible of plain text. A text without escape characters is shown with those
of its characters left out that are not shown (`Mode.visible_text`), so it comes out
as it is exactly if all its characters are shown (`Line.written_plain_iff`); with
colors it always does.
-/
import Retag.Console.Line

namespace Retag.Console

namespace Mode

/-- Nothing is added to a text and nothing moved in it. -/
theorem visible_sublist (m : Mode) (shown : Bool) (s : List Char) : (m.visible shown s).1.Sublist s := by
  induction s generalizing m shown with
  | nil => exact List.Sublist.refl []
  | cons c s ih =>
    rw [visible]
    cases hc : ((if shown then text else m).shows c) with
    | true => exact (ih _ _).cons_cons c
    | false => exact (ih _ _).cons c

theorem next_text {c : Char} (h : c ≠ '\x1b') : text.next c = text := by
  simp [next, h]

/-- Only an escape character leaves the mode of text. -/
theorem visible_text (shown : Bool) {s : List Char} (h : '\x1b' ∉ s) :
    text.visible shown s = (s.filter text.shows, text) := by
  induction s generalizing shown with
  | nil => rfl
  | cons c s ih =>
    rw [List.mem_cons, not_or] at h
    obtain ⟨hc, hs⟩ := h
    rw [visible, ite_self]
    cases hshown : text.shows c with
    | true =>
      rw [List.filter_cons_of_pos hshown, if_pos rfl, ite_self, ih true hs]
    | false =>
      rw [List.filter_cons_of_neg (by simp [hshown]), if_neg Bool.false_ne_true, next_text (Ne.symm hc), ih false hs]

theorem not_shows_escape : text.shows '\x1b' = false := by decide

/-- A text is visible as it is exactly if all its characters are shown. -/
theorem visible_eq_iff (shown : Bool) (s : List Char) :
    (text.visible shown s).1 = s ↔ ∀ c ∈ s, text.shows c = true := by
  refine ⟨fun h => ?_, fun h => ?_⟩
  · induction s generalizing shown with
    | nil => simp
    | cons c s ih =>
      rw [visible, ite_self] at h
      cases hc : text.shows c with
      | true =>
        rw [hc, if_pos rfl, ite_self] at h
        exact List.forall_mem_cons.2 ⟨hc, ih true (List.cons.inj h).2⟩
      | false =>
        -- What is visible of the rest cannot be longer than the rest.
        rw [hc, if_neg Bool.false_ne_true] at h
        have hle := (visible_sublist (text.next c) false s).length_le
        rw [h, List.length_cons] at hle
        omega
  · have hescape : '\x1b' ∉ s := fun hmem =>
      Bool.false_ne_true (not_shows_escape.symm.trans (h _ hmem))
    rw [visible_text shown hescape, List.filter_eq_self.2 h]

end Mode

/-! ## Lines of one plain text -/

theorem visible_pair (m : Mode) (a b : String) :
    visible m [a, b] = (m.visible false a.toList).1 ++ ((m.visible false a.toList).2.visible false b.toList).1 := by
  simp only [visible, List.append_nil]

namespace Line

theorem pieces_plain (text : String) : (plain text).pieces = [text, "\n"] := rfl

theorem written_plain_color (text : String) : (plain text).written true = text ++ "\n" := by
  rw [written, if_pos rfl, pieces_plain]
  simp [String.join]

/-- A plain text without escape characters. -/
theorem written_plain_text (h : '\x1b' ∉ text.toList) :
    (plain text).written false = String.ofList (text.toList.filter Mode.text.shows) ++ "\n" := by
  rw [written, if_neg Bool.false_ne_true, pieces_plain, visible_pair, Mode.visible_text false h, String.ofList_append]
  rfl

/-- A plain text is printed as it is exactly on a terminal with colors or if all its
characters are shown. -/
theorem written_plain_iff (color : Bool) (text : String) :
    (plain text).written color = text ++ "\n" ↔ color = true ∨ ∀ c ∈ text.toList, Mode.text.shows c = true := by
  cases color with
  | true => simp [written_plain_color]
  | false =>
    simp only [Bool.false_eq_true, false_or]
    refine ⟨fun h => ?_, fun h => ?_⟩
    · rw [written, if_neg Bool.false_ne_true, pieces_plain, visible_pair] at h
      have hchars := congrArg String.toList h
      rw [String.toList_ofList, String.toList_append] at hchars
      have htext := Mode.visible_sublist .text false text.toList
      have hend := Mode.visible_sublist (Mode.text.visible false text.toList).2 false "\n".toList
      have hlength := congrArg List.length hchars
      rw [List.length_append, List.length_append] at hlength
      have hle := htext.length_le
      have hle' := hend.length_le
      exact (Mode.visible_eq_iff false _).1 (htext.eq_of_length (by omega))
    · have hescape : '\x1b' ∉ text.toList := fun hmem =>
        Bool.false_ne_true (Mode.not_shows_escape.symm.trans (h _ hmem))
      rw [written_plain_text hescape, List.filter_eq_self.2 h, String.ofList_toList]

end Line

end Retag.Console
