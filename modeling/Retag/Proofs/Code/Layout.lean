/-
Finding a text in what is laid out. Documents one after the other have their texts
one after the other (`renderAll_append`), and texts without a place for a line to
end between them stand together (`renderAll_texts`). So the signature of a function
stands in its text up to the parenthesis in one piece (`function_text`).
-/
import Retag.Code.Print.Items

namespace Retag.Code

variable {frame : Frame} {margin : Int} {after : Nat} {p : Pen}

theorem renderAll_cons (d : Doc) (rest : List Doc) :
    (Doc.renderAll frame margin after p (d :: rest)).1 =
      (Doc.render frame margin (Doc.lead after rest) p d).1 ++
        (Doc.renderAll frame margin after (Doc.render frame margin (Doc.lead after rest) p d).2 rest).1 := by
  rw [Doc.renderAll]

theorem lead_append (after : Nat) (xs ys : List Doc) :
    Doc.lead after (xs ++ ys) = Doc.lead (Doc.lead after ys) xs := by
  induction xs with
  | nil => rfl
  | cons d xs ih =>
    cases d with
    | gap | stop => rfl
    | text | group => exact congrArg _ ih

theorem renderAll_append (xs ys : List Doc) :
    ∃ q, (Doc.renderAll frame margin after p (xs ++ ys)).1 =
      (Doc.renderAll frame margin (Doc.lead after ys) p xs).1 ++ (Doc.renderAll frame margin after q ys).1 := by
  induction xs generalizing p with
  | nil => exact ⟨p, by simp [Doc.renderAll]⟩
  | cons d xs ih =>
    obtain ⟨q, hq⟩ := @ih (Doc.render frame margin (Doc.lead after (xs ++ ys)) p d).2
    refine ⟨q, ?_⟩
    rw [List.cons_append, renderAll_cons, hq, renderAll_cons, lead_append, String.append_assoc]

/-- Texts after which no line can end stand together. -/
theorem renderAll_texts (s : String) (ss : List String) (rest : List Doc) :
    (String.join (s :: ss)).toList <:+:
      (Doc.renderAll frame margin after p (.text s :: (ss.map .text ++ rest))).1.toList := by
  suffices h : ∃ later, (Doc.renderAll frame margin after p (.text s :: (ss.map .text ++ rest))).1 =
      String.ofList (List.replicate p.pending ' ') ++ String.join (s :: ss) ++ later by
    obtain ⟨later, hlater⟩ := h
    rw [hlater, String.toList_append, String.toList_append]
    exact List.infix_append ..
  induction ss generalizing s p with
  | nil =>
    refine ⟨(Doc.renderAll frame margin after ⟨0, p.space - s.utf8ByteSize⟩ rest).1, ?_⟩
    rw [renderAll_cons, String.join_cons, String.join_nil, String.append_empty]
    rfl
  | cons t ss ih =>
    obtain ⟨later, hlater⟩ := @ih ⟨0, p.space - s.utf8ByteSize⟩ t
    refine ⟨later, ?_⟩
    rw [renderAll_cons]
    simp only [Doc.render, Pen.write]
    rw [List.map_cons, List.cons_append, hlater, String.join_cons]
    simp [String.append_assoc]

/-- What stands in the text of a document stands in that of others around it. -/
theorem renderAll_middle {cs : List Char} {xs zs : List Doc} {d : Doc}
    (h : ∀ frame margin after p, cs <:+: (Doc.render frame margin after p d).1.toList) :
    cs <:+: (Doc.renderAll frame margin after p (xs ++ d :: zs)).1.toList := by
  obtain ⟨q, hq⟩ := @renderAll_append frame margin after p xs (d :: zs)
  rw [hq, renderAll_cons, String.toList_append, String.toList_append]
  exact (h _ _ _ _).trans (List.infix_append' ..)

theorem braced_eq (head lines : List Doc) :
    ∃ tail, Doc.braced head lines = [Doc.block (head ++ tail), .text "\x7d"] := by
  cases lines with
  | nil => exact ⟨_, rfl⟩
  | cons d lines => exact ⟨[.text "\x7b", Doc.newline] ++ Doc.shiftLast (-Doc.indent) (d :: lines), by simp [Doc.braced]⟩

/-- The signature of a function stands in its text. -/
theorem function_text (attributes : List Attribute) (v : Visibility) {s : Signature} (hs : s.generics = [])
    (body : List Stmt) :
    (v.text ++ String.join (s.qualifiers.map (· ++ " ")) ++ "fn " ++ s.name ++ "(").toList <:+:
      (Item.mk attributes v (.function s body)).text.toList := by
  obtain ⟨tail, htail⟩ := braced_eq (.text v.text :: s.docs ++ [.text " "]) (stmtsDocs body)
  obtain ⟨more, hmore⟩ : ∃ more, Doc.text v.text :: s.docs ++ [.text " "] ++ tail = .text v.text ::
      ([String.join (s.qualifiers.map (· ++ " ")), "fn ", s.name, "("].map Doc.text ++ more) := by
    simp only [Signature.docs, hs, genericsDocs]
    exact ⟨_, rfl⟩
  have hjoin : v.text ++ String.join (s.qualifiers.map (· ++ " ")) ++ "fn " ++ s.name ++ "(" =
      String.join [v.text, String.join (s.qualifiers.map (· ++ " ")), "fn ", s.name, "("] := by
    simp [String.append_assoc]
  unfold Item.text Doc.lines Item.docs ItemKind.docs
  rw [htail, hjoin, List.cons_append]
  refine renderAll_middle fun frame margin after p => ?_
  unfold Doc.block Doc.render
  rw [hmore]
  split
  · exact renderAll_texts ..
  · exact renderAll_texts ..

end Retag.Code
