/-
The tokens of what is laid out. Where its lines end decides about blanks, and about
commas behind the last item of a list, and about nothing else. So documents are told
by the tokens that their text puts before those of any text that follows (`PrintsAs`),
wherever the pen is and however the lines are broken.

No such text has a stroke, so no comment begins in it.
-/
import Retag.Proofs.Code.Layout
import Retag.Proofs.Code.Lexing

namespace Retag.Code

variable {s t w : String} {cs tail : List Char} {tt : List Token} {c : Char}

/-! ## What stands at once behind a text -/

/-- How much is asked of what follows a text. -/
inductive Edge where
  /-- Nothing. -/
  | free
  /-- No word goes on with it. -/
  | word
  /-- No number goes on with it. -/
  | number
  deriving DecidableEq

namespace Edge

def allows : Edge → Char → Bool
  | free, _ => true
  | word, c => breaks.contains c
  | number, c => breaks.contains c && c != '.'

/-- Whether no more is asked than is given. -/
def within : Edge → Edge → Bool
  | free, _ | word, word | _, number => true
  | _, _ => false

/-- What is asked of a text. -/
def Holds (e : Edge) (cs : List Char) : Prop := ∀ c ∈ cs.head?, e.allows c = true

variable {e f : Edge}

theorem Holds.weaken (h : f.Holds cs) (hle : e.within f = true) : e.Holds cs := by
  intro c hc
  have hallows := h c hc
  cases e <;> cases f <;> simp_all [within, allows]

theorem holds_cons : e.Holds (c :: cs) ↔ e.allows c = true := by simp [Holds]

theorem Holds.breaksOff (h : word.Holds cs) : BreaksOff cs := fun c hc => by simpa [allows] using h c hc

theorem Holds.noPoint (h : number.Holds cs) : cs.head? ≠ some '.' := fun hc => by simpa [allows] using h _ hc

end Edge

variable {needs gives mid mid' : Edge}

/-- How the tokens of a text and what follows come from those of what follows. -/
abbrev Extends := List Token → List Token → Prop

variable {Q Q' : Extends}

/-! ## Texts -/

/-- A text whose tokens are known before those of what follows. -/
structure Spells (s : String) (needs gives : Edge) (Q : Extends) : Prop where
  lexes : ∀ tail tt, Lexes tail tt → needs.Holds tail → ∃ ts, Q ts tt ∧ Lexes (s.toList ++ tail) ts
  begins : ∃ c cs, s.toList = c :: cs ∧ gives.allows c = true
  noStroke : '/' ∉ s.toList

theorem Spells.holds (h : Spells s needs gives Q) (tail : List Char) : gives.Holds (s.toList ++ tail) := by
  obtain ⟨c, cs, hs, hallows⟩ := h.begins
  rw [hs]
  exact Edge.holds_cons.2 hallows

/-- One text behind the other. -/
theorem Spells.append (hs : Spells s mid gives Q) (ht : Spells t needs mid' Q') (h : mid.within mid' = true) :
    Spells (s ++ t) needs gives fun ts rest => ∃ later, Q ts later ∧ Q' later rest := by
  refine ⟨fun tail tt htail hneeds => ?_, ?_, ?_⟩
  · obtain ⟨ts, hQ', hlexes⟩ := ht.lexes tail tt htail hneeds
    obtain ⟨ts', hQ, hlexes'⟩ := hs.lexes _ ts hlexes ((ht.holds tail).weaken h)
    refine ⟨ts', ⟨ts, hQ, hQ'⟩, ?_⟩
    rwa [String.toList_append, List.append_assoc]
  · obtain ⟨c, cs, hs, hallows⟩ := hs.begins
    exact ⟨c, cs ++ t.toList, by rw [String.toList_append, hs]; rfl, hallows⟩
  · rw [String.toList_append, List.mem_append, not_or]
    exact ⟨hs.noStroke, ht.noStroke⟩

theorem Spells.mono (h : Spells s needs gives Q) (hQ : ∀ ts rest, Q ts rest → Q' ts rest) : Spells s needs gives Q' :=
  ⟨fun tail tt htail hneeds => (h.lexes tail tt htail hneeds).imp fun ts hts => ⟨hQ ts tt hts.1, hts.2⟩, h.begins, h.noStroke⟩

theorem Lexes.space (htail : Lexes tail tt) : Lexes (' ' :: tail) tt := by
  intro fuel hfuel
  rw [readTokens_blank isSpace_blank]
  exact htail fuel (Nat.lt_of_succ_lt hfuel)

theorem Lexes.spaces (htail : Lexes tail tt) (n : Nat) : Lexes (List.replicate n ' ' ++ tail) tt := by
  induction n with
  | zero => exact htail
  | succ n ih => exact ih.space

theorem spells_blank : Spells " " .free .number (· = ·) :=
  ⟨fun _ _ h _ => ⟨_, rfl, h.space⟩, ⟨' ', [], rfl, by decide⟩, by decide⟩

theorem spells_dot : Spells "." .free .word fun ts rest => ∃ j, ts = .sign '.' j :: rest :=
  ⟨fun tail tt h _ => ⟨.sign '.' (beginsSign tail) :: tt, ⟨_, rfl⟩, (Step.sign (by decide)).lexes h⟩, ⟨'.', [], rfl, rfl⟩,
    by decide⟩

theorem stroke_not_sign : '/' ∉ plainSigns := by decide

theorem allows_sign (hc : c ∈ plainSigns.tail) : Edge.number.allows c = true :=
  List.all_eq_true.1 (by decide : plainSigns.tail.all Edge.number.allows = true) c hc

/-- A sign but the point. -/
theorem spells_sign (hs : s.toList = [c]) (hc : c ∈ plainSigns.tail) :
    Spells s .free .number fun ts rest => ∃ j, ts = .sign c j :: rest := by
  refine ⟨fun tail tt h _ => ⟨.sign c (beginsSign tail) :: tt, ⟨_, rfl⟩, ?_⟩, ⟨c, [], hs, allows_sign hc⟩, ?_⟩
  · rw [hs]
    exact (Step.sign (List.mem_of_mem_tail hc)).lexes h
  · rw [hs, List.mem_singleton]
    rintro rfl
    exact stroke_not_sign (List.mem_of_mem_tail hc)

theorem beginsSign_plain (hc : c ∈ plainSigns) (cs : List Char) : beginsSign (c :: cs) = true := by
  simp only [plainSigns, List.mem_cons, List.not_mem_nil, or_false] at hc
  rcases hc with rfl | rfl | rfl | rfl | rfl | rfl | rfl | rfl | rfl | rfl | rfl | rfl <;> rfl

/-- Two signs that stand together. -/
theorem spells_signs {d : Char} (hs : s.toList = [c, d]) (hc : c ∈ plainSigns.tail) (hd : d ∈ plainSigns) :
    Spells s .free .number fun ts rest => ∃ j, ts = .sign c true :: .sign d j :: rest := by
  refine ⟨fun tail tt h _ => ⟨.sign c true :: .sign d (beginsSign tail) :: tt, ⟨_, rfl⟩, ?_⟩, ⟨c, [d], hs, allows_sign hc⟩, ?_⟩
  · have hlater := (Step.sign (List.mem_of_mem_tail hc)).lexes ((Step.sign hd).lexes h)
    rw [beginsSign_plain hd] at hlater
    rw [hs]
    exact hlater
  · rw [hs]
    simp only [List.mem_cons, List.not_mem_nil, or_false, not_or]
    constructor
    · rintro rfl
      exact stroke_not_sign (List.mem_of_mem_tail hc)
    · rintro rfl
      exact stroke_not_sign hd

/-- A sign with a blank behind it. -/
theorem spells_signBlank (hs : s.toList = [c, ' ']) (hc : c ∈ plainSigns.tail) :
    Spells s .free .number fun ts rest => ts = .sign c false :: rest := by
  refine ⟨fun tail tt h _ => ⟨_, rfl, ?_⟩, ⟨c, [' '], hs, allows_sign hc⟩, ?_⟩
  · rw [hs]
    exact (Step.sign (List.mem_of_mem_tail hc)).lexes h.space
  · rw [hs]
    simp only [List.mem_cons, List.not_mem_nil, or_false, not_or]
    refine ⟨?_, by decide⟩
    rintro rfl
    exact stroke_not_sign (List.mem_of_mem_tail hc)

theorem spells_opening {b : Bracket} (hs : s.toList = [c]) (hc : openingOf c = some b) :
    Spells s .free .number fun ts rest => ts = .opening b :: rest := by
  have hallows : ['(', '[', '{'].all Edge.number.allows = true := by decide
  refine ⟨fun tail tt h _ => ⟨_, rfl, ?_⟩, ⟨c, [], hs, List.all_eq_true.1 hallows c (opening_mem hc)⟩, ?_⟩
  · rw [hs]
    exact (Step.opening hc).lexes h
  · rw [hs, List.mem_singleton]
    rintro rfl
    cases hc

theorem spells_closing {b : Bracket} (hs : s.toList = [c]) (hc : closingOf c = some b) :
    Spells s .free .number fun ts rest => ts = .closing b :: rest := by
  have hallows : [')', ']', '}'].all Edge.number.allows = true := by decide
  refine ⟨fun tail tt h _ => ⟨_, rfl, ?_⟩, ⟨c, [], hs, List.all_eq_true.1 hallows c (closing_mem hc)⟩, ?_⟩
  · rw [hs]
    exact (Step.closing hc).lexes h
  · rw [hs, List.mem_singleton]
    rintro rfl
    cases hc

/-- A word that is told from what follows it. -/
def SpellsWord (w : String) : Prop := Spells w .word .free fun ts rest => ts = .word w :: rest

theorem IsIdentifier.noStroke (hw : IsIdentifier w) : '/' ∉ w.toList := fun h => absurd (hw.parts _ h) (by decide)

theorem IsIdentifier.spells (hw : IsIdentifier w) : SpellsWord w := by
  obtain ⟨c, cs, heq, -⟩ := hw.start
  exact ⟨fun _ _ h hneeds => ⟨_, rfl, (hw.step hneeds.breaksOff).lexes h⟩, ⟨c, cs, heq, rfl⟩, hw.noStroke⟩

theorem IsIdentifier.spellsRaw (hw : IsIdentifier w) (hraw : w ∉ neverRaw) : SpellsWord ("r#" ++ w) :=
  ⟨fun _ _ h hneeds => ⟨_, rfl, (hw.stepRaw hraw hneeds.breaksOff).lexes h⟩,
    ⟨'r', '#' :: w.toList, by simp, rfl⟩, by simpa using hw.noStroke⟩

/-- A word with a blank behind it. -/
theorem IsIdentifier.spellsBlank (hw : IsIdentifier w) (hs : s = w ++ " ") :
    Spells s .free .free fun ts rest => ts = .word w :: rest := by
  subst hs
  refine (Spells.append hw.spells spells_blank rfl).mono ?_
  rintro ts rest ⟨_, rfl, rfl⟩
  rfl

/-- A point and a word at once. -/
theorem IsIdentifier.spellsDotted (hw : IsIdentifier w) :
    Spells ("." ++ w) .word .word fun ts rest => ts = .sign '.' false :: .word w :: rest := by
  obtain ⟨c, cs, heq, -⟩ := hw.start
  have hpart := hw.parts c (heq ▸ List.mem_cons_self)
  refine ⟨fun tail tt h hneeds => ⟨_, rfl, ?_⟩, ⟨'.', w.toList, by simp, rfl⟩, by simpa using hw.noStroke⟩
  have hdot : Step ('.' :: (w.toList ++ tail)) (.sign '.' (beginsSign (w.toList ++ tail))) (w.toList ++ tail) := .sign (by decide)
  have hnext : beginsSign (w.toList ++ tail) = false := by
    rw [heq]
    exact beginsSign_of_part hpart _
  rw [hnext] at hdot
  rw [String.toList_append]
  exact hdot.lexes ((hw.step hneeds.breaksOff).lexes h)

/-- A whole number. -/
theorem spells_number (n : Nat) : Spells (toString n) .number .free fun ts rest => ts = .literal (toString n) :: rest := by
  obtain ⟨c, run, hlist⟩ : ∃ c run, (toString n).toList = c :: run :=
    List.exists_cons_of_ne_nil (by rw [digits_toList]; exact Nat.toDigits_ne_nil)
  have hdigits : ∀ d ∈ c :: run, Text.isAsciiDigit d = true := fun d hd => digits_isAsciiDigit (hlist ▸ hd)
  refine ⟨fun tail tt h hneeds => ⟨_, rfl, ?_⟩, ⟨c, run, hlist, rfl⟩, fun h => ?_⟩
  · have hstep : Step (c :: run ++ tail) (.literal (String.ofList (c :: run))) tail :=
      .number (hdigits c List.mem_cons_self) (fun d hd => by simp [isNumberPart, hdigits d (List.mem_cons_of_mem _ hd)])
        (hneeds.weaken rfl : Edge.word.Holds tail).breaksOff hneeds.noPoint
    rw [← hlist, String.ofList_toList] at hstep
    exact hstep.lexes h
  · exact absurd (hdigits _ (hlist ▸ h)) (by decide)

/-! ## Documents -/

variable {frame : Frame} {margin : Int} {after : Nat} {p : Pen} {ds es : List Doc} {d : Doc} {g : Gap}

/-- What may follow behind a pen, whose blanks come first. -/
def Joins (e : Edge) (p : Pen) (cs : List Char) : Prop := (if 0 < p.pending then Edge.number else e).Holds cs

theorem Joins.weaken {e f : Edge} (h : Joins f p cs) (hle : e.within f = true) : Joins e p cs := by
  unfold Joins at h ⊢
  split
  next hpending => rwa [if_pos hpending] at h
  next hpending =>
    rw [if_neg hpending] at h
    exact h.weaken hle

theorem Edge.Holds.joins {e : Edge} (h : Edge.number.Holds cs) : Joins e p cs :=
  h.weaken (by split <;> cases e <;> rfl)

theorem holds_spaces {n : Nat} (h : 0 < n) (cs : List Char) : Edge.number.Holds (List.replicate n ' ' ++ cs) := by
  obtain ⟨n, rfl⟩ := Nat.exists_eq_add_one_of_ne_zero (Nat.ne_of_gt h)
  exact Edge.holds_cons.2 (by decide)

/-- Documents whose text has known tokens before those of what follows, however it
is laid out. -/
structure PrintsAs (ds : List Doc) (needs gives : Edge) (Q : Extends) : Prop where
  lexes : ∀ frame margin after p tail tt, Lexes tail tt → Joins needs (Doc.renderAll frame margin after p ds).2 tail →
    (∃ ts, Q ts tt ∧ Lexes ((Doc.renderAll frame margin after p ds).1.toList ++ tail) ts) ∧
      Joins gives p ((Doc.renderAll frame margin after p ds).1.toList ++ tail)
  noStroke : ∀ frame margin after p, '/' ∉ (Doc.renderAll frame margin after p ds).1.toList

theorem renderAll_pair (d : Doc) (rest : List Doc) :
    Doc.renderAll frame margin after p (d :: rest) =
      ((Doc.render frame margin (Doc.lead after rest) p d).1 ++
          (Doc.renderAll frame margin after (Doc.render frame margin (Doc.lead after rest) p d).2 rest).1,
        (Doc.renderAll frame margin after (Doc.render frame margin (Doc.lead after rest) p d).2 rest).2) := by
  rw [Doc.renderAll]

theorem renderAll_append_pair (xs ys : List Doc) : Doc.renderAll frame margin after p (xs ++ ys) =
    ((Doc.renderAll frame margin (Doc.lead after ys) p xs).1 ++
        (Doc.renderAll frame margin after (Doc.renderAll frame margin (Doc.lead after ys) p xs).2 ys).1,
      (Doc.renderAll frame margin after (Doc.renderAll frame margin (Doc.lead after ys) p xs).2 ys).2) := by
  induction xs generalizing p with
  | nil => simp [Doc.renderAll]
  | cons d xs ih => rw [List.cons_append, renderAll_pair, ih, renderAll_pair, lead_append, String.append_assoc]

namespace PrintsAs

theorem nil (e : Edge) : PrintsAs [] e e (· = ·) where
  lexes frame margin after p tail tt htail hjoins := by
    simp only [Doc.renderAll, String.toList_empty, List.nil_append] at hjoins ⊢
    exact ⟨⟨tt, rfl, htail⟩, hjoins⟩
  noStroke _ _ _ _ := by simp [Doc.renderAll]

/-- Documents one behind the other. -/
theorem append (hds : PrintsAs ds mid gives Q) (hes : PrintsAs es needs mid' Q') (h : mid.within mid' = true) :
    PrintsAs (ds ++ es) needs gives fun ts rest => ∃ later, Q ts later ∧ Q' later rest where
  lexes frame margin after p tail tt htail hjoins := by
    rw [renderAll_append_pair] at hjoins ⊢
    simp only at hjoins ⊢
    obtain ⟨⟨ts, hQ', hlexes⟩, hjoins'⟩ := hes.lexes _ _ _ _ tail tt htail hjoins
    obtain ⟨⟨ts', hQ, hlexes'⟩, hjoins''⟩ := hds.lexes _ _ _ _ _ ts hlexes (hjoins'.weaken h)
    rw [String.toList_append, List.append_assoc]
    exact ⟨⟨ts', ⟨ts, hQ, hQ'⟩, hlexes'⟩, hjoins''⟩
  noStroke _ _ _ _ := by
    rw [renderAll_append_pair, String.toList_append, List.mem_append, not_or]
    exact ⟨hds.noStroke _ _ _ _, hes.noStroke _ _ _ _⟩

theorem cons (hd : PrintsAs [d] mid gives Q) (hes : PrintsAs es needs mid' Q') (h : mid.within mid' = true) :
    PrintsAs (d :: es) needs gives fun ts rest => ∃ later, Q ts later ∧ Q' later rest :=
  hd.append hes h

/-- More may be asked of what follows, and less told of the beginning. -/
theorem mono (h : PrintsAs ds mid mid' Q) (hneeds : mid.within needs = true) (hgives : gives.within mid' = true)
    (hQ : ∀ ts rest, Q ts rest → Q' ts rest) : PrintsAs ds needs gives Q' where
  lexes frame margin after p tail tt htail hjoins := by
    obtain ⟨⟨ts, hts, hlexes⟩, hjoins'⟩ := h.lexes _ _ _ _ tail tt htail (hjoins.weaken hneeds)
    exact ⟨⟨ts, hQ _ _ hts, hlexes⟩, hjoins'.weaken hgives⟩
  noStroke := h.noStroke

theorem renderAll_text (s : String) : Doc.renderAll frame margin after p [.text s] =
    (String.ofList (List.replicate p.pending ' ') ++ s, ⟨0, p.space - s.utf8ByteSize⟩) := by
  simp [Doc.renderAll, Doc.render, Pen.write]

theorem text (h : Spells s needs gives Q) : PrintsAs [.text s] needs gives Q where
  lexes frame margin after p tail tt htail hjoins := by
    rw [renderAll_text] at hjoins ⊢
    obtain ⟨ts, hQ, hlexes⟩ := h.lexes tail tt htail hjoins
    simp only [String.toList_append, String.toList_ofList, List.append_assoc]
    refine ⟨⟨ts, hQ, hlexes.spaces _⟩, ?_⟩
    unfold Joins
    split
    next hpending => exact holds_spaces hpending _
    next hpending =>
      rw [Nat.eq_zero_of_not_pos hpending]
      exact h.holds tail
  noStroke _ _ _ _ := by
    rw [renderAll_text]
    simp [h.noStroke]

/-- Two texts that stand together. -/
theorem renderAll_two (s t : String) : (Doc.renderAll frame margin after p [.text s, .text t]).1 =
    (Doc.renderAll frame margin after p [.text (s ++ t)]).1 := by
  simp [Doc.renderAll, Doc.render, Pen.write, String.append_assoc]

theorem texts (h : Spells (s ++ t) needs gives Q) : PrintsAs [.text s, .text t] needs gives Q where
  lexes frame margin after p tail tt htail hjoins := by
    have hjoins' : Joins needs (Doc.renderAll frame margin after p [.text (s ++ t)]).2 tail := by
      simpa [Joins, Doc.renderAll, Doc.render, Pen.write] using hjoins
    rw [renderAll_two]
    exact (PrintsAs.text h).lexes _ _ _ _ tail tt htail hjoins'
  noStroke _ _ _ _ := by
    rw [renderAll_two]
    exact (PrintsAs.text h).noStroke _ _ _ _

theorem renderAll_group (consistent : Bool) (offset : Int) (ds : List Doc) :
    ∃ frame' margin', Doc.renderAll frame margin after p [.group consistent offset ds] =
      Doc.renderAll frame' margin' after p ds := by
  by_cases hfits : p.space < (Doc.widths ds + after : Int)
  · exact ⟨.broken consistent, margin + offset, by simp [Doc.renderAll, Doc.render, Doc.lead, hfits]⟩
  · exact ⟨.fits, margin, by simp [Doc.renderAll, Doc.render, Doc.lead, hfits]⟩

theorem group {consistent : Bool} {offset : Int} (h : PrintsAs ds needs gives Q) :
    PrintsAs [.group consistent offset ds] needs gives Q where
  lexes frame margin after p tail tt htail := by
    obtain ⟨_, _, hrender⟩ := @renderAll_group frame margin after p consistent offset ds
    rw [hrender]
    exact h.lexes _ _ _ _ tail tt htail
  noStroke frame margin after p := by
    obtain ⟨_, _, hrender⟩ := @renderAll_group frame margin after p consistent offset ds
    rw [hrender]
    exact h.noStroke _ _ _ _

end PrintsAs

/-! ### Places where a line may end -/

/-- The line goes on, or it ends, behind what belongs there. -/
theorem gap_render {lead : Nat} (hafter : g.after = "") :
    g.render frame margin lead p = ("", ⟨p.pending + g.blank, p.space - g.blank⟩) ∨
      g.render frame margin lead p = ((p.writeSome g.before).1 ++ "\n", Pen.start (margin + g.offset).toNat) := by
  have hstart : ∀ p : Pen, p.writeSome g.after = ("", p) := fun p => if_pos hafter
  unfold Gap.render
  simp only [hstart, String.append_empty]
  exact (Decidable.em _).imp (fun hgoes => if_pos hgoes) fun hends => if_neg hends

theorem renderAll_gap (hafter : g.after = "") :
    Doc.renderAll frame margin after p [.gap g] = ("", ⟨p.pending + g.blank, p.space - g.blank⟩) ∨
      Doc.renderAll frame margin after p [.gap g] =
        ((p.writeSome g.before).1 ++ "\n", Pen.start (margin + g.offset).toNat) := by
  simp only [Doc.renderAll, Doc.render, String.append_empty]
  exact gap_render hafter

/-- A place with nothing of its own at the ends of lines. -/
structure IsBare (g : Gap) : Prop where
  before : g.before = ""
  after : g.after = ""

theorem IsBare.shift (h : IsBare g) (by_ : Int) : IsBare (g.shift by_) := ⟨h.before, h.after⟩

theorem holds_feed (cs : List Char) : Edge.number.Holds ('\n' :: cs) := Edge.holds_cons.2 (by decide)

/-- More blanks only ask for more. -/
theorem Joins.fewer {e : Edge} {n : Nat} {space : Int} (h : Joins e ⟨p.pending + n, space⟩ cs) : Joins e p cs := by
  unfold Joins at h ⊢
  split
  next hpending => rwa [if_pos (Nat.lt_of_lt_of_le hpending (Nat.le_add_right _ _))] at h
  next => exact h.weaken (by split <;> cases e <;> rfl)

theorem renderAll_bare (hg : IsBare g) :
    Doc.renderAll frame margin after p [.gap g] = ("", ⟨p.pending + g.blank, p.space - g.blank⟩) ∨
      Doc.renderAll frame margin after p [.gap g] = ("\n", Pen.start (margin + g.offset).toNat) := by
  refine (renderAll_gap hg.after).imp_right fun hrender => ?_
  rw [hrender]
  simp only [Pen.writeSome, hg.before, if_true, String.empty_append]

theorem IsBare.noStroke (hg : IsBare g) (frame : Frame) (margin : Int) (after : Nat) (p : Pen) :
    '/' ∉ (Doc.renderAll frame margin after p [.gap g]).1.toList := by
  rcases @renderAll_bare frame margin after p g hg with hrender | hrender
  all_goals
    rw [hrender]
    simp

/-- A place without a blank. -/
theorem PrintsAs.gap (e : Edge) (hg : IsBare g) : PrintsAs [.gap g] e e (· = ·) where
  lexes frame margin after p tail tt htail hjoins := by
    rcases @renderAll_bare frame margin after p g hg with hrender | hrender
    · rw [hrender] at hjoins ⊢
      simp only [String.toList_empty, List.nil_append]
      exact ⟨⟨tt, rfl, htail⟩, hjoins.fewer⟩
    · have hlist : "\n".toList ++ tail = '\n' :: tail := rfl
      rw [hrender]
      simp only [hlist]
      exact ⟨⟨tt, rfl, htail.blank⟩, (holds_feed tail).joins⟩
  noStroke := hg.noStroke

/-- A place with a blank, which sets everything apart. -/
theorem PrintsAs.space (hg : IsBare g) (hblank : 0 < g.blank) : PrintsAs [.gap g] .free .number (· = ·) where
  lexes frame margin after p tail tt htail hjoins := by
    rcases @renderAll_bare frame margin after p g hg with hrender | hrender
    · rw [hrender] at hjoins ⊢
      simp only [String.toList_empty, List.nil_append]
      unfold Joins at hjoins
      rw [if_pos (Nat.lt_of_lt_of_le hblank (Nat.le_add_left _ _))] at hjoins
      exact ⟨⟨tt, rfl, htail⟩, hjoins.joins⟩
    · have hlist : "\n".toList ++ tail = '\n' :: tail := rfl
      rw [hrender]
      simp only [hlist]
      exact ⟨⟨tt, rfl, htail.blank⟩, (holds_feed tail).joins⟩
  noStroke := hg.noStroke

theorem renderAll_comma (by_ : Int) :
    Doc.renderAll frame margin after p [.gap (Gap.comma.shift by_)] = ("", ⟨p.pending + 0, p.space - 0⟩) ∨
      Doc.renderAll frame margin after p [.gap (Gap.comma.shift by_)] =
        (String.ofList (List.replicate p.pending ' ') ++ "," ++ "\n", Pen.start (margin + (0 + by_)).toNat) := by
  refine (renderAll_gap rfl).imp_right fun hrender => ?_
  rw [hrender]
  simp [Pen.writeSome, Gap.comma, Gap.shift, Pen.write]

/-- A place with a comma if a line ends there. -/
theorem PrintsAs.comma (by_ : Int) : PrintsAs [.gap (Gap.comma.shift by_)] .number .number fun ts rest =>
    ts = rest ∨ ts = .sign ',' false :: rest where
  lexes frame margin after p tail tt htail hjoins := by
    rcases @renderAll_comma frame margin after p by_ with hrender | hrender
    · rw [hrender] at hjoins ⊢
      simp only [String.toList_empty, List.nil_append]
      exact ⟨⟨tt, .inl rfl, htail⟩, hjoins.fewer⟩
    · rw [hrender]
      have hlist : (String.ofList (List.replicate p.pending ' ') ++ "," ++ "\n").toList ++ tail =
          List.replicate p.pending ' ' ++ ',' :: '\n' :: tail := by simp
      have hcomma : Lexes (',' :: '\n' :: tail) (.sign ',' false :: tt) := (Step.sign (by decide)).lexes htail.blank
      simp only [hlist]
      refine ⟨⟨_, .inr rfl, hcomma.spaces _⟩, Edge.Holds.joins ?_⟩
      by_cases hpending : 0 < p.pending
      · exact holds_spaces hpending _
      · rw [Nat.eq_zero_of_not_pos hpending]
        exact Edge.holds_cons.2 (by decide)
  noStroke frame margin after p := by
    rcases @renderAll_comma frame margin after p by_ with hrender | hrender
    all_goals
      rw [hrender]
      simp

end Retag.Code
