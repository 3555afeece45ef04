/-
The tokens that the reading of an import takes. There are only names, signs and brackets
among them, but no semicolon and no further `use`, and behind each `as` stands one name,
with which what is named ends (`readUseTree_takes`). So if an `as` stands before the
first semicolon, the tokens of the import are known to end behind the name
(`Takes.names`).
-/
import Retag.Proofs.Code.Borders
import Retag.Proofs.Code.Items

namespace Retag.Code

variable {α : Type} {ts rest front back mid : List Token} {t : Token} {c d : Char} {x : String} {item : Item} {fuel : Nat}

/-! ## Signs and brackets that were passed -/

theorem skipSign_one (h : skipSign [c] ts = some rest) : ∃ j, ts = .sign c j :: rest := by
  cases ts with
  | nil => cases h
  | cons t ts =>
    cases t with
    | sign d j =>
      obtain ⟨rfl, rfl⟩ : c = d ∧ ts = rest := by simpa [skipSign] using h
      exact ⟨j, rfl⟩
    | word | lifetime | literal | opening | closing | doc => cases h

theorem skipSign_two (h : skipSign [c, d] ts = some rest) : ∃ j, ts = .sign c true :: .sign d j :: rest := by
  cases ts with
  | nil => cases h
  | cons t ts =>
    cases t with
    | sign e j =>
      obtain ⟨rfl, rfl, hrest⟩ : j = true ∧ c = e ∧ skipSign [d] ts = some rest := by
        cases j with
        | false => cases h
        | true => simpa [skipSign] using h
      obtain ⟨i, rfl⟩ := skipSign_one hrest
      exact ⟨i, rfl⟩
    | word | lifetime | literal | opening | closing | doc => cases h

theorem closing_eq_some {b : Bracket} (h : closing b ts = some rest) : ts = .closing b :: rest := by
  unfold closing at h
  split at h
  next =>
    split at h
    next hb => rw [hb, Option.some.inj h]
    next => cases h
  next => cases h

/-! ## The tokens of an import -/

/-- Whether what an import names ends before the tokens: at a comma, at a closing brace
or with all of them. -/
def endsTree : List Token → Bool
  | [] => true
  | .sign c _ :: _ => c == ','
  | .closing b :: _ => b == .brace
  | _ => false

/-- What is named ends at a comma or a closing brace, unless with the semicolon. -/
theorem endsTree_initial {j : Bool} (h : endsTree front = true) (heq : front ++ .sign ';' j :: rest = t :: ts) :
    ∃ d, t.initial = some d ∧ d ∈ [',', '}', ';'] := by
  cases front with
  | nil =>
    obtain ⟨rfl, -⟩ := List.cons.inj heq
    exact ⟨';', rfl, by decide⟩
  | cons u front =>
    obtain ⟨rfl, -⟩ := List.cons.inj heq
    cases u with
    | sign d i =>
      obtain rfl : d = ',' := by simpa [endsTree] using h
      exact ⟨',', rfl, by decide⟩
    | closing b =>
      obtain rfl : b = .brace := by simpa [endsTree] using h
      exact ⟨'}', rfl, by decide⟩
    | word | lifetime | literal | opening | doc => cases h

/-- Whether a token can stand in an import, whatever follows it. -/
def Token.named : Token → Bool
  | .word w => w != "as" && w != "use"
  | .sign c _ => c != ';'
  | .opening _ | .closing _ => true
  | .lifetime _ | .literal _ | .doc .. => false

theorem Token.isPlain_of_named (h : t.named = true) : t.isPlain = true := by
  cases t with
  | word | sign | opening | closing => rfl
  | lifetime | literal | doc => cases h

/-- A token of an import and those behind it: if it is an `as`, one name follows, with
which what is named ends. -/
def Names (t : Token) (later : List Token) : Prop :=
  t.named = true ∨ t = .word "as" ∧ ∃ y end_, later = .word y :: end_ ∧ (isName y || y == "_") = true ∧ endsTree end_ = true

/-- The tokens of what an import names. -/
def ImportTokens : List Token → Prop
  | [] => True
  | t :: ts => Names t ts ∧ ImportTokens ts

theorem endsTree_append (hf : endsTree front = true) (hb : endsTree back = true) : endsTree (front ++ back) = true := by
  cases front with
  | nil => exact hb
  | cons t front =>
    cases t with
    | sign | closing => exact hf
    | word | lifetime | literal | opening | doc => cases hf

theorem ImportTokens.append (hf : ImportTokens front) (hb : ImportTokens back) (hend : endsTree back = true) :
    ImportTokens (front ++ back) := by
  induction front with
  | nil => exact hb
  | cons t front ih =>
    obtain ⟨ht, hfront⟩ := hf
    refine ⟨ht.imp_right ?_, ih hfront⟩
    rintro ⟨has, y, later, rfl, hy, hlater⟩
    exact ⟨has, y, later ++ back, rfl, hy, endsTree_append hlater hend⟩

theorem ImportTokens.names (h : ImportTokens (front ++ t :: back)) : Names t back := by
  induction front with
  | nil => exact h.1
  | cons _ front ih => exact ih h.2

/-- The tokens up to the rest are those of what an import names. -/
def Takes (ts rest : List Token) : Prop := ∃ used, ts = used ++ rest ∧ ImportTokens used

theorem Takes.refl (ts : List Token) : Takes ts ts := ⟨[], rfl, trivial⟩

theorem Takes.cons (h : Takes ts rest) (ht : t.named = true) : Takes (t :: ts) rest := by
  obtain ⟨used, rfl, hused⟩ := h
  exact ⟨t :: used, rfl, .inl ht, hused⟩

/-- Further names behind a comma, or the end of a group. -/
theorem Takes.trans (h : Takes ts (t :: mid)) (hend : endsTree [t] = true) (hmid : Takes mid rest) : Takes ts rest := by
  have ht : t.named = true := by
    cases t with
    | sign c j =>
      obtain rfl : c = ',' := by simpa [endsTree] using hend
      rfl
    | closing => rfl
    | word | lifetime | literal | opening | doc => cases hend
  obtain ⟨used, rfl, hused⟩ := h
  obtain ⟨later, rfl, hlater⟩ := hmid
  refine ⟨used ++ t :: later, by simp, hused.append ⟨.inl ht, hlater⟩ ?_⟩
  cases t with
  | sign | closing => exact hend
  | word | lifetime | literal | opening | doc => cases hend

theorem readList_takes {read : Reader α} (hread : ∀ ts x rest, read ts = some (x, rest) → Takes ts rest) {n : Nat}
    {r : List α × Bool} (h : readList read .brace n ts = some (r, rest)) : Takes ts rest := by
  induction n generalizing ts r with
  | zero => cases h
  | succ n ih =>
    unfold readList at h
    split at h
    next hclose =>
      obtain ⟨-, rfl⟩ := Prod.mk.inj (Option.some.inj h)
      rw [closing_eq_some hclose]
      exact (Takes.refl _).cons rfl
    next =>
      obtain ⟨⟨x, mid⟩, hx, h⟩ := Option.bind_eq_some_iff.1 h
      have htakes := hread _ _ _ hx
      dsimp only at h
      split at h
      next hclose =>
        obtain ⟨-, rfl⟩ := Prod.mk.inj (Option.some.inj h)
        rw [closing_eq_some hclose] at htakes
        exact htakes.trans rfl (.refl _)
      next =>
        obtain ⟨later, hcomma, h⟩ := Option.bind_eq_some_iff.1 h
        obtain ⟨⟨⟨xs, comma⟩, after⟩, hlater, heq⟩ := Option.bind_eq_some_iff.1 h
        obtain ⟨-, rfl⟩ := Prod.mk.inj (Option.some.inj heq)
        obtain ⟨j, rfl⟩ := skipSign_one hcomma
        exact htakes.trans rfl (ih hlater)

theorem named_word (h : isName x = true ∨ x ∈ "_" :: pathWords) : (Token.word x).named = true := by
  have hne : x ≠ "as" ∧ x ≠ "use" := by
    constructor <;> (rintro rfl; revert h; decide)
  simpa [Token.named] using hne

theorem readUseTree_takes {tree : UseTree} (h : readUseTree fuel ts = some (tree, rest)) : Takes ts rest := by
  induction fuel generalizing ts tree rest with
  | zero => cases h
  | succ fuel ih =>
    unfold readUseTree at h
    split at h
    next s ts =>
      split at h
      next hs =>
        have has : (Token.word s).named = true :=
          named_word ((Bool.or_eq_true_iff.1 hs).imp_right fun h => List.mem_cons_of_mem _ (List.contains_iff_mem.1 h))
        split at h
        next hcolons =>
          obtain ⟨⟨_, _⟩, htree, heq⟩ := Option.map_eq_some_iff.1 h
          obtain ⟨-, rfl⟩ := Prod.mk.inj heq
          obtain ⟨j, rfl⟩ := skipSign_two hcolons
          exact (((ih htree).cons rfl).cons rfl).cons has
        next =>
          split at h
          next y ts _ =>
            split at h
            next hy =>
              obtain ⟨-, rfl⟩ := Prod.mk.inj (Option.some.inj h)
              have hy' : (Token.word y).named = true :=
                named_word ((Bool.or_eq_true_iff.1 hy).imp_right fun h => by simp [beq_iff_eq.1 h])
              exact ⟨[.word s, .word "as", .word y], rfl, .inl has, .inr ⟨rfl, y, [], rfl, hy, rfl⟩, .inl hy', trivial⟩
            next => cases h
          next => cases h
          next =>
            obtain ⟨-, rfl⟩ := Prod.mk.inj (Option.some.inj h)
            exact (Takes.refl _).cons has
      next => cases h
    next =>
      obtain ⟨⟨_, _⟩, hlist, heq⟩ := Option.map_eq_some_iff.1 h
      obtain ⟨-, rfl⟩ := Prod.mk.inj heq
      exact (readList_takes (fun _ _ _ => ih) hlist).cons rfl
    next =>
      obtain ⟨_, hstar, heq⟩ := Option.map_eq_some_iff.1 h
      obtain ⟨-, rfl⟩ := Prod.mk.inj heq
      obtain ⟨j, rfl⟩ := skipSign_one hstar
      exact (Takes.refl _).cons rfl

/-- Behind the first name of an import comes a path, another name, or the end. -/
theorem readUseTree_second {tree : UseTree} {j : Bool} (h : readUseTree fuel (.word x :: ts) = some (tree, .sign ';' j :: rest)) :
    ∃ t later, ts = t :: later ∧ (t.initial = some ':' ∨ t = .word "as" ∨ t.isSemicolon = true) := by
  cases fuel with
  | zero => cases h
  | succ fuel =>
    unfold readUseTree at h
    dsimp only at h
    split at h
    next =>
      split at h
      next hcolons =>
        obtain ⟨i, rfl⟩ := skipSign_two hcolons
        exact ⟨_, _, rfl, .inl rfl⟩
      next =>
        split at h
        next => exact ⟨_, _, rfl, .inr (.inl rfl)⟩
        next => cases h
        next =>
          obtain ⟨-, rfl⟩ := Prod.mk.inj (Option.some.inj h)
          exact ⟨_, _, rfl, .inr (.inr rfl)⟩
    next => cases h

/-- What an import names is read up to the semicolon. -/
theorem readItem_use (h : readItem fuel (.word "use" :: .word x :: ts) = some (item, rest)) :
    ∃ n tree j, readUseTree n (.word x :: ts) = some (tree, .sign ';' j :: rest) := by
  match fuel with
  | 0 | 1 => cases h
  | fuel + 2 =>
    have hattributes : readAttributes false (fuel + 1) (.word "use" :: .word x :: ts) = some ([], .word "use" :: .word x :: ts) := rfl
    have hvisibility : readVisibility (.word "use" :: .word x :: ts) = (.inherited, .word "use" :: .word x :: ts) := rfl
    have hglobal : optionalSign "::" (.word x :: ts) = (false, .word x :: ts) := rfl
    unfold readItem at h
    simp only [hattributes, hvisibility, Option.bind_eq_bind, Option.bind_some] at h
    obtain ⟨⟨kind, after⟩, hkind, heq⟩ := Option.bind_eq_some_iff.1 h
    obtain ⟨-, rfl⟩ := Prod.mk.inj (Option.some.inj heq)
    unfold readKind at hkind
    simp only [hglobal] at hkind
    obtain ⟨⟨tree, mid⟩, htree, hkind⟩ := Option.bind_eq_some_iff.1 hkind
    obtain ⟨_, hend, heq⟩ := Option.bind_eq_some_iff.1 hkind
    obtain ⟨-, rfl⟩ := Prod.mk.inj (Option.some.inj heq)
    obtain ⟨j, rfl⟩ := skipSign_one hend
    exact ⟨fuel, tree, j, htree⟩

/-- A token before the first semicolon of an import is one of those it names with; behind
an `as` comes one name, with which what is named ends. -/
theorem Takes.names {j : Bool} (h : Takes (front ++ t :: back) (.sign ';' j :: rest))
    (hfront : ∀ t ∈ front, t.isSemicolon = false) (ht : t.isSemicolon = false) : t.named = true ∨
      t = .word "as" ∧ ∃ y end_, back = .word y :: (end_ ++ .sign ';' j :: rest) ∧ (isName y || y == "_") = true ∧
        endsTree end_ = true := by
  obtain ⟨used, heq, hused⟩ := h
  -- The semicolon is not among the tokens in front, nor is it this one.
  obtain ⟨later, rfl, rfl⟩ : ∃ later, used = front ++ t :: later ∧ back = later ++ .sign ';' j :: rest := by
    obtain ⟨mid, hfront', hmid⟩ | ⟨mid, rfl, hmid⟩ := List.append_eq_append_iff.1 heq
    · cases mid with
      | nil =>
        obtain ⟨rfl, -⟩ := List.cons.inj hmid
        cases ht
      | cons u mid =>
        obtain ⟨rfl, rfl⟩ := List.cons.inj hmid
        exact ⟨mid, hfront', rfl⟩
    · cases mid with
      | nil =>
        obtain ⟨rfl, -⟩ := List.cons.inj hmid
        cases ht
      | cons u mid =>
        obtain ⟨rfl, rfl⟩ := List.cons.inj hmid
        cases hfront (.sign ';' j) (by simp)
  obtain ht | ⟨has, y, end_, rfl, hy, hend⟩ := hused.names
  · exact .inl ht
  · exact .inr ⟨has, y, end_, rfl, hy, hend⟩

/-- So there is no text in it that documents or is a literal, and no word that begins
an import. -/
theorem Takes.no_other {j : Bool} (h : Takes (front ++ t :: back) (.sign ';' j :: rest))
    (hfront : ∀ t ∈ front, t.isSemicolon = false) : t.isPlain = true ∧ t ≠ .word "use" := by
  cases ht : t.isSemicolon with
  | true =>
    cases t with
    | sign => exact ⟨rfl, nofun⟩
    | word | lifetime | literal | opening | closing | doc => cases ht
  | false =>
    obtain hnamed | ⟨rfl, -⟩ := h.names hfront ht
    · exact ⟨Token.isPlain_of_named hnamed, by rintro rfl; cases hnamed⟩
    · exact ⟨rfl, by decide⟩

end Retag.Code
