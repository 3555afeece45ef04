/-
A JSON value as a reader returns it. The members of an object that is read are in
ascending order and have distinct names; an object that is written may list them
in any order. `Json.ordered` is what is left of that difference: a value is read
from its text as `v.ordered`, and the values that are their own `ordered` are
those whose members ascend. Whatever a text is, the value that it writes is one of
these (`parse_ordered`).
-/
import Retag.Json.Reader
import Retag.Proofs.Keyed

namespace Retag.Json

mutual

/-- The value with the members of every object in ascending order; of two with one
name the later wins. -/
def ordered : Json → Json
  | .null => .null
  | .bool b => .bool b
  | .number n => .number n
  | .string s => .string s
  | .array items => .array (orderedItems items)
  | .object members => ofMembers (orderedMembers members)

def orderedItems : List Json → List Json
  | [] => []
  | v :: rest => ordered v :: orderedItems rest

def orderedMembers : List (String × Json) → List (String × Json)
  | [] => []
  | (k, v) :: rest => (k, ordered v) :: orderedMembers rest

end

@[simp] theorem ordered_null : ordered .null = .null := by rw [ordered]

@[simp] theorem ordered_bool (b : Bool) : ordered (.bool b) = .bool b := by rw [ordered]

@[simp] theorem ordered_number (n : JsonNumber) : ordered (.number n) = .number n := by rw [ordered]

@[simp] theorem ordered_string (s : String) : ordered (.string s) = .string s := by rw [ordered]

theorem orderedItems_eq (l : List Json) : orderedItems l = l.map ordered := by
  induction l with
  | nil => rw [orderedItems, List.map_nil]
  | cons v l ih => rw [orderedItems, ih, List.map_cons]

theorem orderedMembers_eq (l : List (String × Json)) : orderedMembers l = l.map fun m => (m.1, m.2.ordered) := by
  induction l with
  | nil => rw [orderedMembers, List.map_nil]
  | cons m l ih => rw [orderedMembers, ih, List.map_cons]

@[simp] theorem ordered_array (l : List Json) : ordered (.array l) = .array (l.map ordered) := by
  rw [ordered, orderedItems_eq]

@[simp] theorem ordered_object (l : List (String × Json)) :
    ordered (.object l) = ofMembers (l.map fun m => (m.1, m.2.ordered)) := by
  rw [ordered, orderedMembers_eq]

theorem ofMembers_of_ascending {l : List (String × Json)} (h : Keyed.Ascending l) : ofMembers l = .object l := by
  rw [ofMembers, Keyed.ofList_of_ascending h]

theorem map_ordered_items {l : List Json} (h : ∀ v ∈ l, v.ordered = v) : l.map ordered = l := by
  rw [List.map_congr_left h, List.map_id']

theorem map_ordered_members {l : List (String × Json)} (h : ∀ m ∈ l, m.2.ordered = m.2) :
    (l.map fun m => (m.1, m.2.ordered)) = l := by
  have hmember : ∀ m ∈ l, (m.1, m.2.ordered) = m := fun m hm => by rw [h m hm]
  rw [List.map_congr_left hmember, List.map_id']

/-! ## What is read -/

theorem bind_eq_ok {ε α β : Type} {r : Except ε α} {f : α → Except ε β} {b : β} :
    r >>= f = .ok b ↔ ∃ a, r = .ok a ∧ f a = .ok b := by
  cases r <;> simp [bind, Except.bind]

theorem ordered_ofMembers {l : List (String × Json)} (h : ∀ m ∈ l, m.2.ordered = m.2) :
    (ofMembers l).ordered = ofMembers l := by
  have hlisted : ∀ m ∈ Keyed.ofList l, m.2.ordered = m.2 := fun m hm => h m (Keyed.mem_of_mem_ofList hm)
  rw [ofMembers, ordered_object, map_ordered_members hlisted, ofMembers_of_ascending (Keyed.ofList_ascending l)]

/-- The members of an object in order ascend. -/
theorem ascending_of_ordered {l : List (String × Json)} (h : (Json.object l).ordered = .object l) :
    Keyed.Ascending l := by
  rw [ordered_object, ofMembers, Json.object.injEq] at h
  exact h ▸ Keyed.ofList_ascending _

mutual

theorem readValue_ordered : ∀ {fuel d : Nat} {cur cur' : Cursor} {v : Json},
    readValue fuel d cur = .ok (v, cur') → v.ordered = v
  | 0, _, _, _, _, h => by rw [readValue.eq_def] at h; cases h
  | fuel + 1, d, cur, cur', v, h => by
    rw [readValue.eq_def] at h
    simp only at h
    split at h
    case h_1 => cases h
    -- A null, the truth values, texts and negative numbers have no members.
    case h_2 | h_3 | h_4 | h_5 | h_6 =>
      obtain ⟨⟨_, _⟩, -, h⟩ := bind_eq_ok.1 h
      cases h
      simp
    case h_7 =>
      split at h
      next => cases h
      next =>
        obtain ⟨⟨items, at₁⟩, hitems, h⟩ := bind_eq_ok.1 h
        cases h
        rw [ordered_array, map_ordered_items (readItems_ordered hitems)]
    case h_8 =>
      split at h
      next => cases h
      next =>
        obtain ⟨⟨members, at₁⟩, hmembers, h⟩ := bind_eq_ok.1 h
        cases h
        exact ordered_ofMembers (readMembers_ordered hmembers)
    case h_9 =>
      split at h
      next =>
        obtain ⟨⟨_, _⟩, -, h⟩ := bind_eq_ok.1 h
        cases h
        exact ordered_number _
      next => cases h

theorem readItems_ordered : ∀ {fuel d : Nat} {first : Bool} {cur cur' : Cursor} {l : List Json},
    readItems fuel d first cur = .ok (l, cur') → ∀ v ∈ l, v.ordered = v
  | 0, _, _, _, _, _, h => by rw [readItems] at h; cases h
  | fuel + 1, d, first, cur, cur', l, h => by
    rw [readItems] at h
    obtain ⟨next, -, h⟩ := bind_eq_ok.1 h
    cases next with
    | none => cases h; simp
    | some at₀ =>
      obtain ⟨⟨v, at₁⟩, hvalue, h⟩ := bind_eq_ok.1 h
      obtain ⟨⟨rest, at₂⟩, hrest, h⟩ := bind_eq_ok.1 h
      cases h
      exact List.forall_mem_cons.2 ⟨readValue_ordered hvalue, readItems_ordered hrest⟩

theorem readMembers_ordered : ∀ {fuel d : Nat} {first : Bool} {cur cur' : Cursor} {l : List (String × Json)},
    readMembers fuel d first cur = .ok (l, cur') → ∀ m ∈ l, m.2.ordered = m.2
  | 0, _, _, _, _, _, h => by rw [readMembers] at h; cases h
  | fuel + 1, d, first, cur, cur', l, h => by
    rw [readMembers] at h
    obtain ⟨next, -, h⟩ := bind_eq_ok.1 h
    cases next with
    | none => cases h; simp
    | some at₀ =>
      obtain ⟨⟨k, at₁⟩, -, h⟩ := bind_eq_ok.1 h
      obtain ⟨at₂, -, h⟩ := bind_eq_ok.1 h
      obtain ⟨⟨v, at₃⟩, hvalue, h⟩ := bind_eq_ok.1 h
      obtain ⟨⟨rest, at₄⟩, hrest, h⟩ := bind_eq_ok.1 h
      cases h
      exact List.forall_mem_cons.2 ⟨readValue_ordered hvalue, readMembers_ordered hrest⟩

end

/-- The value that a text writes is in order. -/
theorem parse_ordered {text : String} {v : Json} (h : parse text = .ok v) : v.ordered = v := by
  rw [parse] at h
  obtain ⟨⟨w, cur⟩, hvalue, h⟩ := bind_eq_ok.1 h
  obtain ⟨-, -, h⟩ := bind_eq_ok.1 h
  cases h
  exact readValue_ordered hvalue

end Retag.Json
