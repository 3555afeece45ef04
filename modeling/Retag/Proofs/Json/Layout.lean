/-
One printer for both texts of a JSON value. The compact text and the text with
one item or member a line differ only in the blanks between their parts, so they
are two layouts of one text (`chars_compact`, `chars_pretty`), and what is proved
of the text in every layout holds of both.
-/
import Retag.Json.Printer

namespace Retag.Json

/-- The characters that may stand between the parts of a text. -/
def IsBlank (c : Char) : Prop := c = ' ' ∨ c = '\n' ∨ c = '\t' ∨ c = '\r'

/-- The blanks of a text. -/
structure Layout where
  /-- Before an item, a member or the closing bracket, at each level. -/
  gap : Nat → List Char
  /-- Between a colon and its value. -/
  space : List Char
  gap_blank : ∀ level, ∀ c ∈ gap level, IsBlank c
  space_blank : ∀ c ∈ space, IsBlank c

namespace Layout

def compact : Layout := ⟨fun _ => [], [], by simp, by simp⟩

theorem newLine_blank (level : Nat) : ∀ c ∈ newLine level, IsBlank c := by
  intro c hc
  rcases List.mem_cons.1 hc with rfl | hc
  · exact .inr (.inl rfl)
  · exact .inl (List.eq_of_mem_replicate hc)

def pretty : Layout := ⟨newLine, [' '], newLine_blank, by simp [IsBlank]⟩

end Layout

mutual

/-- The characters of a value in a layout. -/
def chars (L : Layout) (level : Nat) : Json → List Char
  | .null => ['n', 'u', 'l', 'l']
  | .bool true => ['t', 'r', 'u', 'e']
  | .bool false => ['f', 'a', 'l', 's', 'e']
  | .number n => n.text.toList
  | .string s => quoted s
  | .array [] => ['[', ']']
  | .array (v :: rest) =>
    '[' :: (L.gap (level + 1) ++ (items L (level + 1) (v :: rest) ++ (L.gap level ++ [']'])))
  | .object [] => ['{', '}']
  | .object (m :: rest) =>
    '{' :: (L.gap (level + 1) ++ (members L (level + 1) (m :: rest) ++ (L.gap level ++ ['}'])))

def items (L : Layout) (level : Nat) : List Json → List Char
  | [] => []
  | [v] => chars L level v
  | v :: w :: rest => chars L level v ++ ',' :: (L.gap level ++ items L level (w :: rest))

def members (L : Layout) (level : Nat) : List (String × Json) → List Char
  | [] => []
  | [(k, v)] => quoted k ++ ':' :: (L.space ++ chars L level v)
  | (k, v) :: m :: rest =>
    quoted k ++ ':' :: (L.space ++ (chars L level v ++ ',' :: (L.gap level ++ members L level (m :: rest))))

end

/-! ## The two texts -/

mutual

theorem chars_compact (level : Nat) : ∀ v : Json, chars .compact level v = v.compactChars
  | .null => by rw [chars, compactChars]; rfl
  | .bool true => by rw [chars, compactChars]; rfl
  | .bool false => by rw [chars, compactChars]; rfl
  | .number n => by rw [chars, compactChars]
  | .string s => by rw [chars, compactChars]
  | .array [] => by rw [chars, compactChars, compactItems]; rfl
  | .array (v :: rest) => by
    rw [chars, compactChars, items_compact (level + 1) (v :: rest)]; rfl
  | .object [] => by rw [chars, compactChars, compactMembers]; rfl
  | .object (m :: rest) => by
    rw [chars, compactChars, members_compact (level + 1) (m :: rest)]; rfl

theorem items_compact (level : Nat) : ∀ l : List Json, items .compact level l = compactItems l
  | [] => by rw [items, compactItems]
  | [v] => by rw [items, compactItems, chars_compact level v]
  | v :: w :: rest => by
    rw [items, compactItems, chars_compact level v, items_compact level (w :: rest)]; rfl

theorem members_compact (level : Nat) : ∀ l : List (String × Json),
    members .compact level l = compactMembers l
  | [] => by rw [members, compactMembers]
  | [(k, v)] => by rw [members, compactMembers, chars_compact level v]; rfl
  | (k, v) :: m :: rest => by
    rw [members, compactMembers, chars_compact level v, members_compact level (m :: rest)]; rfl

end

mutual

theorem chars_pretty (level : Nat) : ∀ v : Json, chars .pretty level v = v.prettyChars level
  | .null => by rw [chars, prettyChars]; rfl
  | .bool true => by rw [chars, prettyChars]; rfl
  | .bool false => by rw [chars, prettyChars]; rfl
  | .number n => by rw [chars, prettyChars]
  | .string s => by rw [chars, prettyChars]
  | .array [] => by rw [chars, prettyChars]; rfl
  | .array (v :: rest) => by
    rw [chars, prettyChars, items_pretty (level + 1) (v :: rest)]
    simp only [List.append_assoc]; rfl
  | .object [] => by rw [chars, prettyChars]
  | .object (m :: rest) => by
    rw [chars, prettyChars, members_pretty (level + 1) (m :: rest)]
    simp only [List.append_assoc]; rfl

theorem items_pretty (level : Nat) : ∀ l : List Json, items .pretty level l = prettyItems level l
  | [] => by rw [items, prettyItems]
  | [v] => by rw [items, prettyItems, chars_pretty level v]
  | v :: w :: rest => by
    rw [items, prettyItems, chars_pretty level v, items_pretty level (w :: rest)]; rfl

theorem members_pretty (level : Nat) : ∀ l : List (String × Json),
    members .pretty level l = prettyMembers level l
  | [] => by rw [members, prettyMembers]
  | [(k, v)] => by rw [members, prettyMembers, chars_pretty level v]; rfl
  | (k, v) :: m :: rest => by
    rw [members, prettyMembers, chars_pretty level v, members_pretty level (m :: rest)]; rfl

end

end Retag.Json
