/-
Tag sets and their texts. Whatever its keys and values are, a set is read back
from its text, by the reader of objects of texts and by the reader of JSON
values, and from the texts of the other two forms in which tags are listed: pairs
and objects with a key and a value.

The two readers of an object go through its members in the same way; the one for
texts only asks that each value be one (`readPairs_of_readMembers`). So it is
enough to know what the reader of values makes of a text.
-/
import Retag.TagSet.Json
import Retag.Proofs.Json.Reading
import Retag.Proofs.TagSet.Lookup

namespace Retag

namespace Json

/-- Where a value is read that is a text, a text is read. -/
theorem readString_of_readValue {fuel d : Nat} {cur cur' : Cursor} {s : String}
    (h : readValue fuel d cur = .ok (.string s, cur')) : readString cur = .ok (s, cur') := by
  cases fuel with
  | zero => rw [readValue.eq_def] at h; cases h
  | succ fuel =>
    rw [readValue.eq_def] at h
    simp only at h
    split at h
    case h_5 rest hrest =>
      obtain ⟨⟨s', cur₁⟩, hread, h⟩ := bind_eq_ok.1 h
      cases h
      simp only [readString, hrest, hread]
    -- In all other places the value is of another kind.
    all_goals (try split at h)
    all_goals simp [bind_eq_ok, ofMembers] at h

end Json

namespace TagSet

open Json

variable (s : TagSet)

/-- The array of the pairs, each an array of a key and a value. -/
def pairsJson : Json := .array (s.pairs.map fun p => .array [.string p.1, .string p.2])

/-- The array of the tags, each an object with its two fields. -/
def tagsJson : Json := .array (s.toTags.map Tag.toJson)

/-! ## Back to the set -/

theorem ofJson_toJson : ofJson s.toJson = s := by
  have hmembers : (s.pairs.map fun p => (p.1, Json.string p.2)).filterMap member? = s.pairs := by
    rw [List.filterMap_map]
    exact List.filterMap_some
  rw [toJson, ofJson, hmembers, ofList_pairs]

theorem ofJson_pairsJson : ofJson s.pairsJson = s := by
  have hitems : (s.pairs.map fun p => Json.array [.string p.1, .string p.2]).filterMap entry? = s.pairs := by
    rw [List.filterMap_map]
    exact List.filterMap_some
  rw [pairsJson, ofJson, hitems, ofList_pairs]

theorem entry?_tag (t : Tag) : entry? t.toJson = some (t.key, t.value) := by
  have hkey : Text.equalIgnoringCase "key" "key" = true := by decide
  have hvalue : Text.equalIgnoringCase "value" "value" = true := by decide
  have hother : Text.equalIgnoringCase "key" "value" = false := by decide
  simp [ entry?, Tag.toJson, fieldIgnoringCase, hkey, hvalue, hother, Json.string?, Json.tagText?]

theorem ofJson_tagsJson : ofJson s.tagsJson = s := by
  have hitems : (s.toTags.map Tag.toJson).filterMap entry? = s.pairs := by
    rw [toTags, List.map_map, List.filterMap_map]
    simp only [Function.comp_def, entry?_tag]
    exact List.filterMap_some
  rw [tagsJson, ofJson, hitems, ofList_pairs]

/-! ## Plain values -/

theorem plain_toJson : Plain nestingLimit s.toJson := by
  refine .object (List.pairwise_map.2 s.ascending) fun m hm => ?_
  obtain ⟨p, -, rfl⟩ := List.mem_map.1 hm
  exact .string

theorem plain_pairsJson : Plain nestingLimit s.pairsJson := by
  refine .array fun v hv => ?_
  obtain ⟨p, -, rfl⟩ := List.mem_map.1 hv
  refine .array fun w hw => ?_
  obtain rfl | rfl : w = .string p.1 ∨ w = .string p.2 := by simpa using hw
  all_goals exact .string

theorem plain_tagsJson : Plain nestingLimit s.tagsJson := by
  refine .array fun v hv => ?_
  obtain ⟨t, -, rfl⟩ := List.mem_map.1 hv
  have hnames : "key" < "value" := by decide
  refine .object (List.pairwise_pair.2 hnames) fun m hm => ?_
  obtain rfl | rfl : m = ("key", .string t.key) ∨ m = ("value", .string t.value) := by simpa using hm
  all_goals exact .string

/-! ## The reader of objects of texts -/

/-- The members of an object of texts. -/
def textMembers (pairs : List (String × String)) : List (String × Json) := pairs.map fun p => (p.1, .string p.2)

/-- Where members are read whose values are texts, pairs are read. -/
theorem readPairs_of_readMembers {fuel d : Nat} {pairs : List (String × String)} {first : Bool} {cur cur' : Cursor}
    (h : readMembers fuel d first cur = .ok (textMembers pairs, cur')) :
    readPairs fuel first cur = .ok (pairs, cur') := by
  induction fuel generalizing pairs first cur with
  | zero => rw [readMembers] at h; cases h
  | succ fuel ih =>
    rw [readMembers] at h
    obtain ⟨next, hnext, h⟩ := bind_eq_ok.1 h
    rw [readPairs, hnext]
    cases next with
    | none =>
      cases pairs with
      | nil => simpa [textMembers, bind, Except.bind] using h
      | cons p pairs => simp [textMembers] at h
    | some at₀ =>
      -- Both readers read a name, a colon, a value and the other members; they differ in
      -- the value only.
      obtain ⟨⟨k, at₁⟩, hkey, h⟩ := bind_eq_ok.1 h
      obtain ⟨at₂, hcolon, h⟩ := bind_eq_ok.1 h
      obtain ⟨⟨v, at₃⟩, hvalue, h⟩ := bind_eq_ok.1 h
      obtain ⟨⟨rest, at₄⟩, hrest, h⟩ := bind_eq_ok.1 h
      cases pairs with
      | nil => simp [textMembers] at h
      | cons p pairs =>
        simp only [textMembers, List.map_cons, Except.ok.injEq, Prod.mk.injEq, List.cons.injEq] at h
        obtain ⟨⟨⟨rfl, rfl⟩, rfl⟩, rfl⟩ := h
        have hstring := readString_of_readValue hvalue
        simp [bind, Except.bind, hkey, hcolon, hstring, ih hrest]

/-- A set is read from its text in every layout. -/
theorem read_chars (L : Layout) : read (String.ofList (chars L 0 s.toJson)) = .ok s := by
  have htexts : ∀ m ∈ textMembers s.pairs, ReadsBack L 1 nestingLimit m.2 := fun m hm => by
    obtain ⟨p, -, rfl⟩ := List.mem_map.1 hm
    exact readsBack_string p.2
  obtain ⟨t, hchars, hmembers⟩ := readMembers_object htexts
  have hfuel : t.length ≤ fuelFor (String.ofList ('{' :: t)) := by
    rw [fuelFor, String.length_ofList, List.length_cons]; omega
  have hordered : ((textMembers s.pairs).map fun m => (m.1, m.2.ordered)) = textMembers s.pairs := by
    refine map_ordered_members fun m hm => ?_
    obtain ⟨p, -, rfl⟩ := List.mem_map.1 hm
    exact ordered_string p.2
  obtain ⟨p, hread⟩ := hmembers _ (Position.after ⟨1, 0⟩ '{') [] hfuel
  rw [List.append_nil, hordered] at hread
  have hpairs := readPairs_of_readMembers hread
  have hjson : s.toJson = .object (textMembers s.pairs) := rfl
  rw [hjson, hchars, read, Cursor.start, String.toList_ofList, skipBlank_of (by simp [IsBlank])]
  simp only [Cursor.next, hpairs]
  simp [bind, Except.bind, readEnd, Cursor.skipBlank, Cursor.skip, ofList_pairs]

/-- **A set is read back from its text**, as it is from the texts of its pairs and
of its tags, whatever its keys and values are. So no two sets have one text. -/
theorem text_round_trip (s t : TagSet) :
    read s.text = .ok s ∧
    (parse s.text).map ofJson = .ok s ∧
    (parse s.pairsJson.compact).map ofJson = .ok s ∧
    (parse s.tagsJson.compact).map ofJson = .ok s ∧
    (s.text = t.text ↔ s = t) := by
  have hread (s : TagSet) : read s.text = .ok s := by
    rw [text, compact, ← chars_compact 0]
    exact s.read_chars .compact
  refine ⟨hread s, ?_, ?_, ?_, fun h => ?_, fun h => h ▸ rfl⟩
  · rw [text, parse_compact s.plain_toJson, Except.map, ofJson_toJson]
  · rw [parse_compact s.plain_pairsJson, Except.map, ofJson_pairsJson]
  · rw [parse_compact s.plain_tagsJson, Except.map, ofJson_tagsJson]
  · exact Except.ok.inj ((hread s).symm.trans (h ▸ hread t))

end TagSet

end Retag
