/-
What can be seen of a tag set. Every view of a set shows the pairs that its keys
look up, and nothing else: `TagSet.coherent` says so of each view, and that the
ordered ones are in strictly ascending order of the bytes of the keys.

All of it comes from one fact about the pairs themselves (`TagSet.presents_pairs`),
because the keys, the tags and the members of the text are made of the pairs one
by one and in order. The hashed map alone is put together anew; its order says
nothing, so only what it holds is compared.
-/
import Mathlib.Data.Set.Card
import Retag.Proofs.TagSet.Supply
import Retag.Proofs.TagSet.Text
import Retag.Proofs.Text.ByteOrder

namespace Retag

/-- A tag with a smaller key comes first, whatever the values are. -/
theorem Tag.compare_of_key_lt {a b : Tag} (h : a.key < b.key) : a.compare b = .lt := by
  have hkey : Ord.compare a.key b.key = .lt := if_pos h
  rw [Tag.compare, hkey, Ordering.lt_then]

namespace TagSet

/-- A list presents a set: its keys ascend by their bytes, so that none is listed
twice, and its pairs are those that the keys look up. -/
structure Presents (s : TagSet) (list : List (String × String)) : Prop where
  ascending : (list.map fun p => Text.bytes p.1).Pairwise (· < ·)
  mem : ∀ k v, (k, v) ∈ list ↔ s.get? k = some v

/-- All views of a set agree with what its keys look up. -/
structure Coherent (s : TagSet) : Prop where
  /-- Going through the set, by value or by reference. -/
  pairs : s.Presents s.pairs
  keys_ascending : (s.keys.map Text.bytes).Pairwise (· < ·)
  keys : ∀ k, k ∈ s.keys ↔ s.get? k ≠ none
  map : ∀ k v, (k, v) ∈ s.map.entries ↔ s.get? k = some v
  tags : s.Presents (s.toTags.map fun t => (t.key, t.value))
  tags_ascending : s.toTags.Pairwise fun a b => a.compare b = .lt
  /-- The text is an object of texts. -/
  text : ∃ list, s.Presents list ∧ Json.parse s.text = .ok (.object (list.map fun p => (p.1, .string p.2)))
  size : s.size = {k | s.get? k ≠ none}.ncard
  isEmpty : s.isEmpty = true ↔ ∀ k, s.get? k = none

variable (s : TagSet)

theorem presents_pairs : s.Presents s.pairs where
  ascending := List.pairwise_map.2 (s.ascending.imp Text.bytes_lt)
  mem _ _ := get?_eq_some_iff.symm

theorem keys_ascending : (s.keys.map Text.bytes).Pairwise (· < ·) := by
  rw [keys, List.map_map]
  exact s.presents_pairs.ascending

theorem mem_keys_iff_ne_none {k : String} : k ∈ s.keys ↔ s.get? k ≠ none := by
  rw [mem_keys_iff, ← Option.ne_none_iff_exists']

theorem toTags_pairs : (s.toTags.map fun t => (t.key, t.value)) = s.pairs := by
  simp [toTags, Function.comp_def]

theorem toTags_ascending : s.toTags.Pairwise fun a b => a.compare b = .lt :=
  List.pairwise_map.2 (s.ascending.imp Tag.compare_of_key_lt)

/-- The map holds each pair of the set once, and no others. -/
theorem mem_map_entries {k v : String} : (k, v) ∈ s.map.entries ↔ s.get? k = some v := by
  rw [← Keyed.get?_eq_some_iff_of_nodup s.map.distinct]
  change (HashedMap.ofList s.pairs).get? k = some v ↔ _
  rw [HashedMap.get?_ofList, Keyed.last?_of_nodup (Keyed.keys_nodup s.ascending)]
  rfl

theorem size_eq_ncard : s.size = {k | s.get? k ≠ none}.ncard := by
  have hset : {k | s.get? k ≠ none} = (s.keys.toFinset : Set String) := by
    ext k
    rw [List.coe_toFinset]
    exact s.mem_keys_iff_ne_none.symm
  rw [hset, Set.ncard_coe_finset, List.toFinset_card_of_nodup s.keys_nodup, keys, List.length_map, size]

theorem isEmpty_iff_get? : s.isEmpty = true ↔ ∀ k, s.get? k = none := by
  rw [isEmpty_iff]
  exact ⟨fun h k => h ▸ get?_empty, fun h => ext_get? h⟩

theorem coherent : s.Coherent where
  pairs := s.presents_pairs
  keys_ascending := s.keys_ascending
  keys _ := s.mem_keys_iff_ne_none
  map _ _ := s.mem_map_entries
  tags := s.toTags_pairs.symm ▸ s.presents_pairs
  tags_ascending := s.toTags_ascending
  text := ⟨s.pairs, s.presents_pairs, Json.parse_compact s.plain_toJson⟩
  size := s.size_eq_ncard
  isEmpty := s.isEmpty_iff_get?

end TagSet

end Retag
