/-
The collections that tags are handed over in, and the set that each of them
makes.

Every collection is gone through and its pairs are put into the set one after
another, so of two pairs with one key the later wins. A hashed map is gone
through in an order that nobody can rely on; a supply of one carries the order
that it happens to have.
-/
import Retag.TagSet.Basic

namespace Retag

/-- A map whose order says nothing: pairs of which no two have one key. -/
structure HashedMap where
  entries : List (String × String)
  distinct : (entries.map (·.1)).Nodup

namespace HashedMap

/-- Puts a pair in the place of the one with its key, or behind all others. -/
def put (key value : String) : List (String × String) → List (String × String)
  | [] => [(key, value)]
  | (k, v) :: rest => if key = k then (key, value) :: rest else (k, v) :: put key value rest

theorem mem_keys_put {key value k : String} {entries : List (String × String)} :
    k ∈ (put key value entries).map (·.1) ↔ k = key ∨ k ∈ entries.map (·.1) := by
  induction entries with
  | nil => simp [put]
  | cons e rest ih =>
    obtain ⟨k', v'⟩ := e
    simp only [put]
    split
    next heq => simp [heq]
    next => simp only [List.map_cons, List.mem_cons, ih, or_left_comm]

theorem put_distinct {key value : String} {entries : List (String × String)}
    (h : (entries.map (·.1)).Nodup) : ((put key value entries).map (·.1)).Nodup := by
  induction entries with
  | nil => simp [put]
  | cons e rest ih =>
    obtain ⟨k', v'⟩ := e
    obtain ⟨hk', hrest⟩ := List.nodup_cons.1 h
    simp only [put]
    split
    next heq => exact List.nodup_cons.2 ⟨heq ▸ hk', hrest⟩
    next hne =>
      refine List.nodup_cons.2 ⟨fun hm => ?_, ih hrest⟩
      exact (mem_keys_put.1 hm).elim (fun he => hne he.symm) hk'

/-- The map of no pairs. -/
def empty : HashedMap := ⟨[], List.nodup_nil⟩

/-- Sets the value of a key, whether or not it had one. -/
def insert (m : HashedMap) (key value : String) : HashedMap :=
  ⟨put key value m.entries, put_distinct m.distinct⟩

/-- The map that the given pairs leave, put into it one after another. -/
def ofList (pairs : List (String × String)) : HashedMap :=
  pairs.foldl (fun m p => m.insert p.1 p.2) empty

/-- The value of a key. -/
def get? (m : HashedMap) (key : String) : Option String := Keyed.get? key m.entries

def size (m : HashedMap) : Nat := m.entries.length

end HashedMap

/-- A collection of tags. -/
inductive Supply where
  | array (pairs : Array (String × String))
  | vector {n : Nat} (pairs : Vector (String × String) n)
  /-- Pairs as they come, one after another. -/
  | sequence (pairs : List (String × String))
  | tagArray (tags : Array Tag)
  | tagSequence (tags : List Tag)
  | sortedMap (entries : List (String × String)) (ascending : Keyed.Ascending entries)
  /-- A hashed map, gone through in the given order. -/
  | hashedMap (m : HashedMap) (order : List (String × String)) (all : order.Perm m.entries)

namespace TagSet

/-- The set of the tags of a collection. -/
def ofSupply : Supply → TagSet
  | .array pairs => ofList pairs.toList
  | .vector pairs => ofList pairs.toList
  | .sequence pairs => ofList pairs
  | .tagArray tags => ofTags tags.toList
  | .tagSequence tags => ofTags tags
  | .sortedMap entries _ => ofList entries
  | .hashedMap _ order _ => ofList order

/-- The tags of a set as a hashed map. -/
def map (s : TagSet) : HashedMap := .ofList s.pairs

end TagSet

end Retag
