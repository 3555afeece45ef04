/-
Tags and tag sets. A tag set maps tag keys to tag values and lists its pairs in
strictly ascending key order, so two sets are equal as soon as they list the
same pairs, and everything computed from a set is independent of how it was
built.

The two differences of a pair of sets, `TagSet.removed` and `TagSet.updated`,
the batches of a set, `TagSet.chunks`, and the set without the keys of given
beginnings, `TagSet.withoutPrefixes`, are all sub-lists of a set's pairs; that
they ascend is proved once, in `TagSet.filter`, `TagSet.take` and `TagSet.drop`.
-/
import Retag.Keyed

namespace Retag

/-- A key and its value. -/
structure Tag where
  key : String
  value : String
  deriving DecidableEq, Repr

/-- Tags compare by key, then by value. -/
def Tag.compare (a b : Tag) : Ordering :=
  (Ord.compare a.key b.key).then (Ord.compare a.value b.value)

/-- A finite map from tag keys to tag values. -/
structure TagSet where
  /-- The pairs in ascending key order. -/
  pairs : List (String × String)
  ascending : Keyed.Ascending pairs
  deriving DecidableEq

/-- A batch of no tags was asked for. -/
structure InvalidChunkSize where
  size : Nat
  deriving DecidableEq, Repr

def InvalidChunkSize.message (e : InvalidChunkSize) : String :=
  s!"invalid chunk size {e.size}: must be greater than zero"

namespace TagSet

@[ext]
theorem ext {a b : TagSet} (h : a.pairs = b.pairs) : a = b := by
  cases a; cases b; cases h; rfl

/-- The set of no tags. -/
def empty : TagSet := ⟨[], List.Pairwise.nil⟩

instance : Inhabited TagSet := ⟨empty⟩

def size (s : TagSet) : Nat := s.pairs.length

def isEmpty (s : TagSet) : Bool := s.pairs.isEmpty

def get? (s : TagSet) (key : String) : Option String := Keyed.get? key s.pairs

def contains (s : TagSet) (key : String) : Bool := (s.get? key).isSome

/-- Sets the value of a key, whether or not it had one. -/
def insert (s : TagSet) (key value : String) : TagSet :=
  ⟨Keyed.insert key value s.pairs, Keyed.insert_ascending s.ascending⟩

/-- Sets the value of a key, and answers the value it had. -/
def exchange (s : TagSet) (key value : String) : Option String × TagSet :=
  ((Keyed.exchange key value s.pairs).1,
    ⟨(Keyed.exchange key value s.pairs).2,
      Keyed.exchange_snd key value s.pairs ▸ Keyed.insert_ascending s.ascending⟩)

/-- The set of the given pairs; of two pairs with one key the later wins. -/
def ofList (pairs : List (String × String)) : TagSet :=
  ⟨Keyed.ofList pairs, Keyed.ofList_ascending pairs⟩

/-- The set of the given tags; of two tags with one key the later wins. -/
def ofTags (tags : List Tag) : TagSet := ofList (tags.map fun t => (t.key, t.value))

def keys (s : TagSet) : List String := s.pairs.map (·.1)

/-- The tags in ascending key order. -/
def toTags (s : TagSet) : List Tag := s.pairs.map fun p => ⟨p.1, p.2⟩

/-- The tags whose key and value pass a test. -/
def filter (s : TagSet) (keep : String → String → Bool) : TagSet :=
  ⟨s.pairs.filter fun p => keep p.1 p.2, s.ascending.filter _⟩

/-- The first `n` tags. -/
def take (s : TagSet) (n : Nat) : TagSet :=
  ⟨s.pairs.take n, s.ascending.sublist (List.take_sublist n _)⟩

/-- All tags but the first `n`. -/
def drop (s : TagSet) (n : Nat) : TagSet :=
  ⟨s.pairs.drop n, s.ascending.sublist (List.drop_sublist n _)⟩

/-- The tags of `old` whose key `new` does not have. -/
def removed (old new : TagSet) : TagSet :=
  old.filter fun k _ => !new.contains k

/-- The tags of `new` that `old` does not have with the same value. -/
def updated (old new : TagSet) : TagSet :=
  new.filter fun k v => old.get? k != some v

/-- Whether a text begins with another. -/
def beginsWith (beginning text : String) : Bool :=
  beginning.toList.isPrefixOf text.toList

/-- The tags whose key begins with none of the given texts. -/
def withoutPrefixes (s : TagSet) (beginnings : List String) : TagSet :=
  s.filter fun k _ => !beginnings.any (beginsWith · k)

/-- Keys that begin so belong to the provider, not to the user. -/
def reservedPrefix : String := "aws:"

/-- The tags that belong to the user. -/
def withoutReserved (s : TagSet) : TagSet := s.withoutPrefixes [reservedPrefix]

/-- Consecutive batches of `size` tags, the last one possibly shorter. -/
def chunksOf (size : Nat) (size_pos : 0 < size) (s : TagSet) : List TagSet :=
  if s.pairs = [] then [] else s.take size :: chunksOf size size_pos (s.drop size)
termination_by s.pairs.length
decreasing_by
  rename_i h
  have := List.length_pos_iff.2 h
  simp only [drop, List.length_drop]
  omega

/-- Consecutive batches of `size` tags; a set of no tags has no batch, and a
batch of no tags is refused even then. -/
def chunks (s : TagSet) (size : Nat) : Except InvalidChunkSize (List TagSet) :=
  if h : 0 < size then .ok (chunksOf size h s) else .error ⟨size⟩

end TagSet

end Retag
