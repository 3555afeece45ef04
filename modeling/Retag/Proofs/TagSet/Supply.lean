/-
One set for all the ways to hand tags over.

Whatever a collection is, the set made of it looks up, for each key, the value
of the last pair with that key among the pairs that the collection was filled
with (`get?_ofSupply`). A map has dropped the other pairs before the set is
made, and a hashed one lists what is left in any order; neither changes what a
key looks up, and a set is what its keys look up.
-/
import Retag.Proofs.TagSet.Lookup
import Retag.TagSet.Supply
import Retag.Plan

namespace Retag

namespace HashedMap

theorem get?_put (key value k : String) (entries : List (String × String)) :
    Keyed.get? k (put key value entries) = if k = key then some value else Keyed.get? k entries := by
  induction entries with
  | nil => rfl
  | cons e rest ih =>
    obtain ⟨k', v'⟩ := e
    simp only [put]
    split
    next heq => subst heq; by_cases h : k = key <;> simp [Keyed.get?, h]
    next hne =>
      by_cases h : k = k'
      · have hkk : k ≠ key := fun he => hne (he ▸ h)
        subst h; simp [Keyed.get?, hkk]
      · simp [Keyed.get?, h, ih]

/-- A hashed map keeps the last value that a key is given. -/
theorem get?_ofList (k : String) (pairs : List (String × String)) :
    (ofList pairs).get? k = Keyed.last? k pairs := by
  induction pairs using List.reverseRecOn with
  | nil => rfl
  | append_singleton pairs p ih =>
    have hstep : ofList (pairs ++ [p]) = (ofList pairs).insert p.1 p.2 := by
      rw [ofList, List.foldl_append]
      rfl
    rw [hstep, get?, insert, get?_put, Keyed.last?_append_singleton, ← ih]
    rfl

end HashedMap

/-- The collections that are filled with given pairs, in the order of the pairs:
the pairs themselves, tags for them, or the map that they leave. A hashed map may
go through what it holds in any order. -/
inductive Supply.Holds (pairs : List (String × String)) : Supply → Prop
  | array : Holds pairs (.array pairs.toArray)
  | vector : Holds pairs (.vector pairs.toArray.toVector)
  | sequence : Holds pairs (.sequence pairs)
  | tagArray : Holds pairs (.tagArray (pairs.map fun p => ⟨p.1, p.2⟩).toArray)
  | tagSequence : Holds pairs (.tagSequence (pairs.map fun p => ⟨p.1, p.2⟩))
  | sortedMap : Holds pairs (.sortedMap (Keyed.ofList pairs) (Keyed.ofList_ascending pairs))
  | hashedMap {order : List (String × String)} (all : order.Perm (HashedMap.ofList pairs).entries) :
    Holds pairs (.hashedMap (.ofList pairs) order all)

namespace TagSet

variable {pairs : List (String × String)} {supply : Supply}

theorem ofTags_map (pairs : List (String × String)) :
    ofTags (pairs.map fun p => ⟨p.1, p.2⟩) = ofList pairs := by
  simp [ofTags, Function.comp_def]

/-- Keys look up the last values that the collection was given. -/
theorem get?_ofSupply (h : supply.Holds pairs) (k : String) :
    (ofSupply supply).get? k = Keyed.last? k pairs := by
  cases h with
  | array => exact get?_ofList k pairs
  | vector => exact get?_ofList k pairs
  | sequence => exact get?_ofList k pairs
  | tagArray =>
    rw [ofSupply, List.toList_toArray, ofTags_map]
    exact get?_ofList k pairs
  | tagSequence =>
    rw [ofSupply, ofTags_map]
    exact get?_ofList k pairs
  | sortedMap =>
    have hdistinct := Keyed.keys_nodup (Keyed.ofList_ascending pairs)
    rw [ofSupply, get?_ofList, Keyed.last?_of_nodup hdistinct, Keyed.get?_ofList]
  | @hashedMap order all =>
    have hmap := (HashedMap.ofList pairs).distinct
    have horder : (order.map (·.1)).Nodup := (all.map _).nodup_iff.2 hmap
    rw [ofSupply, get?_ofList, Keyed.last?_of_nodup horder, Keyed.get?_perm hmap all]
    exact HashedMap.get?_ofList k pairs

theorem ofSupply_eq (h : supply.Holds pairs) : ofSupply supply = ofList pairs :=
  ext_get? fun k => by rw [get?_ofSupply h, get?_ofList]

end TagSet

/-- **The way in which tags are handed over does not matter.** All collections
that are filled with the same pairs make one set. In it a key has the value of the
last of the pairs with that key. Sets are equal exactly if all keys look up the
same in both. So a plan is the same whatever the two sets were made of. -/
theorem supplied_alike (pairs : List (String × String)) :
    (∀ supply : Supply, supply.Holds pairs → TagSet.ofSupply supply = TagSet.ofList pairs) ∧
    (∀ k, (TagSet.ofList pairs).get? k = ((pairs.filter (·.1 == k)).getLast?).map (·.2)) ∧
    (∀ a b : TagSet, a = b ↔ ∀ k, a.get? k = b.get? k) ∧
    ∀ (service : Service) (newPairs : List (String × String)) (old old' new new' : Supply),
      old.Holds pairs → old'.Holds pairs → new.Holds newPairs → new'.Holds newPairs →
        plan service (.ofSupply old) (.ofSupply new) = plan service (.ofSupply old') (.ofSupply new') := by
  refine ⟨fun supply h => TagSet.ofSupply_eq h, fun k => TagSet.get?_ofList k pairs, fun a b => ?_, ?_⟩
  · exact ⟨fun h k => h ▸ rfl, TagSet.ext_get?⟩
  · intro service newPairs old old' new new' hold hold' hnew hnew'
    rw [TagSet.ofSupply_eq hold, TagSet.ofSupply_eq hold', TagSet.ofSupply_eq hnew, TagSet.ofSupply_eq hnew']

/-- Two pairs with one key, in a hashed map that is gone through backwards. -/
theorem supplied_alike_hashed :
    ∃ order, ∃ all : order.Perm (HashedMap.ofList [("b", "1"), ("a", "2"), ("b", "3")]).entries,
      order = [("a", "2"), ("b", "3")] ∧
      Supply.Holds [("b", "1"), ("a", "2"), ("b", "3")] (.hashedMap _ order all) ∧
      TagSet.ofSupply (.hashedMap _ order all) = TagSet.ofList [("b", "1"), ("a", "2"), ("b", "3")] ∧
      plan (.resolve "kinesis") (.ofSupply (.hashedMap _ order all)) (.ofSupply (.tagSequence [⟨"c", "4"⟩])) =
        plan (.resolve "kinesis") (.ofSupply (.array #[("b", "1"), ("a", "2"), ("b", "3")]))
          (.ofSupply (.sequence [("c", "4")])) := by
  have all : [("a", "2"), ("b", "3")].Perm (HashedMap.ofList [("b", "1"), ("a", "2"), ("b", "3")]).entries :=
    .swap _ _ _
  obtain ⟨hset, -, -, hplan⟩ := supplied_alike [("b", "1"), ("a", "2"), ("b", "3")]
  exact ⟨_, all, rfl, .hashedMap all, hset _ (.hashedMap all),
    hplan _ [("c", "4")] _ _ _ _ (.hashedMap all) .array .tagSequence .sequence⟩

end Retag
