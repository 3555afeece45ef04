/-
The difference of two sets is a patch, and the least one. Deleting the removed
keys and then setting the updated tags leads from the old set to the new one
(`TagSet.patch`), and whatever else leads there deletes those keys and sets those
tags too.

Both halves follow from one description of all patches between two sets
(`TagSet.patch_eq_iff`): besides the difference itself a patch may set tags that
the old set has already, and may delete any key that it sets again or that
neither set has.
-/
import Mathlib.Data.Set.Basic
import Retag.Proofs.TagSet.Lookup

namespace Retag.TagSet

variable {old new s t : TagSet} {k v : String} {deleted : Set String} [DecidablePred (· ∈ deleted)]

/-- The tags of `s` after some keys are deleted and then the tags of `t` are set. -/
def patch (s : TagSet) (deleted : Set String) [DecidablePred (· ∈ deleted)] (t : TagSet) : TagSet :=
  (s.filter fun k _ => k ∉ deleted).overwrite t

theorem get?_patch : (s.patch deleted t).get? k = (t.get? k).or (if k ∈ deleted then none else s.get? k) := by
  have hleft : (s.get? k).filter (fun _ => k ∉ deleted) = if k ∈ deleted then none else s.get? k := by
    by_cases hk : k ∈ deleted <;> cases s.get? k <;> simp [hk]
  rw [patch, get?_overwrite, get?_filter, hleft]

/-! ## What the difference holds -/

theorem get?_removed_eq_some_iff : (old.removed new).get? k = some v ↔ old.get? k = some v ∧ new.get? k = none := by
  rw [get?_removed, contains]
  cases new.get? k <;> simp

theorem get?_updated_eq_some_iff : (old.updated new).get? k = some v ↔ new.get? k = some v ∧ old.get? k ≠ some v := by
  rw [get?_updated]
  by_cases h : old.get? k = new.get? k
  · rw [if_pos h, h]
    simp
  · rw [if_neg h]
    refine ⟨fun hv => ⟨hv, fun ho => h (ho.trans hv.symm)⟩, fun hv => hv.1⟩

theorem subset_pairs_iff : s.pairs ⊆ t.pairs ↔ ∀ k v, s.get? k = some v → t.get? k = some v := by
  simp only [get?_eq_some_iff]
  exact ⟨fun h k v hm => h hm, fun h p hp => h p.1 p.2 hp⟩

/-! ## All patches -/

section Patches

variable (h : old.patch deleted t = new)
include h

theorem get?_of_patch (k : String) : new.get? k = (t.get? k).or (if k ∈ deleted then none else old.get? k) := by
  rw [← h, get?_patch]

/-- A patch to `new` deletes what is removed. -/
theorem deletes_removed (hk : k ∈ (old.removed new).keys) : k ∈ deleted := by
  obtain ⟨hold, hnew⟩ := mem_keys_removed.1 hk
  obtain ⟨v, hv⟩ := mem_keys_iff.1 hold
  have hnone := (get?_of_patch h k).symm.trans (get?_eq_none_iff.2 hnew)
  rw [Option.or_eq_none_iff, hv] at hnone
  by_contra hkept
  simp [hkept] at hnone

/-- And it sets what is updated. -/
theorem sets_updated (hv : (old.updated new).get? k = some v) : t.get? k = some v := by
  obtain ⟨hnew, hold⟩ := get?_updated_eq_some_iff.1 hv
  have hsome := (get?_of_patch h k).symm.trans hnew
  rw [Option.or_eq_some_iff] at hsome
  rcases hsome with hset | ⟨-, hkept⟩
  · exact hset
  · split at hkept
    next => cases hkept
    next => exact absurd hkept hold

/-- It sets tags of `new` only. -/
theorem sets_new (hv : t.get? k = some v) : new.get? k = some v := by
  rw [get?_of_patch h k, hv, Option.some_or]

/-- A key of `new` that it deletes it sets again. -/
theorem sets_deleted (hk : k ∈ deleted) (hnew : k ∈ new.keys) : k ∈ t.keys := by
  obtain ⟨v, hv⟩ := mem_keys_iff.1 hnew
  rw [get?_of_patch h k, if_pos hk, Option.or_none] at hv
  exact mem_keys_iff.2 ⟨v, hv⟩

end Patches

/-- The patches from `old` to `new`. They contain the difference; they set tags of
`new` only, and of its keys they delete only those that they set again. -/
theorem patch_eq_iff : old.patch deleted t = new ↔
    (∀ k ∈ (old.removed new).keys, k ∈ deleted) ∧ (old.updated new).pairs ⊆ t.pairs ∧
      t.pairs ⊆ new.pairs ∧ ∀ k ∈ deleted, k ∈ new.keys → k ∈ t.keys := by
  rw [subset_pairs_iff, subset_pairs_iff]
  constructor
  · intro h
    exact ⟨fun k => deletes_removed h, fun k v => sets_updated h, fun k v => sets_new h, fun k => sets_deleted h⟩
  · rintro ⟨hremoved, hupdated, hset, hdeleted⟩
    refine ext_get? fun k => ?_
    rw [get?_patch]
    cases ht : t.get? k with
    | some v => rw [hset k v ht, Option.some_or]
    | none =>
      have hunset : k ∉ t.keys := get?_eq_none_iff.1 ht
      rw [Option.none_or]
      split
      next hk => exact (get?_eq_none_iff.2 fun hnew => hunset (hdeleted k hk hnew)).symm
      next hk =>
        -- A key that is neither set nor deleted is outside the difference.
        by_contra hne
        rcases mem_keys_removed_or_updated.2 hne with hgone | hup
        · exact hk (hremoved k hgone)
        · obtain ⟨v, hv⟩ := mem_keys_iff.1 hup
          exact hunset (mem_keys_iff.2 ⟨v, hupdated k v hv⟩)

/-- **The difference is the least patch.** The removed tags are those of the old set
whose keys the new one lacks, with their old values, and the updated ones those of
the new set that the old one does not have, with their new values; no key is in
both. Deleting the former and setting the latter leads exactly to the new set. The
deletions and tags that lead there are those that contain the difference, set tags
of the new set only, and delete no key of it that they do not set. -/
theorem difference_least (old new : TagSet) :
    (∀ k v, (old.removed new).get? k = some v ↔ old.get? k = some v ∧ new.get? k = none) ∧
    (∀ k v, (old.updated new).get? k = some v ↔ new.get? k = some v ∧ old.get? k ≠ some v) ∧
    List.Disjoint (old.removed new).keys (old.updated new).keys ∧
    old.patch {k | k ∈ (old.removed new).keys} (old.updated new) = new ∧
    ∀ (deleted : Set String) [DecidablePred (· ∈ deleted)] (t : TagSet), old.patch deleted t = new ↔
      (∀ k ∈ (old.removed new).keys, k ∈ deleted) ∧ (old.updated new).pairs ⊆ t.pairs ∧
        t.pairs ⊆ new.pairs ∧ ∀ k ∈ deleted, k ∈ new.keys → k ∈ t.keys := by
  refine ⟨fun k v => get?_removed_eq_some_iff, fun k v => get?_updated_eq_some_iff, removed_updated_disjoint old new,
    patch_eq_iff.2 ⟨fun k hk => hk, List.Subset.refl _, ?_, fun k hk hnew => ?_⟩, fun deleted _ t => patch_eq_iff⟩
  · exact subset_pairs_iff.2 fun k v hv => (get?_updated_eq_some_iff.1 hv).1
  · exact absurd hnew (mem_keys_removed.1 hk).2

/-- A tag to drop, one to change, one to keep and one to add. A patch that also sets
the kept tag leads to the new set as well, so it contains the difference. -/
theorem difference_least_redundant :
    let old := TagSet.ofList [("a", "1"), ("b", "1"), ("c", "1")]
    let new := TagSet.ofList [("b", "2"), ("c", "1"), ("d", "1")]
    old.patch {k | k ∈ ["a", "c", "z"]} new = new ∧
      (∀ k ∈ (old.removed new).keys, k ∈ ["a", "c", "z"]) ∧ (old.updated new).pairs ⊆ new.pairs := by
  intro old new
  have hpatch : old.patch {k | k ∈ ["a", "c", "z"]} new = new := by decide +kernel
  obtain ⟨-, -, -, -, hall⟩ := difference_least old new
  obtain ⟨hremoved, hupdated, -, -⟩ := (hall {k | k ∈ ["a", "c", "z"]} new).1 hpatch
  exact ⟨hpatch, hremoved, hupdated⟩

end Retag.TagSet
