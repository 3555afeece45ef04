/-
Tag sets seen through `TagSet.get?`. A pair is listed exactly if its key looks
up its value, so a set is determined by what its keys look up
(`TagSet.ext_get?`), and each way of leaving tags out is a condition on the
looked-up value: `get?_filter`, and from it `get?_removed`, `get?_updated` and
`get?_withoutPrefixes`.
-/
import Retag.Proofs.Keyed
import Retag.TagSet.Basic

namespace Retag

namespace TagSet

variable {s a b old new : TagSet} {k v : String}

theorem get?_eq_some_iff : s.get? k = some v ↔ (k, v) ∈ s.pairs := Keyed.get?_eq_some_iff s.ascending

theorem get?_eq_none_iff : s.get? k = none ↔ k ∉ s.keys := Keyed.get?_eq_none_iff

theorem mem_keys_iff : k ∈ s.keys ↔ ∃ v, s.get? k = some v := by
  rw [← Option.ne_none_iff_exists', ne_eq, get?_eq_none_iff, not_not]

theorem contains_iff : s.contains k = true ↔ k ∈ s.keys := by
  rw [contains, Option.isSome_iff_exists, mem_keys_iff]

theorem keys_nodup (s : TagSet) : s.keys.Nodup := Keyed.keys_nodup s.ascending

/-- A set is what its keys look up. -/
theorem ext_get? (h : ∀ k, a.get? k = b.get? k) : a = b :=
  TagSet.ext (Keyed.ext_get? a.ascending b.ascending h)

@[simp] theorem get?_empty : empty.get? k = none := rfl

theorem isEmpty_iff : s.isEmpty = true ↔ s = empty := by
  refine ⟨fun h => TagSet.ext (List.isEmpty_iff.1 h), fun h => ?_⟩
  rw [h]; rfl

theorem keys_eq_nil_iff : s.keys = [] ↔ s = empty := by
  rw [keys, List.map_eq_nil_iff, ← List.isEmpty_iff, ← isEmpty_iff]
  rfl

/-- A key has the last value that is listed for it. -/
theorem get?_ofList (k : String) (pairs : List (String × String)) :
    (ofList pairs).get? k = Keyed.last? k pairs := Keyed.get?_ofList k pairs

/-- A set is collected from its pairs in any order. -/
theorem ofList_perm {order : List (String × String)} (h : order.Perm s.pairs) : ofList order = s := by
  refine ext_get? fun k => ?_
  have hdistinct := Keyed.keys_nodup s.ascending
  have horder : (order.map (·.1)).Nodup := (h.map _).nodup_iff.2 hdistinct
  rw [get?_ofList, Keyed.last?_of_nodup horder, Keyed.get?_perm hdistinct h, get?]

theorem ofList_pairs (s : TagSet) : ofList s.pairs = s := ofList_perm (.refl _)

/-! ## Setting tags -/

theorem get?_insert (s : TagSet) (key value k : String) :
    (s.insert key value).get? k = if k = key then some value else s.get? k :=
  Keyed.get?_insert ..

/-- The tags of `s` after those of `t` are set. -/
def overwrite (s t : TagSet) : TagSet := t.pairs.foldl (fun acc p => acc.insert p.1 p.2) s

theorem get?_overwrite (s t : TagSet) (k : String) : (s.overwrite t).get? k = (t.get? k).or (s.get? k) := by
  have hpairs : (s.overwrite t).pairs = t.pairs.foldl (fun acc p => Keyed.insert p.1 p.2 acc) s.pairs :=
    (List.foldl_hom pairs fun _ _ => rfl).symm
  rw [get?, hpairs, Keyed.get?_foldl_insert, Keyed.last?_of_nodup (Keyed.keys_nodup t.ascending), get?, get?]

/-! ## Leaving tags out -/

theorem get?_filter (keep : String → String → Bool) :
    (s.filter keep).get? k = (s.get? k).filter (keep k) := by
  ext v
  rw [Option.filter_eq_some_iff, get?_eq_some_iff, get?_eq_some_iff]
  simp [filter]

theorem get?_removed : (old.removed new).get? k = if new.contains k then none else old.get? k := by
  rw [removed, get?_filter]
  cases old.get? k <;> cases new.contains k <;> simp

theorem get?_updated : (old.updated new).get? k = if old.get? k = new.get? k then none else new.get? k := by
  rw [updated, get?_filter]
  cases hn : new.get? k with
  | none => simp
  | some v => by_cases ho : old.get? k = some v <;> simp [ho]

theorem get?_withoutPrefixes {beginnings : List String} :
    (s.withoutPrefixes beginnings).get? k = if beginnings.any (beginsWith · k) then none else s.get? k := by
  rw [withoutPrefixes, get?_filter]
  cases s.get? k <;> cases beginnings.any (beginsWith · k) <;> rfl

/-- Whether a key belongs to the provider. -/
def isReserved (key : String) : Bool := beginsWith reservedPrefix key

theorem get?_withoutReserved : s.withoutReserved.get? k = if isReserved k then none else s.get? k := by
  rw [withoutReserved, get?_withoutPrefixes, List.any_cons, List.any_nil, Bool.or_false]
  rfl

theorem mem_keys_withoutReserved : k ∈ s.withoutReserved.keys ↔ k ∈ s.keys ∧ isReserved k = false := by
  simp only [mem_keys_iff, get?_withoutReserved]
  cases isReserved k <;> simp

theorem mem_keys_removed : k ∈ (old.removed new).keys ↔ k ∈ old.keys ∧ k ∉ new.keys := by
  rw [← contains_iff (s := new), mem_keys_iff, mem_keys_iff, get?_removed]
  cases new.contains k <;> simp

theorem mem_keys_updated : k ∈ (old.updated new).keys ↔ k ∈ new.keys ∧ old.get? k ≠ new.get? k := by
  rw [mem_keys_iff, mem_keys_iff, get?_updated]
  by_cases h : old.get? k = new.get? k <;> simp [h]

/-- What is removed is not updated. -/
theorem removed_updated_disjoint (old new : TagSet) :
    List.Disjoint (old.removed new).keys (old.updated new).keys := by
  intro k hr hu
  exact (mem_keys_removed.1 hr).2 (mem_keys_updated.1 hu).1

/-- Nothing is removed or updated exactly where the sets agree already. -/
theorem mem_keys_removed_or_updated :
    k ∈ (old.removed new).keys ∨ k ∈ (old.updated new).keys ↔ old.get? k ≠ new.get? k := by
  rw [mem_keys_removed, mem_keys_updated, ← get?_eq_none_iff (s := new), mem_keys_iff, mem_keys_iff]
  cases old.get? k <;> cases new.get? k <;> simp

/-- A set with no reserved key is all the user's. -/
theorem withoutReserved_eq_self (h : ∀ k ∈ s.keys, isReserved k = false) : s.withoutReserved = s := by
  refine ext_get? fun k => ?_
  rw [get?_withoutReserved]
  cases hr : isReserved k with
  | false => rfl
  | true =>
    have hk : k ∉ s.keys := fun hk => by simp [h k hk] at hr
    simp [get?_eq_none_iff.2 hk]

end TagSet

end Retag
