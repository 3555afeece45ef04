/-
Running the calls of a plan: all of them in their order, only some of them, or
in another order. In their order they bring a resource from the old tags to the
new ones and leave the provider's keys alone (`plan_reaches_new`). Stopped
anywhere, or shuffled, they leave each key as it was or as it is to be, and all
of them lead to one state in every order (`plan_any_order`), since no two calls
share a key.
-/
import Retag.Proofs.Plan.Effects
import Mathlib.Data.List.Perm.Subperm

namespace Retag

open TagSet (isReserved)

/-- A resource that had the tags of `old` has the user's tags of `new`, and its
reserved tags as before. -/
def IsUpdated (old new : TagSet) (r : Resource) : Prop :=
  ∀ k, r k = if isReserved k then old.get? k else new.get? k

theorem resolve_batchSize (name : String) : (Service.resolve name).batchSize ≠ some 0 := by
  simp only [Service.resolve]
  split
  next => simp
  next h => simpa using h

/-- Once the touched keys have their new values, the resource is updated. -/
theorem isUpdated_of_touched {old new : TagSet} {r : Resource}
    (h : ∀ k, r k = if old.get? k ≠ new.get? k ∧ isReserved k = false then new.get? k else old.get? k) :
    IsUpdated old new r := by
  intro k
  rw [h k]
  by_cases he : old.get? k = new.get? k <;> cases isReserved k <;> simp [he]

/-- **A plan leads to the new tags.** Every service without a batch size of zero,
and so every service of the registry and every name besides, has a plan, and
its calls in their order bring the resource to the new tags on the user's keys
and leave the reserved keys as they were. -/
theorem plan_reaches_new (old new : TagSet) :
    (∀ service : Service, service.batchSize ≠ some 0 → ∃ calls, plan service old new = .ok calls ∧
      IsUpdated old new (calls.foldl PlannedCall.apply old.resource)) ∧
    ∀ name, ∃ calls, plan (Service.resolve name) old new = .ok calls ∧
      IsUpdated old new (calls.foldl PlannedCall.apply old.resource) := by
  have key : ∀ service : Service, service.batchSize ≠ some 0 → ∃ calls, plan service old new = .ok calls ∧
      IsUpdated old new (calls.foldl PlannedCall.apply old.resource) := by
    intro service h
    obtain ⟨calls, hplan, hlead, htouched⟩ := plan_spec h old new
    refine ⟨calls, hplan, isUpdated_of_touched fun k => ?_⟩
    rw [PlannedCall.foldl_apply hlead, htouched]
    simp only [mem_touched]
    rfl
  exact ⟨key, fun name => key _ (resolve_batchSize name)⟩

/-- A service that takes ten tags in a call, and a resource with a tag of the
provider's. -/
theorem plan_reaches_new_in_batches :
    (Service.resolve "kinesis").batchSize ≠ some 0 ∧
      ∃ calls, plan (Service.resolve "kinesis") (TagSet.ofList [("aws:stack", "s"), ("a", "1")])
          (TagSet.ofList [("a", "2"), ("b", "2")]) = .ok calls ∧
        IsUpdated (TagSet.ofList [("aws:stack", "s"), ("a", "1")]) (TagSet.ofList [("a", "2"), ("b", "2")])
          (calls.foldl PlannedCall.apply (TagSet.ofList [("aws:stack", "s"), ("a", "1")]).resource) :=
  ⟨by decide, (plan_reaches_new _ _).1 _ (by decide)⟩

/-- What makes calls safe to stop and to shuffle. -/
structure SafeInAnyOrder (old new : TagSet) (calls : List PlannedCall) : Prop where
  /-- No key is touched by two calls. -/
  apart : calls.Pairwise fun c d => List.Disjoint c.touched d.touched
  /-- No call both deletes and sets a key. -/
  coherent : ∀ c ∈ calls, List.Disjoint c.deletes c.sets.keys
  /-- Some of the calls, in any order, leave each key as it was or as it is to be. -/
  oldOrNew : ∀ run : List PlannedCall, run.Subperm calls → ∀ k,
    run.foldl PlannedCall.apply old.resource k = old.get? k ∨
      run.foldl PlannedCall.apply old.resource k = new.get? k
  /-- All of the calls reach the same state in every order. -/
  confluent : ∀ run : List PlannedCall, run.Perm calls →
    run.foldl PlannedCall.apply old.resource = calls.foldl PlannedCall.apply old.resource

/-- **A plan is safe to stop and to shuffle.** This is what makes an update that
fails half way harmless: it has done some of the calls, and none of the others
undoes them. -/
theorem plan_any_order (service : Service) (h : service.batchSize ≠ some 0) (old new : TagSet) :
    ∃ calls, plan service old new = .ok calls ∧ SafeInAnyOrder old new calls := by
  obtain ⟨calls, hplan, hlead, htouched⟩ := plan_spec h old new
  have hnodup : (calls.flatMap PlannedCall.touched).Nodup := htouched ▸ touched_nodup old new
  obtain ⟨heach, hpair⟩ := List.nodup_flatMap.1 hnodup
  refine ⟨calls, hplan, hpair, fun c hc => List.disjoint_of_nodup_append (heach c hc), ?_, ?_⟩
  · intro run hrun k
    rw [PlannedCall.foldl_apply fun c hc => hlead c (hrun.subset hc)]
    split
    · exact .inr rfl
    · exact .inl rfl
  · intro run hrun
    funext k
    rw [PlannedCall.foldl_apply hlead, PlannedCall.foldl_apply fun c hc => hlead c (hrun.subset hc)]
    have hmem : k ∈ run.flatMap PlannedCall.touched ↔ k ∈ calls.flatMap PlannedCall.touched :=
      (hrun.flatMap_right _).mem_iff
    simp only [hmem]

/-- Two calls that remove a tag and one that sets one. -/
theorem plan_any_order_one_by_one :
    ({ Service.resolve "sqs" with batchSize := some 1 } : Service).batchSize ≠ some 0 ∧
      ∃ calls, plan { Service.resolve "sqs" with batchSize := some 1 }
          (TagSet.ofList [("a", "1"), ("b", "2")]) (TagSet.ofList [("c", "3")]) = .ok calls ∧
        SafeInAnyOrder (TagSet.ofList [("a", "1"), ("b", "2")]) (TagSet.ofList [("c", "3")]) calls :=
  ⟨by decide, plan_any_order _ (by decide) _ _⟩

end Retag
