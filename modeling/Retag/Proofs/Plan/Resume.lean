/-
Resuming an update that was interrupted. After the first calls of a plan, the
tags that are still to be removed and to be set are the ones that those calls
did not send, so planning again gives the calls that were not made, with the
batches cut where they were (`plan_resumes`). Reserved keys are left out of
every call and so would be planned again; the sets must not have any.
-/
import Retag.Proofs.Plan.Order

namespace Retag

open TagSet (isReserved)

variable {old new s : TagSet} {batchSize : Option Nat} {call : TagSet → PlannedCall} {service : Service}

/-! ## The state that some calls leave -/

/-- The tags of a resource with the tags of `s` after a call. -/
def PlannedCall.update (s : TagSet) (c : PlannedCall) : TagSet :=
  (s.filter fun k _ => !c.deletes.contains k).overwrite c.sets

theorem PlannedCall.update_resource (s : TagSet) (c : PlannedCall) :
    (c.update s).resource = c.apply s.resource := by
  funext k
  rw [apply_eq, TagSet.resource, update, TagSet.get?_overwrite, TagSet.get?_filter]
  have hleft : (s.get? k).filter (fun _ => !c.deletes.contains k) = if k ∈ c.deletes then none else s.get? k := by
    by_cases hk : k ∈ c.deletes <;> cases s.get? k <;> simp [hk]
  rw [hleft]
  rfl

/-- Calls leave a tag set. -/
theorem exists_resource_eq (calls : List PlannedCall) (s : TagSet) :
    ∃ t : TagSet, t.resource = calls.foldl PlannedCall.apply s.resource := by
  induction calls generalizing s with
  | nil => exact ⟨s, rfl⟩
  | cons c calls ih =>
    obtain ⟨t, ht⟩ := ih (c.update s)
    exact ⟨t, by rw [ht, PlannedCall.update_resource]; rfl⟩

theorem removed_self (s : TagSet) : s.removed s = TagSet.empty := by
  refine TagSet.ext_get? fun k => ?_
  rw [TagSet.get?_removed, TagSet.contains]
  cases s.get? k <;> rfl

theorem updated_self (s : TagSet) : s.updated s = TagSet.empty := by
  refine TagSet.ext_get? fun k => ?_
  rw [TagSet.get?_updated, if_pos rfl]
  rfl

/-! ## What is left to do -/

/-- A state with the new values at the first `m` removed and the first `n` updated
keys, and the old ones elsewhere. -/
def PartlyUpdated (old new : TagSet) (m n : Nat) (s : TagSet) : Prop :=
  ∀ k, s.get? k =
    if k ∈ (old.removed new).keys.take m ∨ k ∈ (old.updated new).keys.take n
    then new.get? k else old.get? k

theorem PartlyUpdated.removed {m n : Nat} (h : PartlyUpdated old new m n s) :
    s.removed new = (old.removed new).drop m := by
  refine TagSet.ext_get? fun k => ?_
  rw [TagSet.get?_removed, TagSet.get?_drop, TagSet.get?_removed, h k]
  cases hn : new.contains k with
  | true => simp
  | false =>
    have hk : k ∉ new.keys := fun hk => by rw [TagSet.contains_iff.2 hk] at hn; cases hn
    have hu : k ∉ (old.updated new).keys.take n := fun ht =>
      hk (TagSet.mem_keys_updated.1 (List.mem_of_mem_take ht)).1
    simp only [hu, or_false, TagSet.get?_eq_none_iff.2 hk]
    rfl

theorem PartlyUpdated.updated {m n : Nat} (h : PartlyUpdated old new m n s) :
    s.updated new = (old.updated new).drop n := by
  refine TagSet.ext_get? fun k => ?_
  rw [TagSet.get?_updated, TagSet.get?_drop, TagSet.get?_updated, h k]
  by_cases hr : k ∈ (old.removed new).keys.take m
  · have hk : k ∉ new.keys := (TagSet.mem_keys_removed.1 (List.mem_of_mem_take hr)).2
    simp [hr, TagSet.get?_eq_none_iff.2 hk]
  · by_cases hu : k ∈ (old.updated new).keys.take n <;> simp [hr, hu]

/-! ## The calls that are left -/

/-- The first calls of a direction touch the first tags of the set, and the others
are the calls for the other tags. -/
theorem partCalls_split (h : batchSize ≠ some 0) (hcall : ∀ b, (call b).touched = b.keys)
    (hs : ∀ k ∈ s.keys, isReserved k = false) (i : Nat) :
    ∃ m, ((partCalls batchSize call s).take i).flatMap PlannedCall.touched = s.keys.take m ∧
      (partCalls batchSize call s).drop i = partCalls batchSize call (s.drop m) := by
  obtain ⟨m, htake, hdrop⟩ := TagSet.parts_split h s i
  refine ⟨m, ?_, by simp only [partCalls, ← List.map_drop, hdrop]⟩
  have hpart : ∀ b ∈ (s.parts batchSize).take i, b.withoutReserved.keys = b.keys := fun b hb => by
    rw [TagSet.withoutReserved_eq_self fun k hk => hs k
      (TagSet.mem_keys_of_mem_parts h (List.mem_of_mem_take hb) hk)]
  simp only [partCalls, ← List.map_take, List.flatMap_map, hcall]
  rw [List.flatMap_congr hpart, htake]

theorem removed_user (new : TagSet) (hold : ∀ k ∈ old.keys, isReserved k = false) :
    ∀ k ∈ (old.removed new).keys, isReserved k = false :=
  fun k hk => hold k (TagSet.mem_keys_removed.1 hk).1

theorem updated_user (old : TagSet) (hnew : ∀ k ∈ new.keys, isReserved k = false) :
    ∀ k ∈ (old.updated new).keys, isReserved k = false :=
  fun k hk => hnew k (TagSet.mem_keys_updated.1 hk).1

theorem plan_resumes_separate (hs : service.usesSingleEndpoint = false) (h : service.batchSize ≠ some 0)
    (hold : ∀ k ∈ old.keys, isReserved k = false) (hnew : ∀ k ∈ new.keys, isReserved k = false)
    {calls : List PlannedCall} (hplan : plan service old new = .ok calls) (i : Nat)
    (hstate : s.resource = (calls.take i).foldl PlannedCall.apply old.resource) :
    plan service s new = .ok (calls.drop i) := by
  rw [plan_separate hs h] at hplan
  obtain rfl := Except.ok.inj hplan
  have hlead := fun c hc => List.mem_append.1 hc |>.elim
    (untagCalls_leadTo h service.untagOperation old new c) (tagCalls_leadTo h service.tagOperation old new c)
  obtain ⟨m, hm, hmrest⟩ := @partCalls_split (old.removed new) _ (.untag service.untagOperation) h
    (PlannedCall.touched_untag _) (removed_user new hold) i
  obtain ⟨n, hn, hnrest⟩ := @partCalls_split (old.updated new) _ (.tag service.tagOperation) h
    (PlannedCall.touched_tag _) (updated_user old hnew)
    (i - (partCalls service.batchSize (.untag service.untagOperation) (old.removed new)).length)
  have hpart : PartlyUpdated old new m n s := by
    intro k
    have hk : s.get? k = _ := congrFun hstate k
    rw [PlannedCall.foldl_apply fun c hc => hlead c (List.mem_of_mem_take hc), List.take_append,
      List.flatMap_append, hm, hn] at hk
    simpa only [List.mem_append, TagSet.resource] using hk
  rw [plan_separate hs h, hpart.removed, hpart.updated, List.drop_append, hmrest, hnrest]

theorem plan_self (service : Service) (s : TagSet) : plan service s s = .ok [] := by
  unfold plan
  rw [removed_self, updated_self]
  split <;> rfl

theorem plan_resumes_combined (hs : service.usesSingleEndpoint = true) (h : service.batchSize ≠ some 0)
    (hold : ∀ k ∈ old.keys, isReserved k = false) (hnew : ∀ k ∈ new.keys, isReserved k = false)
    {calls : List PlannedCall} (hplan : plan service old new = .ok calls) (i : Nat)
    (hstate : s.resource = (calls.take i).foldl PlannedCall.apply old.resource) :
    plan service s new = .ok (calls.drop i) := by
  obtain ⟨calls', hplan', hlead, htouched⟩ := plan_spec h old new
  obtain rfl : calls = calls' := Except.ok.inj (hplan.symm.trans hplan')
  cases i with
  | zero => rw [TagSet.ext_get? (congrFun hstate), hplan]; rfl
  | succ i =>
    -- One call is the whole plan, so the state after it is the new one.
    have hlen : calls.length ≤ 1 := by
      rw [plan_combined hs] at hplan
      obtain rfl := Except.ok.inj hplan
      split <;> simp
    rw [List.take_of_length_le (by omega)] at hstate
    have hsnew : s = new := by
      refine TagSet.ext_get? fun k => ?_
      have hk := congrFun hstate k
      rw [PlannedCall.foldl_apply hlead, htouched, TagSet.withoutReserved_eq_self (removed_user _ hold),
        TagSet.withoutReserved_eq_self (updated_user _ hnew)] at hk
      have hmem : k ∈ (old.removed new).keys ∨ k ∈ (old.updated new).keys ↔ old.get? k ≠ new.get? k :=
        TagSet.mem_keys_removed_or_updated
      rw [← List.mem_append] at hmem
      refine Eq.trans hk ?_
      split
      next => rfl
      next hk => exact not_not.1 fun he => hk (hmem.2 he)
    rw [hsnew, plan_self, List.drop_of_length_le (by omega)]

/-- **An interrupted update can be resumed.** Let neither set have a reserved key.
Whatever number of calls of the plan were made, the resource is left with a tag
set, and planning from that set gives exactly the calls that were not made. -/
theorem plan_resumes (service : Service) (h : service.batchSize ≠ some 0) (old new : TagSet)
    (hold : ∀ k ∈ old.keys, isReserved k = false) (hnew : ∀ k ∈ new.keys, isReserved k = false) :
    ∃ calls, plan service old new = .ok calls ∧ ∀ i,
      (∃ s : TagSet, s.resource = (calls.take i).foldl PlannedCall.apply old.resource) ∧
      ∀ s : TagSet, s.resource = (calls.take i).foldl PlannedCall.apply old.resource →
        plan service s new = .ok (calls.drop i) := by
  obtain ⟨calls, hplan, -, -⟩ := plan_spec h old new
  refine ⟨calls, hplan, fun i => ⟨exists_resource_eq _ old, fun s hstate => ?_⟩⟩
  cases hs : service.usesSingleEndpoint with
  | false => exact plan_resumes_separate hs h hold hnew hplan i hstate
  | true => exact plan_resumes_combined hs h hold hnew hplan i hstate

/-- Three tags to remove and one to set, two in a call. -/
theorem plan_resumes_in_batches :
    ({ Service.resolve "sqs" with batchSize := some 2 } : Service).batchSize ≠ some 0 ∧
      (∀ k ∈ (TagSet.ofList [("a", "1"), ("b", "1"), ("c", "1")]).keys, isReserved k = false) ∧
      (∀ k ∈ (TagSet.ofList [("d", "2")]).keys, isReserved k = false) ∧
      ∃ calls, plan { Service.resolve "sqs" with batchSize := some 2 }
          (TagSet.ofList [("a", "1"), ("b", "1"), ("c", "1")]) (TagSet.ofList [("d", "2")]) = .ok calls ∧
        ∀ i, (∃ s : TagSet, s.resource = (calls.take i).foldl PlannedCall.apply
            (TagSet.ofList [("a", "1"), ("b", "1"), ("c", "1")]).resource) ∧
          ∀ s : TagSet, s.resource = (calls.take i).foldl PlannedCall.apply
              (TagSet.ofList [("a", "1"), ("b", "1"), ("c", "1")]).resource →
            plan { Service.resolve "sqs" with batchSize := some 2 } s (TagSet.ofList [("d", "2")]) =
              .ok (calls.drop i) :=
  ⟨by decide, by decide, by decide, plan_resumes _ (by decide) _ _ (by decide) (by decide)⟩

end Retag
