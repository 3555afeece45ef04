/-
What the calls of a plan do to a resource.

Everything rests on two facts about a plan (`plan_spec`). Each of its calls
leads to the new tags (`PlannedCall.LeadsTo`): a key it touches gets the value
it has in the new set, whatever the resource held. And the touched keys, listed
over all calls, are the removed keys and then the updated ones, none of them
reserved and none of them twice. What the calls do together therefore depends
only on which keys they touch (`foldl_apply`), not on their order.
-/
import Retag.Plan
import Retag.Proofs.TagSet.Batches

namespace Retag

open TagSet (isReserved)

namespace PlannedCall

/-- The keys that a call deletes. -/
def deletes : PlannedCall → List String
  | combined _ _ untagKeys => untagKeys
  | untag _ tags => tags.keys
  | tag _ _ => []

/-- The tags that a call sets. -/
def sets : PlannedCall → TagSet
  | combined _ tags _ | tag _ tags => tags
  | untag _ _ => TagSet.empty

/-- The keys that a call deletes or sets. -/
def touched (c : PlannedCall) : List String := c.deletes ++ c.sets.keys

@[simp] theorem touched_combined (op : String) (tags : TagSet) (untagKeys : List String) :
    (combined op tags untagKeys).touched = untagKeys ++ tags.keys := rfl

@[simp] theorem touched_untag (op : String) (tags : TagSet) : (untag op tags).touched = tags.keys :=
  List.append_nil _

@[simp] theorem touched_tag (op : String) (tags : TagSet) : (tag op tags).touched = tags.keys := rfl

theorem apply_eq (r : Resource) (c : PlannedCall) : c.apply r = (r.delete c.deletes).set c.sets := by
  cases c with
  | combined op tags keys => rfl
  | untag op tags => funext k; simp [apply, Resource.set, deletes, sets]
  | tag op tags => funext k; simp [apply, Resource.set, Resource.delete, deletes, sets]

/-- Each key that the call touches gets the value it has in `new`. -/
def LeadsTo (new : TagSet) (c : PlannedCall) : Prop :=
  ∀ (r : Resource) (k : String), c.apply r k = if k ∈ c.touched then new.get? k else r k

/-- A call leads to a set that lacks the keys it deletes and has the tags it
sets. -/
theorem leadsTo_of {new : TagSet} {c : PlannedCall} (hdel : ∀ k ∈ c.deletes, new.get? k = none)
    (hset : ∀ k ∈ c.sets.keys, c.sets.get? k = new.get? k) : c.LeadsTo new := by
  intro r k
  simp only [apply_eq, Resource.set, Resource.delete, touched, List.mem_append]
  by_cases hs : k ∈ c.sets.keys
  · obtain ⟨v, hv⟩ := TagSet.mem_keys_iff.1 hs
    have hnew : new.get? k = some v := by rw [← hset k hs, hv]
    simp [hs, hv, hnew]
  · rw [TagSet.get?_eq_none_iff.2 hs]
    by_cases hd : k ∈ c.deletes <;> simp [hs, hd, hdel]

/-- Calls that lead to `new` give the keys they touch their values in `new` and
leave the others. -/
theorem foldl_apply {new : TagSet} {calls : List PlannedCall} (h : ∀ c ∈ calls, c.LeadsTo new)
    (r : Resource) (k : String) :
    calls.foldl apply r k = if k ∈ calls.flatMap touched then new.get? k else r k := by
  induction calls generalizing r with
  | nil => simp
  | cons c calls ih =>
    rw [List.foldl_cons, ih fun d hd => h d (List.mem_cons_of_mem _ hd), h c List.mem_cons_self]
    by_cases hc : k ∈ c.touched <;> simp [hc]

end PlannedCall

/-! ## The calls of one direction -/

/-- One call for each part of a set, without its reserved keys. -/
def partCalls (batchSize : Option Nat) (call : TagSet → PlannedCall) (s : TagSet) : List PlannedCall :=
  (s.parts batchSize).map fun b => call b.withoutReserved

variable {batchSize : Option Nat} {call : TagSet → PlannedCall} {service : Service}

theorem callsFor_eq (h : batchSize ≠ some 0) (s : TagSet) (call : TagSet → PlannedCall) :
    callsFor s batchSize call = .ok (partCalls batchSize call s) := by
  unfold callsFor partCalls
  by_cases hs : s.isEmpty = true
  · rw [if_pos hs, TagSet.isEmpty_iff.1 hs, TagSet.parts_empty]; rfl
  · rw [if_neg hs]
    cases batchSize with
    | none => simp [TagSet.batches, TagSet.parts, hs, Except.map]
    | some n =>
      have hn : 0 < n := Nat.pos_of_ne_zero fun he => h (he ▸ rfl)
      simp [TagSet.batches, TagSet.parts, TagSet.chunks, hn, Except.map]

theorem withoutReserved_pairs (s : TagSet) :
    s.withoutReserved.pairs = s.pairs.filter fun p => !isReserved p.1 := by
  simp [TagSet.withoutReserved, TagSet.withoutPrefixes, TagSet.filter, isReserved]

/-- Leaving reserved keys out of each part leaves them out of the set. -/
theorem partCalls_touched (h : batchSize ≠ some 0) (hcall : ∀ b, (call b).touched = b.keys) (s : TagSet) :
    (partCalls batchSize call s).flatMap PlannedCall.touched = s.withoutReserved.keys := by
  simp only [partCalls, List.flatMap_map, hcall, TagSet.keys, withoutReserved_pairs]
  rw [← TagSet.parts_pairs h s, List.filter_flatMap, List.map_flatMap]

theorem untagCalls_leadTo (h : batchSize ≠ some 0) (op : String) (old new : TagSet) :
    ∀ c ∈ partCalls batchSize (.untag op) (old.removed new), c.LeadsTo new := by
  intro c hc
  obtain ⟨b, hb, rfl⟩ := List.mem_map.1 hc
  refine PlannedCall.leadsTo_of (fun k hk => ?_) fun k hk => nomatch hk
  have hk' := TagSet.mem_keys_of_mem_parts h hb (TagSet.mem_keys_withoutReserved.1 hk).1
  exact TagSet.get?_eq_none_iff.2 (TagSet.mem_keys_removed.1 hk').2

/-- The user's part of some updated tags has the values of the new set. -/
theorem get?_withoutReserved_updated {old new b : TagSet} {k : String}
    (hb : b.get? k = (old.updated new).get? k) (hk : k ∈ b.withoutReserved.keys) :
    b.withoutReserved.get? k = new.get? k := by
  obtain ⟨hkb, hr⟩ := TagSet.mem_keys_withoutReserved.1 hk
  obtain ⟨v, hv⟩ := TagSet.mem_keys_iff.1 hkb
  have hup : k ∈ (old.updated new).keys := TagSet.mem_keys_iff.2 ⟨v, hb ▸ hv⟩
  rw [TagSet.get?_withoutReserved, hr, hb, TagSet.get?_updated,
    if_neg (TagSet.mem_keys_updated.1 hup).2]
  rfl

theorem tagCalls_leadTo (h : batchSize ≠ some 0) (op : String) (old new : TagSet) :
    ∀ c ∈ partCalls batchSize (.tag op) (old.updated new), c.LeadsTo new := by
  intro c hc
  obtain ⟨b, hb, rfl⟩ := List.mem_map.1 hc
  refine PlannedCall.leadsTo_of (fun k hk => nomatch hk) fun k hk => ?_
  exact get?_withoutReserved_updated
    (TagSet.get?_of_mem_parts h hb (TagSet.mem_keys_withoutReserved.1 hk).1) hk

/-! ## The calls of a plan -/

theorem plan_separate (hs : service.usesSingleEndpoint = false) (h : service.batchSize ≠ some 0)
    (old new : TagSet) :
    plan service old new = .ok (partCalls service.batchSize (.untag service.untagOperation) (old.removed new) ++
      partCalls service.batchSize (.tag service.tagOperation) (old.updated new)) := by
  simp only [plan, hs, callsFor_eq h]
  rfl

theorem plan_combined (hs : service.usesSingleEndpoint = true) (old new : TagSet) :
    plan service old new = .ok (if (old.removed new).isEmpty && (old.updated new).isEmpty then []
      else [.combined service.tagOperation (old.updated new).withoutReserved
        (old.removed new).withoutReserved.keys]) := by
  simp only [plan, hs, if_true]
  split <;> rfl

/-- A plan exists; its calls lead to the new tags, and what they touch are the
user's removed and updated keys. -/
theorem plan_spec (h : service.batchSize ≠ some 0) (old new : TagSet) :
    ∃ calls, plan service old new = .ok calls ∧ (∀ c ∈ calls, c.LeadsTo new) ∧
      calls.flatMap PlannedCall.touched =
        (old.removed new).withoutReserved.keys ++ (old.updated new).withoutReserved.keys := by
  cases hs : service.usesSingleEndpoint with
  | false =>
    refine ⟨_, plan_separate hs h old new, fun c hc => ?_, ?_⟩
    · rcases List.mem_append.1 hc with hc | hc
      · exact untagCalls_leadTo h _ old new c hc
      · exact tagCalls_leadTo h _ old new c hc
    · rw [List.flatMap_append, partCalls_touched h (PlannedCall.touched_untag _),
        partCalls_touched h (PlannedCall.touched_tag _)]
  | true =>
    refine ⟨_, plan_combined hs old new, ?_⟩
    by_cases hempty : ((old.removed new).isEmpty && (old.updated new).isEmpty) = true
    · rw [if_pos hempty]
      obtain ⟨hr, hu⟩ := Bool.and_eq_true_iff.1 hempty
      rw [TagSet.isEmpty_iff.1 hr, TagSet.isEmpty_iff.1 hu]
      exact ⟨by simp, rfl⟩
    · rw [if_neg hempty]
      refine ⟨fun c hc => ?_, List.append_nil _⟩
      obtain rfl := List.mem_singleton.1 hc
      refine PlannedCall.leadsTo_of (fun k hk => ?_) fun k hk => get?_withoutReserved_updated rfl hk
      have hk' := (TagSet.mem_keys_withoutReserved.1 hk).1
      exact TagSet.get?_eq_none_iff.2 (TagSet.mem_keys_removed.1 hk').2

/-- No key is touched twice, not even by one call. -/
theorem touched_nodup (old new : TagSet) :
    ((old.removed new).withoutReserved.keys ++ (old.updated new).withoutReserved.keys).Nodup := by
  refine (TagSet.keys_nodup _).append (TagSet.keys_nodup _) fun k hr hu => ?_
  exact TagSet.removed_updated_disjoint old new (TagSet.mem_keys_withoutReserved.1 hr).1
    (TagSet.mem_keys_withoutReserved.1 hu).1

/-- The touched keys are the user's keys on which the sets differ. -/
theorem mem_touched {old new : TagSet} {k : String} :
    k ∈ (old.removed new).withoutReserved.keys ++ (old.updated new).withoutReserved.keys ↔
      old.get? k ≠ new.get? k ∧ isReserved k = false := by
  rw [List.mem_append, TagSet.mem_keys_withoutReserved, TagSet.mem_keys_withoutReserved, ← or_and_right,
    TagSet.mem_keys_removed_or_updated]

end Retag
