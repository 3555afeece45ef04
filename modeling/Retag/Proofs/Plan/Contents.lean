/-
What the calls of a plan carry. Whether anything is to be sent is decided on
the whole difference of the sets, and reserved keys are left out of each call
only afterwards. So there is one call for each part of the difference
(`differenceParts`), and it carries the part's user keys (`plan_touched`): a
part with reserved keys alone becomes a call that carries nothing.
-/
import Retag.Proofs.Plan.Effects

namespace Retag

open TagSet (isReserved)

variable {batchSize : Option Nat} {call : TagSet → PlannedCall} {calls : List PlannedCall} {s old new : TagSet}
  {service : Service}

/-- A call that removes or sets something. -/
def PlannedCall.HasContent : PlannedCall → Prop
  | combined _ tags untagKeys => tags ≠ TagSet.empty ∨ untagKeys ≠ []
  | untag _ tags | tag _ tags => tags ≠ TagSet.empty

theorem PlannedCall.hasContent_iff (c : PlannedCall) : c.HasContent ↔ c.touched ≠ [] := by
  cases c with
  | combined op tags untagKeys =>
    rw [touched_combined, Ne, List.append_eq_nil_iff, TagSet.keys_eq_nil_iff, HasContent]
    tauto
  | untag op tags => rw [touched_untag, Ne, TagSet.keys_eq_nil_iff, HasContent]
  | tag op tags => rw [touched_tag, Ne, TagSet.keys_eq_nil_iff, HasContent]

/-! ## The parts of a difference -/

theorem TagSet.keys_withoutReserved (s : TagSet) :
    s.withoutReserved.keys = s.keys.filter fun k => !isReserved k := by
  rw [keys, keys, withoutReserved_pairs, List.filter_map]
  rfl

/-- A set is cut into parts that have a key. -/
theorem TagSet.parts_keys_ne_nil (s : TagSet) (batchSize : Option Nat) :
    ∀ b ∈ s.parts batchSize, b.keys ≠ [] := by
  intro b hb
  cases batchSize with
  | some n =>
    rw [parts] at hb
    split at hb
    next hn => exact chunksOf_keys_ne_nil hn s b hb
    next => cases hb
  | none =>
    rw [parts] at hb
    split at hb
    next => cases hb
    next hs =>
      obtain rfl := List.mem_singleton.1 hb
      exact fun hk => hs (isEmpty_iff.2 (keys_eq_nil_iff.1 hk))

/-- The keys on which two sets differ, cut as a plan cuts them into calls: the
removed ones, then the updated ones, in batches, or all of them in one part for
a service with one operation. -/
def differenceParts (service : Service) (old new : TagSet) : List (List String) :=
  if service.usesSingleEndpoint then
    if old = new then [] else [(old.removed new).keys ++ (old.updated new).keys]
  else
    ((old.removed new).parts service.batchSize ++ (old.updated new).parts service.batchSize).map TagSet.keys

/-- Nothing is removed and nothing is updated exactly between equal sets. -/
theorem TagSet.difference_eq_nil_iff :
    (old.removed new).keys ++ (old.updated new).keys = [] ↔ old = new := by
  rw [List.eq_nil_iff_forall_not_mem]
  simp only [List.mem_append, mem_keys_removed_or_updated, not_not]
  exact ⟨ext_get?, fun h k => by rw [h]⟩

theorem TagSet.difference_isEmpty_iff :
    (old.removed new).isEmpty = true ∧ (old.updated new).isEmpty = true ↔ old = new := by
  rw [← TagSet.difference_eq_nil_iff, List.append_eq_nil_iff, TagSet.keys_eq_nil_iff, TagSet.keys_eq_nil_iff,
    TagSet.isEmpty_iff, TagSet.isEmpty_iff]

theorem differenceParts_ne_nil (service : Service) (old new : TagSet) :
    ∀ part ∈ differenceParts service old new, part ≠ [] := by
  intro part hpart
  rw [differenceParts] at hpart
  split at hpart
  next =>
    split at hpart
    next => cases hpart
    next h =>
      obtain rfl := List.mem_singleton.1 hpart
      exact fun hk => h (TagSet.difference_eq_nil_iff.1 hk)
  next =>
    obtain ⟨b, hb, rfl⟩ := List.mem_map.1 hpart
    rcases List.mem_append.1 hb with hb | hb
    · exact TagSet.parts_keys_ne_nil _ _ b hb
    · exact TagSet.parts_keys_ne_nil _ _ b hb

/-! ## One call for each part -/

/-- A batch size of zero allows a direction only that has nothing to send. -/
theorem callsFor_inv (h : callsFor s batchSize call = .ok calls) :
    calls = partCalls batchSize call s ∧ (s.parts batchSize).flatMap TagSet.keys = s.keys := by
  by_cases hb : batchSize = some 0
  · subst hb
    rw [callsFor] at h
    split at h
    next hs =>
      obtain rfl := Except.ok.inj h
      rw [TagSet.isEmpty_iff.1 hs]
      exact ⟨rfl, rfl⟩
    next => cases h
  · rw [callsFor_eq hb] at h
    exact ⟨(Except.ok.inj h).symm, TagSet.parts_keys hb s⟩

theorem partCalls_map_touched (hcall : ∀ b, (call b).touched = b.keys) (s : TagSet) :
    (partCalls batchSize call s).map PlannedCall.touched =
      ((s.parts batchSize).map TagSet.keys).map (List.filter fun k => !isReserved k) := by
  simp only [partCalls, List.map_map]
  refine List.map_congr_left fun b _ => ?_
  simp only [Function.comp_apply, hcall, TagSet.keys_withoutReserved]

theorem plan_separate_inv (hs : service.usesSingleEndpoint = false) (hplan : plan service old new = .ok calls) :
    ∃ untags tags, callsFor (old.removed new) service.batchSize (.untag service.untagOperation) = .ok untags ∧
      callsFor (old.updated new) service.batchSize (.tag service.tagOperation) = .ok tags ∧
      calls = untags ++ tags := by
  simp only [plan, hs, Bool.false_eq_true, if_false] at hplan
  cases huntags : callsFor (old.removed new) service.batchSize (.untag service.untagOperation) with
  | error e => rw [huntags] at hplan; cases hplan
  | ok untags =>
    cases htags : callsFor (old.updated new) service.batchSize (.tag service.tagOperation) with
    | error e => rw [huntags, htags] at hplan; cases hplan
    | ok tags =>
      rw [huntags, htags] at hplan
      exact ⟨untags, tags, rfl, rfl, (Except.ok.inj hplan).symm⟩

/-- A plan has one call for each part of the difference, which touches the user's
keys of the part, and the parts list the keys on which the sets differ. -/
theorem plan_touched (hplan : plan service old new = .ok calls) :
    calls.map PlannedCall.touched =
        (differenceParts service old new).map (List.filter fun k => !isReserved k) ∧
      (differenceParts service old new).flatten = (old.removed new).keys ++ (old.updated new).keys := by
  cases hs : service.usesSingleEndpoint with
  | true =>
    rw [plan_combined hs] at hplan
    obtain rfl := Except.ok.inj hplan
    have hnone : ((old.removed new).isEmpty && (old.updated new).isEmpty) = true ↔ old = new := by
      rw [Bool.and_eq_true_iff, TagSet.difference_isEmpty_iff]
    simp only [differenceParts, hs, if_true, hnone]
    by_cases h : old = new
    · simp only [h, if_true]
      exact ⟨rfl, (TagSet.difference_eq_nil_iff.2 rfl).symm⟩
    · simp [h, TagSet.keys_withoutReserved]
  | false =>
    obtain ⟨untags, tags, huntags, htags, rfl⟩ := plan_separate_inv hs hplan
    obtain ⟨rfl, hremoved⟩ := callsFor_inv huntags
    obtain ⟨rfl, hupdated⟩ := callsFor_inv htags
    simp only [differenceParts, hs, Bool.false_eq_true, if_false, List.map_append, List.flatten_append,
      ← List.flatMap_def, hremoved, hupdated, and_true]
    rw [partCalls_map_touched (PlannedCall.touched_untag _), partCalls_map_touched (PlannedCall.touched_tag _)]

/-- The sets differ on each key of a part. -/
theorem differs_of_mem_part (hplan : plan service old new = .ok calls) {part : List String}
    (hpart : part ∈ differenceParts service old new) {k : String} (hk : k ∈ part) :
    old.get? k ≠ new.get? k := by
  have hmem : k ∈ (differenceParts service old new).flatten := List.mem_flatten.2 ⟨part, hpart, hk⟩
  rw [(plan_touched hplan).2, List.mem_append] at hmem
  exact TagSet.mem_keys_removed_or_updated.1 hmem

theorem PlannedCall.hasContent_of_touched {c : PlannedCall} {part : List String}
    (h : c.touched = part.filter fun k => !isReserved k) :
    c.HasContent ↔ ∃ k ∈ part, isReserved k = false := by
  simp [c.hasContent_iff, h]

/-- Each call is the call of some part. -/
theorem exists_part_of_call (hplan : plan service old new = .ok calls) {c : PlannedCall} (hc : c ∈ calls) :
    ∃ part ∈ differenceParts service old new, c.HasContent ↔ ∃ k ∈ part, isReserved k = false := by
  have hmem := List.mem_map_of_mem (f := PlannedCall.touched) hc
  rw [(plan_touched hplan).1] at hmem
  obtain ⟨part, hpart, he⟩ := List.mem_map.1 hmem
  exact ⟨part, hpart, PlannedCall.hasContent_of_touched he.symm⟩

/-- Each part has a call. -/
theorem exists_call_of_part (hplan : plan service old new = .ok calls) {part : List String}
    (hpart : part ∈ differenceParts service old new) :
    ∃ c ∈ calls, c.HasContent ↔ ∃ k ∈ part, isReserved k = false := by
  have hmem := List.mem_map_of_mem (f := List.filter fun k => !isReserved k) hpart
  rw [← (plan_touched hplan).1] at hmem
  obtain ⟨c, hc, he⟩ := List.mem_map.1 hmem
  exact ⟨c, hc, PlannedCall.hasContent_of_touched he⟩

/-- There are no calls exactly between equal sets. -/
theorem plan_eq_nil_iff (hplan : plan service old new = .ok calls) : calls = [] ↔ old = new := by
  obtain ⟨htouched, hflat⟩ := plan_touched hplan
  rw [← TagSet.difference_eq_nil_iff, ← hflat, List.flatten_eq_nil_iff,
    ← List.map_eq_nil_iff (f := PlannedCall.touched), htouched, List.map_eq_nil_iff]
  refine ⟨fun h => by simp [h], fun h => List.eq_nil_iff_forall_not_mem.2 fun part hpart => ?_⟩
  exact differenceParts_ne_nil _ _ _ part hpart (h part hpart)

/-- **What calls carry.** All calls of a plan carry something exactly if each part
of the difference has a key of the user's. So they do if the sets differ on the
user's keys alone, and none does if they differ on reserved keys alone; there
are calls all the same as soon as the sets differ. -/
theorem plan_content (service : Service) (old new : TagSet) (calls : List PlannedCall)
    (hplan : plan service old new = .ok calls) :
    ((∀ c ∈ calls, c.HasContent) ↔
        ∀ part ∈ differenceParts service old new, ∃ k ∈ part, isReserved k = false) ∧
      ((∀ k, old.get? k ≠ new.get? k → isReserved k = false) → ∀ c ∈ calls, c.HasContent) ∧
      ((∀ k, old.get? k ≠ new.get? k → isReserved k = true) → ∀ c ∈ calls, ¬ c.HasContent) ∧
      (calls = [] ↔ old = new) := by
  have hall : (∀ c ∈ calls, c.HasContent) ↔
      ∀ part ∈ differenceParts service old new, ∃ k ∈ part, isReserved k = false := by
    refine ⟨fun h part hpart => ?_, fun h c hc => ?_⟩
    · obtain ⟨c, hc, hiff⟩ := exists_call_of_part hplan hpart
      exact hiff.1 (h c hc)
    · obtain ⟨part, hpart, hiff⟩ := exists_part_of_call hplan hc
      exact hiff.2 (h part hpart)
  refine ⟨hall, fun h => hall.2 fun part hpart => ?_, fun h c hc hcontent => ?_, plan_eq_nil_iff hplan⟩
  · obtain ⟨k, hk⟩ := List.exists_mem_of_ne_nil part (differenceParts_ne_nil _ _ _ part hpart)
    exact ⟨k, hk, h k (differs_of_mem_part hplan hpart hk)⟩
  · obtain ⟨part, hpart, hiff⟩ := exists_part_of_call hplan hc
    obtain ⟨k, hk, huser⟩ := hiff.1 hcontent
    exact Bool.false_ne_true (huser.symm.trans (h k (differs_of_mem_part hplan hpart hk)))

/-- A tag to remove and one to set, beside a reserved tag that goes with the first. -/
theorem plan_content_mixed :
    plan (Service.resolve "sqs") (TagSet.ofList [("a", "1"), ("aws:x", "1")]) (TagSet.ofList [("b", "2")]) =
        .ok [.untag "UntagQueue" (TagSet.ofList [("a", "1")]), .tag "TagQueue" (TagSet.ofList [("b", "2")])] ∧
      ∀ c ∈ [PlannedCall.untag "UntagQueue" (TagSet.ofList [("a", "1")]),
        .tag "TagQueue" (TagSet.ofList [("b", "2")])], c.HasContent := by
  have hplan : plan (Service.resolve "sqs") (TagSet.ofList [("a", "1"), ("aws:x", "1")])
      (TagSet.ofList [("b", "2")]) = .ok [.untag "UntagQueue" (TagSet.ofList [("a", "1")]),
        .tag "TagQueue" (TagSet.ofList [("b", "2")])] := by rfl
  exact ⟨hplan, (plan_content _ _ _ _ hplan).1.2 (by decide)⟩

/-- A set that gets a reserved tag and nothing else: a request is sent that sets no
tag. -/
theorem plan_reserved_alone :
    plan (Service.resolve "sqs") TagSet.empty (TagSet.ofList [("aws:x", "1")]) =
        .ok [.tag "TagQueue" TagSet.empty] ∧
      ¬ ∀ c ∈ [PlannedCall.tag "TagQueue" TagSet.empty], c.HasContent :=
  ⟨by rfl, fun h => h _ List.mem_cons_self rfl⟩

end Retag
