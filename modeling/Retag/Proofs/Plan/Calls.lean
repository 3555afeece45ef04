/-
Which calls a plan has. There are three outcomes (`plan_outcome`): no calls
between equal sets, an error for a batch size of zero, and calls otherwise, one
that does everything for a service with one operation.

A service with two operations gets a call for each batch of what is removed and
then for each batch of what is updated (`plan_batched`). How many there are is a
matter of the whole difference, since reserved keys are left out of a batch only
after it was cut; what they carry is the user's part of the difference, cut or
not.
-/
import Retag.Proofs.Plan.Contents

namespace Retag

variable {batchSize : Option Nat} {call : TagSet → PlannedCall} {s old new : TagSet} {service : Service}

/-! ## Outcomes -/

theorem usesSingleEndpoint_eq_false_iff :
    service.usesSingleEndpoint = false ↔ service.tagOperation ≠ service.untagOperation := by
  rw [Service.usesSingleEndpoint, beq_eq_false_iff_ne]

theorem callsFor_zero : callsFor s (some 0) call = if s.isEmpty then .ok [] else .error ⟨0⟩ := rfl

/-- A plan fails exactly on a batch size of zero for something to send. -/
theorem plan_error_iff (hs : service.usesSingleEndpoint = false) {e : InvalidChunkSize} :
    plan service old new = .error e ↔ e = ⟨0⟩ ∧ service.batchSize = some 0 ∧ old ≠ new := by
  by_cases hsize : service.batchSize = some 0
  · simp only [plan, hs, hsize, callsFor_zero, ne_eq, ← TagSet.difference_isEmpty_iff]
    cases (old.removed new).isEmpty <;> cases (old.updated new).isEmpty <;>
      simp [Bind.bind, Except.bind, eq_comm]
  · rw [plan_separate hs hsize]
    simp [hsize]

/-- With one operation there is one call between different sets. -/
theorem plan_one_operation (hs : service.usesSingleEndpoint = true) (h : old ≠ new) :
    ∃ operation tags untagKeys, plan service old new = .ok [.combined operation tags untagKeys] := by
  have hsome : ¬ ((old.removed new).isEmpty && (old.updated new).isEmpty) = true := by
    rw [Bool.and_eq_true_iff, TagSet.difference_isEmpty_iff]
    exact h
  have hplan := plan_combined hs old new
  rw [if_neg hsome] at hplan
  exact ⟨_, _, _, hplan⟩

/-- With two operations no call does both. -/
theorem not_combined_of_separate (hs : service.usesSingleEndpoint = false) {calls : List PlannedCall}
    (hplan : plan service old new = .ok calls) (operation : String) (tags : TagSet) (untagKeys : List String) :
    .combined operation tags untagKeys ∉ calls := by
  obtain ⟨untags, tagged, huntags, htagged, rfl⟩ := plan_separate_inv hs hplan
  obtain ⟨rfl, -⟩ := callsFor_inv huntags
  obtain ⟨rfl, -⟩ := callsFor_inv htagged
  intro hmem
  rcases List.mem_append.1 hmem with hmem | hmem
  · obtain ⟨b, -, hb⟩ := List.mem_map.1 hmem
    cases hb
  · obtain ⟨b, -, hb⟩ := List.mem_map.1 hmem
    cases hb

/-- Between different sets there are calls, unless the batch size is zero for a
service with two operations. -/
theorem plan_ok_of_ne (h : old ≠ new)
    (hsize : ¬ (service.tagOperation ≠ service.untagOperation ∧ service.batchSize = some 0)) :
    ∃ calls, plan service old new = .ok calls ∧ calls ≠ [] ∧
      ((∃ operation tags untagKeys, calls = [.combined operation tags untagKeys]) ↔
        service.tagOperation = service.untagOperation) := by
  cases hs : service.usesSingleEndpoint with
  | true =>
    obtain ⟨operation, tags, untagKeys, hplan⟩ := plan_one_operation hs h
    have hone : service.tagOperation = service.untagOperation := beq_iff_eq.1 hs
    exact ⟨_, hplan, List.cons_ne_nil _ _, fun _ => hone, fun _ => ⟨operation, tags, untagKeys, rfl⟩⟩
  | false =>
    have htwo := usesSingleEndpoint_eq_false_iff.1 hs
    obtain ⟨calls, hplan, -⟩ := plan_spec (fun hzero => hsize ⟨htwo, hzero⟩) old new
    refine ⟨calls, hplan, fun hnil => h ((plan_eq_nil_iff hplan).1 hnil), ?_, fun hone => absurd hone htwo⟩
    rintro ⟨operation, tags, untagKeys, rfl⟩
    exact absurd List.mem_cons_self (not_combined_of_separate hs hplan operation tags untagKeys)

/-- **The three outcomes of a plan.** It has no calls exactly between equal sets;
it fails, always with a size of zero, exactly if the service has two operations
and a batch size of zero and the sets differ; and it has calls in every other
case, where they are one call for both directions exactly if the service has one
operation. -/
theorem plan_outcome (service : Service) (old new : TagSet) :
    (plan service old new = .ok [] ↔ old = new) ∧
    (∀ e, plan service old new = .error e ↔
      e = ⟨0⟩ ∧ service.tagOperation ≠ service.untagOperation ∧ service.batchSize = some 0 ∧ old ≠ new) ∧
    ((∃ calls, plan service old new = .ok calls ∧ calls ≠ [] ∧
        ((∃ operation tags untagKeys, calls = [.combined operation tags untagKeys]) ↔
          service.tagOperation = service.untagOperation)) ↔
      old ≠ new ∧ ¬ (service.tagOperation ≠ service.untagOperation ∧ service.batchSize = some 0 ∧ old ≠ new)) := by
  have herror : ∀ e, plan service old new = .error e ↔
      e = ⟨0⟩ ∧ service.tagOperation ≠ service.untagOperation ∧ service.batchSize = some 0 ∧ old ≠ new := by
    intro e
    cases hs : service.usesSingleEndpoint with
    | true =>
      have hone : service.tagOperation = service.untagOperation := beq_iff_eq.1 hs
      simp [plan_combined hs, hone]
    | false =>
      simp [plan_error_iff hs, usesSingleEndpoint_eq_false_iff.1 hs]
  have hnil : plan service old new = .ok [] ↔ old = new := by
    refine ⟨fun hplan => (plan_eq_nil_iff hplan).1 rfl, fun h => ?_⟩
    cases hplan : plan service old new with
    | error e => exact absurd h ((herror e).1 hplan).2.2.2
    | ok calls => rw [(plan_eq_nil_iff hplan).2 h]
  refine ⟨hnil, herror, ?_, ?_⟩
  · rintro ⟨calls, hplan, hne, -⟩
    refine ⟨fun h => hne ((plan_eq_nil_iff hplan).2 h), fun hfails => ?_⟩
    rw [(herror ⟨0⟩).2 ⟨rfl, hfails⟩] at hplan
    cases hplan
  · rintro ⟨h, hsize⟩
    exact plan_ok_of_ne h fun hzero => hsize ⟨hzero.1, hzero.2, h⟩

/-! ## Batches -/

theorem TagSet.size_withoutReserved_le (s : TagSet) : s.withoutReserved.size ≤ s.size := by
  rw [size, size, withoutReserved_pairs]
  exact List.length_filter_le ..

/-- What the calls of one direction carry: the parts of a set, without its
reserved keys. -/
def payloads (batchSize : Option Nat) (s : TagSet) : List TagSet :=
  (s.parts batchSize).map TagSet.withoutReserved

theorem partCalls_eq_map_payloads (batchSize : Option Nat) (call : TagSet → PlannedCall) (s : TagSet) :
    partCalls batchSize call s = (payloads batchSize s).map call := by
  rw [payloads, List.map_map]
  rfl

/-- However a set is cut, its payloads list the user's tags of it in order. -/
theorem payloads_pairs (h : batchSize ≠ some 0) (s : TagSet) :
    (payloads batchSize s).flatMap TagSet.pairs = s.withoutReserved.pairs := by
  have hpart : ∀ b : TagSet, b.withoutReserved.pairs = b.pairs.filter fun p => !TagSet.isReserved p.1 :=
    withoutReserved_pairs
  simp only [payloads, List.flatMap_map, hpart]
  rw [← List.filter_flatMap, TagSet.parts_pairs h]

/-- Reserved keys count for the number of payloads. -/
theorem length_payloads {n : Nat} (hn : 0 < n) (s : TagSet) :
    (payloads (some n) s).length = (s.size + n - 1) / n := by
  rw [payloads, List.length_map, TagSet.parts, dif_pos hn, TagSet.length_chunksOf hn]

theorem size_le_of_mem_payloads {n : Nat} (hn : 0 < n) {b : TagSet} (hb : b ∈ payloads (some n) s) : b.size ≤ n := by
  rw [payloads, TagSet.parts, dif_pos hn] at hb
  obtain ⟨chunk, hchunk, rfl⟩ := List.mem_map.1 hb
  exact Nat.le_trans chunk.size_withoutReserved_le (TagSet.size_le_of_mem_chunksOf hn s chunk hchunk)

theorem plan_eq_payloads (hs : service.usesSingleEndpoint = false) (h : service.batchSize ≠ some 0)
    (old new : TagSet) :
    plan service old new =
      .ok ((payloads service.batchSize (old.removed new)).map (.untag service.untagOperation) ++
        (payloads service.batchSize (old.updated new)).map (.tag service.tagOperation)) := by
  rw [plan_separate hs h, partCalls_eq_map_payloads, partCalls_eq_map_payloads]

/-- **Batches cut the calls and not what they carry.** With two operations and
batches of `n` tags a plan removes and then adds, in as many calls as there are
batches of the difference, reserved keys included, and with `n` tags at most in
each. One after the other the calls list the user's tags of the difference in
ascending order, as they do without a batch size. -/
theorem plan_batched {service : Service} {n : Nat} (hops : service.tagOperation ≠ service.untagOperation) (hn : 0 < n)
    (hsize : service.batchSize = some n) (old new : TagSet) :
    ∃ untags tags : List TagSet,
      plan service old new =
        .ok (untags.map (.untag service.untagOperation) ++ tags.map (.tag service.tagOperation)) ∧
      untags.length = ((old.removed new).size + n - 1) / n ∧
      tags.length = ((old.updated new).size + n - 1) / n ∧
      (∀ b ∈ untags ++ tags, b.size ≤ n) ∧
      untags.flatMap TagSet.pairs = (old.removed new).withoutReserved.pairs ∧
      tags.flatMap TagSet.pairs = (old.updated new).withoutReserved.pairs ∧
      ∃ allUntags allTags : List TagSet,
        plan { service with batchSize := none } old new =
          .ok (allUntags.map (.untag service.untagOperation) ++ allTags.map (.tag service.tagOperation)) ∧
        allUntags.flatMap TagSet.pairs = untags.flatMap TagSet.pairs ∧
        allTags.flatMap TagSet.pairs = tags.flatMap TagSet.pairs := by
  have hs := usesSingleEndpoint_eq_false_iff.2 hops
  have hsome : service.batchSize ≠ some 0 := by simp [hsize, Nat.pos_iff_ne_zero.1 hn]
  have hnone : (none : Option Nat) ≠ some 0 := nofun
  have hplan := plan_eq_payloads hs hsome old new
  have hall : Service.usesSingleEndpoint { service with batchSize := none } = false := hs
  rw [hsize] at hsome hplan
  refine ⟨_, _, hplan, length_payloads hn _, length_payloads hn _, fun b hb => ?_, payloads_pairs hsome _,
    payloads_pairs hsome _, _, _, plan_eq_payloads hall hnone old new, ?_, ?_⟩
  · rcases List.mem_append.1 hb with hb | hb
    · exact size_le_of_mem_payloads hn hb
    · exact size_le_of_mem_payloads hn hb
  · rw [payloads_pairs hnone, payloads_pairs hsome]
  · rw [payloads_pairs hnone, payloads_pairs hsome]

/-- Five tags in batches of two. The first batch loses a reserved tag and the
second one both of its tags; there is a call for each all the same. -/
theorem plan_batched_reserved :
    let service := { Service.resolve "sqs" with batchSize := some 2 }
    let new := TagSet.ofList [("a", "1"), ("aws:x", "2"), ("aws:y", "3"), ("aws:z", "4"), ("b", "5")]
    (service.tagOperation ≠ service.untagOperation ∧ 0 < 2 ∧ service.batchSize = some 2) ∧
      ∃ tags : List TagSet, plan service TagSet.empty new = .ok (tags.map (.tag "TagQueue")) ∧ tags.length = 3 ∧
        tags.flatMap TagSet.pairs = [("a", "1"), ("b", "5")] := by
  intro service new
  have hops : service.tagOperation ≠ service.untagOperation := by decide
  have hupdated : (TagSet.empty.updated new).size = 5 := by decide +kernel
  have huser : (TagSet.empty.updated new).withoutReserved.pairs = [("a", "1"), ("b", "5")] := by decide +kernel
  obtain ⟨untags, tags, hplan, hnone, hcount, -, -, htags, -⟩ :=
    plan_batched hops Nat.two_pos (rfl : service.batchSize = some 2) TagSet.empty new
  obtain rfl : untags = [] := List.eq_nil_of_length_eq_zero (hnone.trans (by decide))
  rw [hupdated] at hcount
  exact ⟨⟨hops, Nat.two_pos, rfl⟩, tags, hplan, hcount, htags.trans huser⟩

end Retag
