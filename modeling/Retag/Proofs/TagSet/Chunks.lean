/-
The batches of a set. Batch `i` holds the tags from place `i * n` on, `n` of them or
as many as there are (`TagSet.getElem_chunksOf`), so the batches list the set's tags
one after the other and each is a set of its own that collecting its slice gives.

`TagSet.IsCut` says all that a caller may rely on, and `TagSet.chunks_cut` that the
batches of every size but zero are such a cut.
-/
import Retag.Proofs.TagSet.Batches

namespace Retag.TagSet

variable {s : TagSet} {n : Nat}

/-- How a set is cut into batches of `n` tags. -/
structure IsCut (s : TagSet) (n : Nat) (sets : List TagSet) : Prop where
  count : sets.length = (s.size + n - 1) / n
  nonempty : ∀ b ∈ sets, b ≠ empty
  /-- Only the last batch can be short. -/
  full : ∀ b ∈ sets.dropLast, b.size = n
  within : ∀ b ∈ sets, b.size ≤ n
  /-- A batch is what its slice of the pairs is collected to. -/
  slice : ∀ i (h : i < sets.length), sets[i] = ofList ((s.pairs.drop (i * n)).take n)
  listed : sets.flatMap pairs = s.pairs
  /-- The keys of a batch come before those of the later ones. -/
  apart : sets.Pairwise fun b c => ∀ j ∈ b.keys, ∀ k ∈ c.keys, j < k
  /-- The batches in any order are collected to the set. -/
  collected : ∀ order : List TagSet, order.Perm sets → ofList (order.flatMap pairs) = s

/-- A batch that others follow is full: the next one has tags left to hold. -/
theorem size_of_mem_dropLast_chunksOf (hn : 0 < n) (s : TagSet) : ∀ b ∈ (chunksOf n hn s).dropLast, b.size = n := by
  intro b hb
  obtain ⟨i, hi, rfl⟩ := List.getElem_of_mem hb
  rw [List.length_dropLast] at hi
  obtain ⟨hnext, -⟩ := getElem_chunksOf hn s (i + 1) (by omega)
  have hmore : (i + 1) * n < s.pairs.length := by
    by_contra hle
    exact hnext (List.drop_eq_nil_of_le (by omega))
  have hstep : (i + 1) * n = i * n + n := Nat.succ_mul i n
  rw [List.getElem_dropLast, (getElem_chunksOf hn s i (by omega)).2]
  show ((s.pairs.drop (i * n)).take n).length = n
  rw [List.length_take, List.length_drop]
  omega

/-- The pairs ascend across the batches as they do in the set. -/
theorem chunksOf_apart (hn : 0 < n) (s : TagSet) :
    (chunksOf n hn s).Pairwise fun b c => ∀ j ∈ b.keys, ∀ k ∈ c.keys, j < k := by
  have hascending := s.ascending
  rw [← chunksOf_pairs hn s, Keyed.Ascending, List.pairwise_flatMap] at hascending
  refine hascending.2.imp fun h j hj k hk => ?_
  obtain ⟨p, hp, rfl⟩ := List.mem_map.1 hj
  obtain ⟨q, hq, rfl⟩ := List.mem_map.1 hk
  exact h p hp q hq

theorem chunksOf_isCut (hn : 0 < n) (s : TagSet) : s.IsCut n (chunksOf n hn s) where
  count := length_chunksOf hn s
  nonempty b hb he := chunksOf_keys_ne_nil hn s b hb (keys_eq_nil_iff.2 he)
  full := size_of_mem_dropLast_chunksOf hn s
  within := size_le_of_mem_chunksOf hn s
  slice i h := by
    rw [(getElem_chunksOf hn s i h).2, ← ofList_pairs ((s.drop (i * n)).take n)]
    rfl
  listed := chunksOf_pairs hn s
  apart := chunksOf_apart hn s
  collected order horder := by
    refine ofList_perm ?_
    rw [← chunksOf_pairs hn s]
    exact horder.flatMap_right pairs

/-- **Batches are a cut of the set.** Batches of no tags are refused, of the empty set
too, and nothing else is. Every other size cuts the set into as few batches as hold
it: all are full but perhaps the last, none is empty, together they list the tags in
order, and collecting them in any order gives the set back. -/
theorem chunks_cut (s : TagSet) (n : Nat) :
    (∀ e, s.chunks n = .error e ↔ n = 0 ∧ e = ⟨n⟩) ∧
    (0 < n → ∃ sets, s.chunks n = .ok sets ∧ s.IsCut n sets) := by
  by_cases hn : 0 < n
  · have hchunks : s.chunks n = .ok (chunksOf n hn s) := dif_pos hn
    refine ⟨fun e => ?_, fun _ => ⟨_, hchunks, chunksOf_isCut hn s⟩⟩
    rw [hchunks]
    exact ⟨nofun, fun h => absurd h.1 (Nat.pos_iff_ne_zero.1 hn)⟩
  · have hchunks : s.chunks n = .error ⟨n⟩ := dif_neg hn
    refine ⟨fun e => ?_, fun h => absurd h hn⟩
    rw [hchunks, Except.error.injEq, eq_comm]
    exact ⟨fun he => ⟨Nat.eq_zero_of_not_pos hn, he⟩, And.right⟩

/-- Five tags by two, collected from the last batch to the first. -/
theorem chunks_cut_backwards :
    let s := TagSet.ofList [("a", "1"), ("b", "2"), ("c", "3"), ("d", "4"), ("e", "5")]
    0 < 2 ∧ ∃ sets, s.chunks 2 = .ok sets ∧ sets.length = 3 ∧
      sets.reverse.Perm sets ∧ ofList (sets.reverse.flatMap pairs) = s := by
  intro s
  obtain ⟨sets, hchunks, hcut⟩ := (chunks_cut s 2).2 Nat.two_pos
  have hsize : s.size = 5 := by decide
  have hcount : sets.length = 3 := by rw [hcut.count, hsize]
  exact ⟨Nat.two_pos, sets, hchunks, hcount, sets.reverse_perm, hcut.collected _ sets.reverse_perm⟩

end Retag.TagSet
