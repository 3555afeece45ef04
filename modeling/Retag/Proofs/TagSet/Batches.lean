/-
The parts in which a set of tags is sent. For every batch size but zero they
list the set's pairs in order (`parts_pairs`), and leaving out the first ones
leaves the parts of what is left of the set (`parts_split`): where the batches
are cut does not depend on how many were sent before.
-/
import Retag.Proofs.TagSet.Lookup

namespace Retag.TagSet

variable {s : TagSet} {k : String}

theorem chunksOf_of_empty {n : Nat} {hn : 0 < n} (h : s.pairs = []) : chunksOf n hn s = [] := by
  rw [chunksOf, if_pos h]

theorem chunksOf_of_ne {n : Nat} {hn : 0 < n} (h : s.pairs ≠ []) :
    chunksOf n hn s = s.take n :: chunksOf n hn (s.drop n) := by
  rw [chunksOf, if_neg h]

/-- Batches of `n` tags: as many as it takes. -/
theorem length_chunksOf {n : Nat} (hn : 0 < n) (s : TagSet) :
    (chunksOf n hn s).length = (s.size + n - 1) / n := by
  induction s using chunksOf.induct n hn with
  | case1 s hs =>
    rw [chunksOf_of_empty hs, size, hs, List.length_nil, List.length_nil, Nat.zero_add,
      Nat.div_eq_of_lt (Nat.sub_lt hn Nat.one_pos)]
  | case2 s hs ih =>
    have hpos : 0 < s.size := List.length_pos_iff.2 hs
    have hdrop : (s.drop n).size = s.size - n := List.length_drop
    have hone : s.size + n - 1 = s.size - 1 + n := by omega
    rw [chunksOf_of_ne hs, List.length_cons, ih, hdrop, hone, Nat.add_div_right _ hn]
    congr 1
    rcases Nat.le_total n s.size with hle | hle
    · rw [Nat.sub_add_cancel hle]
    · rw [Nat.div_eq_of_lt (by omega), Nat.div_eq_of_lt (by omega)]

/-- The batches of a set, or the set itself if there is no batch size; no tags
have no part. -/
def parts (s : TagSet) : Option Nat → List TagSet
  | some size => if h : 0 < size then chunksOf size h s else []
  | none => if s.isEmpty then [] else [s]

theorem drop_zero (s : TagSet) : s.drop 0 = s := rfl

theorem drop_drop (s : TagSet) (m n : Nat) : (s.drop m).drop n = s.drop (m + n) :=
  TagSet.ext (List.drop_drop ..)

theorem chunksOf_split {n : Nat} (hn : 0 < n) : ∀ (i : Nat) (s : TagSet),
    ((chunksOf n hn s).take i).flatMap pairs = s.pairs.take (i * n) ∧
      (chunksOf n hn s).drop i = chunksOf n hn (s.drop (i * n))
  | 0, s => by simp [drop_zero]
  | i + 1, s => by
    by_cases h : s.pairs = []
    · have hd : (s.drop ((i + 1) * n)).pairs = [] := by simp [TagSet.drop, h]
      simp [chunksOf_of_empty h, chunksOf_of_empty hd, h]
    · obtain ⟨htake, hdrop⟩ := chunksOf_split hn i (s.drop n)
      have hmul : (i + 1) * n = n + i * n := by rw [Nat.succ_mul, Nat.add_comm]
      rw [chunksOf_of_ne h, List.take_succ_cons, List.drop_succ_cons, List.flatMap_cons, htake, hdrop,
        drop_drop, hmul]
      exact ⟨List.take_add.symm, rfl⟩

/-- Batch `i` is cut from the tags that are left behind the first `i` batches, and
there are some. -/
theorem getElem_chunksOf {n : Nat} (hn : 0 < n) (s : TagSet) (i : Nat) (h : i < (chunksOf n hn s).length) :
    (s.drop (i * n)).pairs ≠ [] ∧ (chunksOf n hn s)[i] = (s.drop (i * n)).take n := by
  obtain ⟨-, hdrop⟩ := chunksOf_split hn i s
  rw [List.drop_eq_getElem_cons h] at hdrop
  by_cases hs : (s.drop (i * n)).pairs = []
  · rw [chunksOf_of_empty hs] at hdrop
    cases hdrop
  · rw [chunksOf_of_ne hs] at hdrop
    exact ⟨hs, (List.cons.inj hdrop).1⟩

theorem chunksOf_keys_ne_nil {n : Nat} (hn : 0 < n) (s : TagSet) : ∀ b ∈ chunksOf n hn s, b.keys ≠ [] := by
  intro b hb hk
  obtain ⟨i, hi, rfl⟩ := List.getElem_of_mem hb
  obtain ⟨hleft, hslice⟩ := getElem_chunksOf hn s i hi
  rw [hslice, keys, List.map_eq_nil_iff] at hk
  rcases List.take_eq_nil_iff.1 hk with hzero | hnil
  · omega
  · exact hleft hnil

theorem size_le_of_mem_chunksOf {n : Nat} (hn : 0 < n) (s : TagSet) : ∀ b ∈ chunksOf n hn s, b.size ≤ n := by
  intro b hb
  obtain ⟨i, hi, rfl⟩ := List.getElem_of_mem hb
  rw [(getElem_chunksOf hn s i hi).2]
  exact List.length_take_le n _

/-- The first parts have the first keys, and the others are the parts of what is
left. -/
theorem parts_split {batchSize : Option Nat} (h : batchSize ≠ some 0) (s : TagSet) (i : Nat) :
    ∃ m, ((s.parts batchSize).take i).flatMap keys = s.keys.take m ∧
      (s.parts batchSize).drop i = (s.drop m).parts batchSize := by
  cases batchSize with
  | some n =>
    have hn : 0 < n := Nat.pos_of_ne_zero fun he => h (he ▸ rfl)
    obtain ⟨htake, hdrop⟩ := chunksOf_split hn i s
    refine ⟨i * n, ?_, by simpa only [parts, dif_pos hn] using hdrop⟩
    rw [parts, dif_pos hn, keys, ← List.map_take, ← htake, List.map_flatMap]
    rfl
  | none =>
    by_cases hs : s.isEmpty = true
    · exact ⟨0, by simp [parts, hs], by simp [parts, hs, drop_zero]⟩
    · cases i with
      | zero => exact ⟨0, by simp, by simp [drop_zero]⟩
      | succ i =>
        refine ⟨s.keys.length, by simp [parts, hs], ?_⟩
        have hd : (s.drop s.keys.length).isEmpty = true := by simp [TagSet.drop, TagSet.isEmpty, keys]
        simp [parts, hs, hd]

/-- The batches list the tags of the set, each once, in order. -/
theorem chunksOf_pairs {n : Nat} (hn : 0 < n) (s : TagSet) : (chunksOf n hn s).flatMap pairs = s.pairs := by
  have hlen : s.pairs.length ≤ s.pairs.length * n := Nat.le_mul_of_pos_right _ hn
  have hend : (s.drop (s.pairs.length * n)).pairs = [] := List.drop_eq_nil_of_le hlen
  obtain ⟨htake, hdrop⟩ := chunksOf_split hn s.pairs.length s
  rw [chunksOf_of_empty hend] at hdrop
  rwa [List.take_of_length_le (List.drop_eq_nil_iff.1 hdrop), List.take_of_length_le hlen] at htake

/-- And so do the parts. -/
theorem parts_pairs {batchSize : Option Nat} (h : batchSize ≠ some 0) (s : TagSet) :
    (s.parts batchSize).flatMap pairs = s.pairs := by
  cases batchSize with
  | none => by_cases hs : s.isEmpty = true <;> simp_all [parts, TagSet.isEmpty]
  | some n =>
    have hn : 0 < n := Nat.pos_of_ne_zero fun he => h (he ▸ rfl)
    rw [parts, dif_pos hn, chunksOf_pairs]

theorem parts_keys {batchSize : Option Nat} (h : batchSize ≠ some 0) (s : TagSet) :
    (s.parts batchSize).flatMap keys = s.keys := by
  rw [keys, ← parts_pairs h s, List.map_flatMap]
  rfl

theorem parts_empty (batchSize : Option Nat) : empty.parts batchSize = [] := by
  cases batchSize with
  | none => rfl
  | some n =>
    simp only [parts]
    split
    · exact chunksOf_of_empty rfl
    · rfl

/-- A key of a part has in the part the value it has in the set. -/
theorem get?_of_mem_parts {batchSize : Option Nat} (h : batchSize ≠ some 0) {b : TagSet}
    (hb : b ∈ s.parts batchSize) (hk : k ∈ b.keys) : b.get? k = s.get? k := by
  obtain ⟨v, hv⟩ := mem_keys_iff.1 hk
  have hmem : (k, v) ∈ s.pairs := by
    rw [← parts_pairs h s]
    exact List.mem_flatMap.2 ⟨b, hb, get?_eq_some_iff.1 hv⟩
  rw [hv, get?_eq_some_iff.2 hmem]

theorem mem_keys_of_mem_parts {batchSize : Option Nat} (h : batchSize ≠ some 0) {b : TagSet}
    (hb : b ∈ s.parts batchSize) (hk : k ∈ b.keys) : k ∈ s.keys := by
  rw [← parts_keys h s]
  exact List.mem_flatMap.2 ⟨b, hb, hk⟩

theorem get?_drop (s : TagSet) (m : Nat) (k : String) :
    (s.drop m).get? k = if k ∈ s.keys.take m then none else s.get? k := by
  have hsplit : s.pairs.take m ++ s.pairs.drop m = s.pairs := List.take_append_drop m s.pairs
  have hkeys : s.keys.take m ++ (s.drop m).keys = s.keys := by
    simp only [keys, TagSet.drop, ← List.map_take, ← List.map_append, hsplit]
  have hnodup : (s.keys.take m ++ (s.drop m).keys).Nodup := by rw [hkeys]; exact s.keys_nodup
  split
  next hk => exact get?_eq_none_iff.2 fun hd => List.disjoint_of_nodup_append hnodup hk hd
  next hk =>
    ext v
    rw [get?_eq_some_iff, get?_eq_some_iff, ← hsplit, List.mem_append]
    refine ⟨.inr, fun hm => hm.resolve_left fun ht => hk ?_⟩
    rw [keys, ← List.map_take]
    exact List.mem_map_of_mem ht

end Retag.TagSet
