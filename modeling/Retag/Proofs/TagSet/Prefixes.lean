/-
Leaving out the keys with given beginnings. Which keys stay depends on nothing but
the key (`TagSet.get?_withoutPrefixes_eq_some_iff`), while the differences of two sets compare
what a key looks up in both. So it does not matter whether keys are left out of a
difference or of the two sets before they are compared, and the filters of two lists
compose to that of both.

Two lists of beginnings leave out the same keys exactly if each of either list begins
with one of the other (`TagSet.withoutPrefixes_eq_iff`). Order, repetitions and
beginnings of beginnings therefore make no difference.
-/
import Mathlib.Data.List.Infix
import Retag.Proofs.TagSet.Lookup

namespace Retag.TagSet

variable {s a b : TagSet} {beginnings others : List String} {k v : String}

theorem beginsWith_iff {beginning text : String} : beginsWith beginning text = true ↔ beginning.toList <+: text.toList :=
  List.isPrefixOf_iff_prefix

/-- Each of the other texts begins with one of the beginnings. -/
def Covers (beginnings others : List String) : Prop := ∀ q ∈ others, ∃ p ∈ beginnings, p.toList <+: q.toList

theorem Covers.of_subset (h : others ⊆ beginnings) : Covers beginnings others :=
  fun q hq => ⟨q, h hq, List.prefix_refl _⟩

theorem any_beginsWith : beginnings.any (beginsWith · k) = true ↔ ∃ p ∈ beginnings, p.toList <+: k.toList := by
  simp only [List.any_eq_true, beginsWith_iff]

theorem get?_withoutPrefixes_eq_some_iff : (s.withoutPrefixes beginnings).get? k = some v ↔
    s.get? k = some v ∧ ∀ p ∈ beginnings, ¬ p.toList <+: k.toList := by
  rw [get?_withoutPrefixes]
  split
  next h =>
    obtain ⟨p, hp, hk⟩ := any_beginsWith.1 h
    exact ⟨nofun, fun hs => absurd hk (hs.2 p hp)⟩
  next h => exact ⟨fun hs => ⟨hs, fun p hp hk => h (any_beginsWith.2 ⟨p, hp, hk⟩)⟩, And.left⟩

/-! ## Differences -/

theorem removed_withoutPrefixes (a b : TagSet) (beginnings : List String) :
    (a.removed b).withoutPrefixes beginnings =
      (a.withoutPrefixes beginnings).removed (b.withoutPrefixes beginnings) := by
  refine ext_get? fun k => ?_
  rw [get?_removed, contains, get?_withoutPrefixes, get?_withoutPrefixes, get?_withoutPrefixes, get?_removed, contains]
  cases beginnings.any (beginsWith · k) <;> simp

theorem updated_withoutPrefixes (a b : TagSet) (beginnings : List String) :
    (a.updated b).withoutPrefixes beginnings =
      (a.withoutPrefixes beginnings).updated (b.withoutPrefixes beginnings) := by
  refine ext_get? fun k => ?_
  rw [get?_updated, get?_withoutPrefixes, get?_withoutPrefixes, get?_withoutPrefixes, get?_updated]
  cases beginnings.any (beginsWith · k) <;> simp

/-! ## Lists of beginnings -/

theorem withoutPrefixes_append (s : TagSet) (beginnings others : List String) :
    (s.withoutPrefixes beginnings).withoutPrefixes others = s.withoutPrefixes (beginnings ++ others) := by
  refine ext_get? fun k => ?_
  rw [get?_withoutPrefixes, get?_withoutPrefixes, get?_withoutPrefixes, List.any_append]
  cases beginnings.any (beginsWith · k) <;> cases others.any (beginsWith · k) <;> rfl

/-- What is left out for the others is left out for the beginnings that cover them. -/
theorem Covers.any (h : Covers beginnings others) (hk : others.any (beginsWith · k) = true) :
    beginnings.any (beginsWith · k) = true := by
  obtain ⟨q, hq, hqk⟩ := any_beginsWith.1 hk
  obtain ⟨p, hp, hpq⟩ := h q hq
  exact any_beginsWith.2 ⟨p, hp, hpq.trans hqk⟩

theorem withoutPrefixes_congr (h : Covers beginnings others) (h' : Covers others beginnings) (s : TagSet) :
    s.withoutPrefixes beginnings = s.withoutPrefixes others := by
  refine ext_get? fun k => ?_
  rw [get?_withoutPrefixes, get?_withoutPrefixes, Bool.eq_iff_iff.2 ⟨h'.any, h.any⟩]

/-- A set that has one of the others for its only key shows whether it is covered. -/
theorem covers_of_withoutPrefixes (h : ∀ s : TagSet, s.withoutPrefixes beginnings = s.withoutPrefixes others) :
    Covers beginnings others := by
  intro q hq
  have hself : others.any (beginsWith · q) = true := any_beginsWith.2 ⟨q, hq, List.prefix_refl _⟩
  have hleft := congrArg (fun s => s.get? q) (h (empty.insert q ""))
  simp only [get?_withoutPrefixes, hself, if_true, get?_insert] at hleft
  split at hleft
  next hany => exact any_beginsWith.1 hany
  next => cases hleft

theorem withoutPrefixes_eq_iff : (∀ s : TagSet, s.withoutPrefixes beginnings = s.withoutPrefixes others) ↔
    Covers beginnings others ∧ Covers others beginnings :=
  ⟨fun h => ⟨covers_of_withoutPrefixes h, covers_of_withoutPrefixes fun s => (h s).symm⟩,
    fun h => withoutPrefixes_congr h.1 h.2⟩

/-- **Leaving keys out goes with taking differences.** A set without the keys of some
beginnings has the tags whose keys begin with none of them. Leaving keys out of what
is removed or updated gives what is removed or updated between the sets without those
keys. Leaving out the keys of two lists one after the other leaves out those of both
together, and doing it twice changes nothing. Two lists leave out the same keys
exactly if they cover each other; so the order and the repetitions in a list do not
matter, nor does a text that begins with another one of the list. -/
theorem withoutPrefixes_difference (a b : TagSet) (beginnings others : List String) :
    (∀ k v, (a.withoutPrefixes beginnings).get? k = some v ↔
      a.get? k = some v ∧ ∀ p ∈ beginnings, ¬ p.toList <+: k.toList) ∧
    (a.removed b).withoutPrefixes beginnings =
      (a.withoutPrefixes beginnings).removed (b.withoutPrefixes beginnings) ∧
    (a.updated b).withoutPrefixes beginnings =
      (a.withoutPrefixes beginnings).updated (b.withoutPrefixes beginnings) ∧
    (a.withoutPrefixes beginnings).withoutPrefixes others = a.withoutPrefixes (beginnings ++ others) ∧
    (a.withoutPrefixes beginnings).withoutPrefixes beginnings = a.withoutPrefixes beginnings ∧
    ((∀ s : TagSet, s.withoutPrefixes beginnings = s.withoutPrefixes others) ↔
      Covers beginnings others ∧ Covers others beginnings) ∧
    ((∀ p, p ∈ beginnings ↔ p ∈ others) → a.withoutPrefixes beginnings = a.withoutPrefixes others) ∧
    (Covers beginnings others → a.withoutPrefixes (beginnings ++ others) = a.withoutPrefixes beginnings) := by
  have hcovered (h : Covers beginnings others) :
      a.withoutPrefixes (beginnings ++ others) = a.withoutPrefixes beginnings := by
    refine withoutPrefixes_congr (.of_subset (List.subset_append_left ..)) (fun q hq => ?_) a
    rcases List.mem_append.1 hq with hq | hq
    · exact ⟨q, hq, List.prefix_refl _⟩
    · exact h q hq
  refine ⟨fun k v => get?_withoutPrefixes_eq_some_iff, removed_withoutPrefixes a b _, updated_withoutPrefixes a b _,
    withoutPrefixes_append a _ _, ?_, withoutPrefixes_eq_iff, fun h => ?_, hcovered⟩
  · rw [withoutPrefixes_append]
    exact withoutPrefixes_congr (.of_subset (List.subset_append_left ..)) (.of_subset (by simp)) a
  · exact withoutPrefixes_congr (.of_subset fun p hp => (h p).2 hp) (.of_subset fun p hp => (h p).1 hp) a

/-- A list with a repetition and one without, and a beginning of a beginning. -/
theorem withoutPrefixes_difference_nested :
    let s := TagSet.ofList [("Name", "web"), ("aws:ec2:id", "i-1"), ("team:owner", "x")]
    ((∀ p, p ∈ ["aws:", "team:", "aws:"] ↔ p ∈ ["team:", "aws:"]) ∧
      s.withoutPrefixes ["aws:", "team:", "aws:"] = s.withoutPrefixes ["team:", "aws:"]) ∧
    (Covers ["aws:"] ["aws:ec2:"] ∧ s.withoutPrefixes ["aws:", "aws:ec2:"] = s.withoutPrefixes ["aws:"]) := by
  intro s
  have hsame : ∀ p, p ∈ ["aws:", "team:", "aws:"] ↔ p ∈ ["team:", "aws:"] := by
    intro p
    simp only [List.mem_cons, List.not_mem_nil, or_false]
    tauto
  have hcovers : Covers ["aws:"] ["aws:ec2:"] := by
    unfold Covers
    decide
  obtain ⟨-, -, -, -, -, -, horder, -⟩ := withoutPrefixes_difference s empty ["aws:", "team:", "aws:"] ["team:", "aws:"]
  obtain ⟨-, -, -, -, -, -, -, hnested⟩ := withoutPrefixes_difference s empty ["aws:"] ["aws:ec2:"]
  exact ⟨⟨hsame, horder hsame⟩, hcovers, hnested hcovers⟩

end Retag.TagSet
