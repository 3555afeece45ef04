/-
What steps do to the sets under names. A step assigns the names that
`Step.assigned` lists, each once, and stores there what it made; every other name
keeps its set (`Step.run_other`), and so it does along a whole run
(`Shelf.run_other`). A step that fails assigns nothing and leaves the shelf as it
is.

Whatever the steps, a shelf that is reached lists its names in ascending order
(`Shelf.run_ascending`), so a name has one set, and all views of that set agree
(`TagSet.coherent`).
-/
import Std.Data.String.ToNat
import Retag.TagSet.Shelf
import Retag.Proofs.TagSet.Batches
import Retag.Proofs.TagSet.Views

namespace Retag

namespace TagSet

/-- Setting a tag answers the value its key had. -/
theorem exchange_eq (s : TagSet) (key value : String) :
    s.exchange key value = (s.get? key, s.insert key value) :=
  Prod.ext (Keyed.exchange_fst s.ascending value) (TagSet.ext (Keyed.exchange_snd ..))

end TagSet

/-! ## Storing -/

namespace Shelf

variable {shelf : Shelf} {made : List (String × TagSet)} {name : String}

theorem store_ascending (h : Keyed.Ascending shelf) : Keyed.Ascending (shelf.store made) :=
  Keyed.foldl_insert_ascending made h

theorem named_store : (shelf.store made).named name = (Keyed.last? name made).getD (shelf.named name) := by
  rw [named, store, Keyed.get?_foldl_insert, named]
  cases Keyed.last? name made <;> rfl

theorem named_store_of_not_mem (h : name ∉ made.map (·.1)) : (shelf.store made).named name = shelf.named name := by
  rw [named_store, Keyed.last?_of_not_mem h, Option.getD_none]

theorem named_store_of_mem (h : (made.map (·.1)).Nodup) {m : String × TagSet} (hm : m ∈ made) :
    (shelf.store made).named m.1 = m.2 := by
  have hlast : Keyed.last? m.1 made = some m.2 := by
    rw [Keyed.last?_of_nodup h, Keyed.get?_eq_some_iff_of_nodup h]
    exact hm
  rw [named_store, hlast, Option.getD_some]

theorem numbered_names (name : String) (sets : List TagSet) :
    (numbered name sets).map (·.1) = (List.range sets.length).map fun i => name ++ toString i := by
  rw [numbered, List.map_map, List.range_eq_range', ← List.zipIdx_map_snd, List.map_map]
  rfl

/-! ## Steps -/

namespace Step

/-- The names that a step assigns. A text that cannot be read and batches of no
tags assign none. -/
def assigned (shelf : Shelf) : Step → List String
  | build _ target | copy _ target | removed _ _ target | updated _ _ target | withoutReserved _ target
  | withoutPrefixes _ _ target => [target]
  | parse text target => if (Json.parse text).isOk then [target] else []
  | read text target => if (TagSet.read text).isOk then [target] else []
  | insert set _ _ => [set]
  | chunks set size (some target) =>
    if 0 < size then
      (List.range (((shelf.named set).size + size - 1) / size)).map fun i => target ++ toString i
    else []
  | chunks _ _ none | look _ _ => []

variable {step : Step}

theorem numbered_nodup (target : String) (n : Nat) :
    ((List.range n).map fun i => target ++ toString i).Nodup := by
  refine List.nodup_range.map fun i j hij => Nat.repr_injective ?_
  exact (String.append_right_inj target).1 hij

theorem assigned_nodup (shelf : Shelf) (step : Step) : (step.assigned shelf).Nodup := by
  cases step with
  | parse text target | read text target =>
    simp only [assigned]
    split <;> simp
  | chunks set size target =>
    cases target with
    | none => exact List.nodup_nil
    | some target =>
      simp only [assigned]
      split
      · exact numbered_nodup target _
      · exact List.nodup_nil
  | look set view => exact List.nodup_nil
  | _ => exact List.nodup_singleton _

theorem made_names (shelf : Shelf) (step : Step) : (step.outcome shelf).made.map (·.1) = step.assigned shelf := by
  cases step with
  | parse text target =>
    simp only [outcome, assigned]
    cases Json.parse text <;> rfl
  | read text target =>
    simp only [outcome, assigned]
    cases TagSet.read text <;> rfl
  | chunks set size target =>
    by_cases hsize : 0 < size
    · cases target with
      | none => simp [outcome, assigned, TagSet.chunks, hsize]
      | some target =>
        simp only [outcome, assigned, TagSet.chunks, hsize, dif_pos, if_pos, numbered_names,
          TagSet.length_chunksOf]
    · cases target <;> simp [outcome, assigned, TagSet.chunks, hsize]
  | _ => rfl

/-- A step leaves every other name its set. -/
theorem run_other (h : name ∉ step.assigned shelf) : (step.run shelf).1.named name = shelf.named name :=
  named_store_of_not_mem (by rwa [made_names])

/-- A step stores what it made. -/
theorem run_made {m : String × TagSet} (h : m ∈ (step.outcome shelf).made) : (step.run shelf).1.named m.1 = m.2 :=
  named_store_of_mem (by rw [made_names]; exact assigned_nodup shelf step) h

theorem run_insert (shelf : Shelf) (set key value : String) :
    ((insert set key value).run shelf).1.named set = (shelf.named set).insert key value ∧
      ((insert set key value).run shelf).2 =
        .exchanged ((shelf.named set).get? key) ((shelf.named set).insert key value) := by
  have hmade : (insert set key value).outcome shelf =
      ⟨[(set, (shelf.named set).insert key value)],
        .exchanged ((shelf.named set).get? key) ((shelf.named set).insert key value)⟩ := by
    simp only [outcome, TagSet.exchange_eq]
  refine ⟨run_made (m := (set, _)) ?_, ?_⟩
  · rw [hmade]
    exact List.mem_singleton_self _
  · rw [run, hmade]

end Step

/-! ## Runs -/

variable {steps : List Step}

theorem run_cons (shelf : Shelf) (step : Step) (steps : List Step) :
    (run shelf (step :: steps)).1 = (run (step.run shelf).1 steps).1 := rfl

/-- Names stay in ascending order. -/
theorem run_ascending (h : Keyed.Ascending shelf) (steps : List Step) : Keyed.Ascending (run shelf steps).1 := by
  induction steps generalizing shelf with
  | nil => exact h
  | cons step steps ih => exact ih (store_ascending h)

/-- A name keeps its set as long as no step assigns it. -/
theorem run_other {name : String}
    (h : ∀ before step after, steps = before ++ step :: after → name ∉ step.assigned (run shelf before).1) :
    (run shelf steps).1.named name = shelf.named name := by
  induction steps generalizing shelf with
  | nil => rfl
  | cons step steps ih =>
    rw [run_cons, ih fun before step' after heq => ?_]
    · exact Step.run_other (h [] step steps rfl)
    · exact h (step :: before) step' after (by rw [heq]; rfl)

/-- Where names ascend, a set on the shelf is the set of its name. -/
theorem named_of_mem (h : Keyed.Ascending shelf) {m : String × TagSet} (hm : m ∈ shelf) : shelf.named m.1 = m.2 := by
  rw [named, (Keyed.get?_eq_some_iff h).2 hm, Option.getD_some]

/-- **Every reachable shelf is coherent, and a step changes nothing but what it
assigns.** After any steps, all views of every set agree. -/
theorem run_coherent (steps : List Step) :
    let shelf := (run [] steps).1
    (∀ m ∈ shelf, m.2.Coherent ∧ shelf.named m.1 = m.2) ∧
    (∀ set key value, let r := (Step.insert set key value).run shelf
      r.2 = .exchanged ((shelf.named set).get? key) (r.1.named set) ∧
      ∀ k, (r.1.named set).get? k = if k = key then some value else (shelf.named set).get? k) ∧
    (∀ step : Step, (∀ name, name ∉ step.assigned shelf → (step.run shelf).1.named name = shelf.named name) ∧
      ∀ m ∈ (step.outcome shelf).made, (step.run shelf).1.named m.1 = m.2) ∧
    (∀ text target f, Json.parse text = .error f → (Step.parse text target).run shelf = (shelf, .faulty f)) ∧
    (∀ text target f, TagSet.read text = .error f → (Step.read text target).run shelf = (shelf, .faulty f)) ∧
    ∀ set target, (Step.chunks set 0 target).run shelf = (shelf, .refused ⟨0⟩) := by
  intro shelf
  have hascending : Keyed.Ascending shelf := run_ascending List.Pairwise.nil steps
  refine ⟨fun m hm => ⟨m.2.coherent, named_of_mem hascending hm⟩, fun set key value => ?_,
    fun step => ⟨fun name h => Step.run_other h, fun m hm => Step.run_made hm⟩, fun text target f h => ?_,
    fun text target f h => ?_, fun set target => rfl⟩
  · obtain ⟨hset, hanswer⟩ := Step.run_insert shelf set key value
    exact ⟨by rw [hset, hanswer], fun k => by rw [hset, TagSet.get?_insert]⟩
  · simp only [Step.run, Step.outcome, h]
    rfl
  · simp only [Step.run, Step.outcome, h]
    rfl

/-- A set and its batches of one tag, and two texts that are no sets. -/
theorem run_coherent_batches :
    let shelf := (run [] [.build (.sequence [("b", "1"), ("a", "2"), ("b", "3")]) "tags",
      .chunks "tags" 1 (some "part")]).1
    let copy := Step.copy "part1" "other"
    (("part1", TagSet.ofList [("b", "3")]) ∈ shelf ∧ (TagSet.ofList [("b", "3")]).Coherent) ∧
    ("tags" ∉ copy.assigned shelf ∧ (copy.run shelf).1.named "tags" = shelf.named "tags") ∧
    (("other", TagSet.ofList [("b", "3")]) ∈ (copy.outcome shelf).made ∧
      (copy.run shelf).1.named "other" = TagSet.ofList [("b", "3")]) ∧
    (∃ f, Json.parse "[" = .error f ∧ (Step.parse "[" "tags").run shelf = (shelf, .faulty f)) ∧
    ∃ f, TagSet.read "[1]" = .error f ∧ (Step.read "[1]" "tags").run shelf = (shelf, .faulty f) := by
  intro shelf copy
  have hmem : ("part1", TagSet.ofList [("b", "3")]) ∈ shelf := by decide +kernel
  have hother : "tags" ∉ copy.assigned shelf := by decide
  have hmade : ("other", TagSet.ofList [("b", "3")]) ∈ (copy.outcome shelf).made := by decide +kernel
  obtain ⟨hall, -, hstep, hparse, hread, -⟩ := run_coherent
    [.build (.sequence [("b", "1"), ("a", "2"), ("b", "3")]) "tags", .chunks "tags" 1 (some "part")]
  exact ⟨⟨hmem, (hall _ hmem).1⟩, ⟨hother, (hstep copy).1 _ hother⟩, ⟨hmade, (hstep copy).2 _ hmade⟩,
    ⟨_, rfl, hparse "[" "tags" _ rfl⟩, ⟨_, rfl, hread "[1]" "tags" _ rfl⟩⟩

end Shelf

end Retag
