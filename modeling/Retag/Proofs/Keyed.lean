/-
Lists of pairs in ascending key order, seen through `Keyed.get?`. A pair is
listed exactly if its key looks up its value (`Keyed.get?_eq_some_iff`), so an
ascending list is what its keys look up (`Keyed.ext_get?`). A list that is built
up pair by pair looks up, for each key, the last value it was given
(`Keyed.get?_ofList`).
-/
import Mathlib.Data.List.Induction
import Mathlib.Data.List.Nodup
import Retag.Keyed

namespace Retag

namespace Keyed

variable {α : Type} {pairs : List (String × α)} {k : String}

theorem get?_mem {v : α} (h : get? k pairs = some v) : (k, v) ∈ pairs := by
  induction pairs with
  | nil => simp [get?] at h
  | cons p rest ih =>
    obtain ⟨k', v'⟩ := p
    simp only [get?] at h
    split at h
    next hk => cases h; subst hk; exact List.mem_cons_self
    next => exact List.mem_cons_of_mem _ (ih h)

theorem get?_eq_none_iff : get? k pairs = none ↔ k ∉ pairs.map (·.1) := by
  induction pairs with
  | nil => simp [get?]
  | cons p rest ih =>
    obtain ⟨k', v'⟩ := p
    by_cases hk : k = k'
    · simp [get?, hk]
    · rw [get?, if_neg hk, ih]
      simp [hk]

theorem get?_eq_some_iff_of_nodup (h : (pairs.map (·.1)).Nodup) {v : α} :
    get? k pairs = some v ↔ (k, v) ∈ pairs := by
  refine ⟨get?_mem, fun hm => ?_⟩
  induction pairs with
  | nil => simp at hm
  | cons p rest ih =>
    obtain ⟨k', v'⟩ := p
    obtain ⟨hk', hrest⟩ := List.nodup_cons.1 h
    rcases List.mem_cons.1 hm with heq | hm
    · cases heq; simp [get?]
    · have hne : k ≠ k' := fun he => hk' (List.mem_map.2 ⟨_, hm, he⟩)
      simp only [get?, if_neg hne, ih hrest hm]

/-- No key is listed twice. -/
theorem keys_nodup (h : Ascending pairs) : (pairs.map (·.1)).Nodup := by
  refine List.Pairwise.map _ (fun a b hab he => ?_) h
  exact String.lt_irrefl b.1 (he ▸ hab)

theorem get?_eq_some_iff (h : Ascending pairs) {v : α} : get? k pairs = some v ↔ (k, v) ∈ pairs :=
  get?_eq_some_iff_of_nodup (keys_nodup h)

/-- An exchange stops at the first greater key and answers nothing there: in
ascending order none of the later keys can be the one it looks for. -/
theorem exchange_fst (h : Ascending pairs) (value : α) : (exchange k value pairs).1 = get? k pairs := by
  induction pairs with
  | nil => rfl
  | cons p rest ih =>
    obtain ⟨k', v'⟩ := p
    obtain ⟨hk', hrest⟩ := List.pairwise_cons.1 h
    simp only [exchange, get?]
    split
    next hlt =>
      have hlater : k ∉ rest.map (·.1) := fun hm => by
        obtain ⟨q, hq, hqk⟩ := List.mem_map.1 hm
        exact String.lt_asymm hlt (hqk ▸ hk' q hq)
      rw [if_neg (String.ne_of_lt hlt), get?_eq_none_iff.2 hlater]
    next =>
      split
      next => rfl
      next => exact ih hrest

/-- A list in ascending order is what its keys look up. -/
theorem ext_get? {a b : List (String × α)} (ha : Ascending a) (hb : Ascending b)
    (h : ∀ k, get? k a = get? k b) : a = b := by
  have hmem : ∀ p, p ∈ a ↔ p ∈ b := fun ⟨k, v⟩ => by
    rw [← get?_eq_some_iff ha, ← get?_eq_some_iff hb, h]
  have hperm : a.Perm b :=
    (List.perm_ext_iff_of_nodup (keys_nodup ha).of_map (keys_nodup hb).of_map).2 hmem
  refine hperm.eq_of_pairwise (fun p q _ _ hpq hqp => ?_) ha hb
  exact absurd (String.lt_trans hpq hqp) (String.lt_irrefl _)

/-- In ascending order the first pair whose key passes a test has the smallest of
these keys. -/
theorem find?_eq_some_iff (h : Ascending pairs) (test : String → Bool) {p : String × α} :
    pairs.find? (fun q => test q.1) = some p ↔
      p ∈ pairs ∧ test p.1 = true ∧ ∀ q ∈ pairs, test q.1 = true → q = p ∨ p.1 < q.1 := by
  induction pairs with
  | nil => simp
  | cons q rest ih =>
    obtain ⟨hq, hrest⟩ := List.pairwise_cons.1 h
    cases htest : test q.1 with
    | true =>
      simp only [List.find?_cons, htest, Option.some.injEq]
      constructor
      · rintro rfl
        refine ⟨List.mem_cons_self, htest, fun r hr _ => ?_⟩
        exact (List.mem_cons.1 hr).imp id (hq r)
      · rintro ⟨hp, -, hfirst⟩
        rcases List.mem_cons.1 hp with rfl | hp
        · rfl
        · rcases hfirst q List.mem_cons_self htest with rfl | hlt
          · rfl
          · exact absurd hlt (String.lt_asymm (hq p hp))
    | false =>
      simp only [List.find?_cons, htest, ih hrest, List.mem_cons, forall_eq_or_imp]
      have hne : test p.1 = true → p ≠ q := fun hp he => by simp [← he, hp] at htest
      constructor
      · rintro ⟨hp, htp, hfirst⟩
        exact ⟨.inr hp, htp, nofun, hfirst⟩
      · rintro ⟨hp, htp, -, hfirst⟩
        exact ⟨hp.resolve_left (hne htp), htp, hfirst⟩

/-! ## Pairs inserted one after another -/

/-- The value of the last pair with a key. -/
def last? (k : String) (pairs : List (String × α)) : Option α :=
  ((pairs.filter (·.1 == k)).getLast?).map (·.2)

theorem last?_append_singleton (k : String) (pairs : List (String × α)) (p : String × α) :
    last? k (pairs ++ [p]) = if k = p.1 then some p.2 else last? k pairs := by
  by_cases h : k = p.1
  · simp [last?, h]
  · have hne : (p.1 == k) = false := by simpa using fun he => h he.symm
    simp [last?, h, hne]

theorem last?_append (k : String) (pairs others : List (String × α)) :
    last? k (pairs ++ others) = (last? k others).or (last? k pairs) := by
  rw [last?, List.filter_append, List.getLast?_append, Option.map_or]
  rfl

theorem filter_key_eq_nil (h : k ∉ pairs.map (·.1)) : pairs.filter (·.1 == k) = [] :=
  List.filter_eq_nil_iff.2 fun p hp he => h (List.mem_map.2 ⟨p, hp, by simpa using he⟩)

theorem last?_of_not_mem (h : k ∉ pairs.map (·.1)) : last? k pairs = none := by
  rw [last?, filter_key_eq_nil h, List.getLast?_nil, Option.map_none]

/-- Behind the last pair with a key no other pair has the key. -/
theorem last?_eq_some_iff {v : α} : last? k pairs = some v ↔
    ∃ before after, pairs = before ++ (k, v) :: after ∧ k ∉ after.map (·.1) := by
  constructor
  · intro h
    induction pairs using List.reverseRecOn with
    | nil => cases h
    | append_singleton pairs p ih =>
      obtain ⟨k', v'⟩ := p
      rw [last?_append_singleton] at h
      split at h
      next hk =>
        cases h
        exact ⟨pairs, [], by rw [hk], by simp⟩
      next hk =>
        obtain ⟨before, after, rfl, hafter⟩ := ih h
        exact ⟨before, after ++ [(k', v')], by simp, by simpa using ⟨by simpa using hafter, hk⟩⟩
  · rintro ⟨before, after, rfl, hafter⟩
    have hlast : last? k (before ++ [(k, v)]) = some v := by rw [last?_append_singleton, if_pos rfl]
    rw [← List.singleton_append, ← List.append_assoc, last?_append, last?_of_not_mem hafter, hlast, Option.none_or]

/-- Of the items that stand for pairs with a key, the last one gives the value. -/
theorem last?_filterMap_eq_some_iff {β : Type} {f : β → Option (String × α)} {items : List β} {v : α} :
    last? k (items.filterMap f) = some v ↔ ∃ before item after, items = before ++ item :: after ∧
      f item = some (k, v) ∧ ∀ later ∈ after, ∀ w, f later ≠ some (k, w) := by
  have hnone (after : List β) : k ∉ (after.filterMap f).map (·.1) ↔ ∀ later ∈ after, ∀ w, f later ≠ some (k, w) := by
    simp only [List.mem_map, List.mem_filterMap, not_exists, not_and]
    exact ⟨fun h later hlater w hw => h (k, w) ⟨later, hlater, hw⟩ rfl,
      fun h p hp hk => hp.elim fun later hl => h later hl.1 p.2 (hk ▸ hl.2)⟩
  rw [last?_eq_some_iff]
  constructor
  · rintro ⟨earlier, others, hitems, hothers⟩
    obtain ⟨before, rest, rfl, -, hrest⟩ := List.filterMap_eq_append_iff.1 hitems
    obtain ⟨skipped, item, after, rfl, -, hitem, rfl⟩ := List.filterMap_eq_cons_iff.1 hrest
    exact ⟨before ++ skipped, item, after, by simp, hitem, (hnone after).1 hothers⟩
  · rintro ⟨before, item, after, rfl, hitem, hafter⟩
    exact ⟨before.filterMap f, after.filterMap f, by rw [List.filterMap_append, List.filterMap_cons_some hitem],
      (hnone after).2 hafter⟩

/-- Where no two pairs have one key, the last pair with a key is the only one. -/
theorem last?_of_nodup (h : (pairs.map (·.1)).Nodup) : last? k pairs = get? k pairs := by
  induction pairs with
  | nil => rfl
  | cons p rest ih =>
    obtain ⟨k', v'⟩ := p
    obtain ⟨hk', hrest⟩ := List.nodup_cons.1 h
    by_cases hk : k = k'
    · subst hk
      simp [last?, get?, filter_key_eq_nil hk']
    · have hne : (k' == k) = false := by simpa using fun he => hk he.symm
      rw [get?, if_neg hk, ← ih hrest]
      simp [last?, hne]

/-- Inserting pairs one after another, each key keeps the last value it is given,
or what it had if it is given none. -/
theorem get?_foldl_insert (k : String) (pairs acc : List (String × α)) :
    get? k (pairs.foldl (fun acc p => insert p.1 p.2 acc) acc) = (last? k pairs).or (get? k acc) := by
  induction pairs using List.reverseRecOn with
  | nil => rfl
  | append_singleton pairs p ih =>
    rw [List.foldl_append, List.foldl_cons, List.foldl_nil, get?_insert, last?_append_singleton, ih]
    split <;> rfl

/-- Nothing is listed that was not inserted. -/
theorem mem_of_mem_ofList {p : String × α} (h : p ∈ ofList pairs) : p ∈ pairs := by
  induction pairs using List.reverseRecOn with
  | nil => exact h
  | append_singleton pairs q ih =>
    rw [ofList, List.foldl_append] at h
    rcases mem_insert h with rfl | h
    · simp
    · exact List.mem_append_left _ (ih h)

theorem get?_ofList (k : String) (pairs : List (String × α)) : get? k (ofList pairs) = last? k pairs := by
  rw [ofList, get?_foldl_insert, get?, Option.or_none]

/-- What keys look up does not depend on the order, as long as no two pairs have
one key. -/
theorem get?_perm {other : List (String × α)} (h : (pairs.map (·.1)).Nodup) (hp : other.Perm pairs) :
    get? k other = get? k pairs := by
  have hother : (other.map (·.1)).Nodup := (hp.map _).nodup_iff.2 h
  ext v
  rw [get?_eq_some_iff_of_nodup hother, get?_eq_some_iff_of_nodup h, hp.mem_iff]

/-- A list in ascending order is built up as it is. -/
theorem ofList_of_ascending (h : Ascending pairs) : ofList pairs = pairs :=
  ext_get? (ofList_ascending pairs) h fun k => by rw [get?_ofList, last?_of_nodup (keys_nodup h)]

end Keyed

end Retag
