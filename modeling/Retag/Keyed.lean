/-
Lists of pairs in strictly ascending key order, the shape of every finite map
of this library. Keys compare by the bytes of their text, which for strings of
Unicode scalar values is the order of `<`.

* `Keyed.insert_ascending`: inserting keeps the order, so no key is listed
  twice.
* `Keyed.get?_insert`: after an insertion the new key has the new value and
  every other key what it had.
* `Keyed.exchange_snd`: an exchange is an insertion that also answers the value
  it replaced.
-/
namespace Retag

/-- Strictly ascending in the first components. -/
abbrev Keyed.Ascending {α : Type} (pairs : List (String × α)) : Prop :=
  pairs.Pairwise fun a b => a.1 < b.1

namespace Keyed

variable {α : Type}

/-- Puts a pair at its place; the value of a key already there is replaced. -/
def insert (key : String) (value : α) : List (String × α) → List (String × α)
  | [] => [(key, value)]
  | (k, v) :: rest =>
    if key < k then (key, value) :: (k, v) :: rest
    else if key = k then (key, value) :: rest
    else (k, v) :: insert key value rest

/-- Puts a pair at its place, and answers the value that was there. -/
def exchange (key : String) (value : α) : List (String × α) → Option α × List (String × α)
  | [] => (none, [(key, value)])
  | (k, v) :: rest =>
    if key < k then (none, (key, value) :: (k, v) :: rest)
    else if key = k then (some v, (key, value) :: rest)
    else
      let (old, rest) := exchange key value rest
      (old, (k, v) :: rest)

/-- The value of a key. -/
def get? (key : String) : List (String × α) → Option α
  | [] => none
  | (k, v) :: rest => if key = k then some v else get? key rest

/-- The pairs inserted one after another: of two pairs with one key the later
wins. -/
def ofList (pairs : List (String × α)) : List (String × α) :=
  pairs.foldl (fun acc p => insert p.1 p.2 acc) []

/-- A key of the result is the inserted one or was there. -/
theorem mem_insert {key : String} {value : α} {pairs : List (String × α)} {p : String × α}
    (h : p ∈ insert key value pairs) : p = (key, value) ∨ p ∈ pairs := by
  induction pairs with
  | nil => simpa [insert] using h
  | cons q rest ih =>
    obtain ⟨k, v⟩ := q
    simp only [insert] at h
    split at h
    · simpa using h
    · split at h
      · rcases List.mem_cons.1 h with h | h
        · exact .inl h
        · exact .inr (List.mem_cons_of_mem _ h)
      · rcases List.mem_cons.1 h with h | h
        · exact .inr (h ▸ List.mem_cons_self)
        · exact (ih h).imp id (List.mem_cons_of_mem _)

theorem insert_ascending {key : String} {value : α} {pairs : List (String × α)}
    (h : Ascending pairs) : Ascending (insert key value pairs) := by
  induction pairs with
  | nil => simp [insert]
  | cons q rest ih =>
    obtain ⟨k, v⟩ := q
    obtain ⟨hk, hr⟩ := List.pairwise_cons.1 h
    simp only [insert]
    split
    next hlt =>
      refine List.pairwise_cons.2 ⟨fun p hp => ?_, h⟩
      rcases List.mem_cons.1 hp with rfl | hp
      · exact hlt
      · exact String.lt_trans hlt (hk p hp)
    next hlt =>
      split
      next heq => exact List.pairwise_cons.2 ⟨fun p hp => heq ▸ hk p hp, hr⟩
      next hne =>
        refine List.pairwise_cons.2 ⟨fun p hp => ?_, ih hr⟩
        rcases mem_insert hp with rfl | hp
        · have : k < key := by grind
          exact this
        · exact hk p hp

/-- What an insertion does, seen through `get?`. -/
theorem get?_insert (key k : String) (value : α) (pairs : List (String × α)) :
    get? k (insert key value pairs) = if k = key then some value else get? k pairs := by
  induction pairs with
  | nil => simp [insert, get?]
  | cons q rest ih =>
    obtain ⟨k', v'⟩ := q
    simp only [insert]
    split
    · simp [get?]
    · split
      next heq => subst heq; by_cases h : k = key <;> simp [get?, h]
      next hne =>
        by_cases h : k = k'
        · have hkk : k ≠ key := fun e => hne (e ▸ h)
          subst h; simp [get?, hkk]
        · simp [get?, h, ih]

/-- An exchange leaves what an insertion leaves. -/
theorem exchange_snd (key : String) (value : α) (pairs : List (String × α)) :
    (exchange key value pairs).2 = insert key value pairs := by
  induction pairs with
  | nil => rfl
  | cons q rest ih =>
    obtain ⟨k, v⟩ := q
    simp only [exchange, insert]
    split
    · rfl
    · split
      · rfl
      · rw [← ih]

theorem foldl_insert_ascending (pairs : List (String × α)) {acc : List (String × α)} (h : Ascending acc) :
    Ascending (pairs.foldl (fun acc p => insert p.1 p.2 acc) acc) := by
  induction pairs generalizing acc with
  | nil => exact h
  | cons p pairs ih => exact ih (insert_ascending h)

theorem ofList_ascending (pairs : List (String × α)) : Ascending (ofList pairs) :=
  foldl_insert_ascending pairs List.Pairwise.nil

/-- The keys of the pairs are the keys of the map. -/
theorem mem_keys_insert {key k : String} {value : α} {pairs : List (String × α)} :
    k ∈ (insert key value pairs).map (·.1) ↔ k = key ∨ k ∈ pairs.map (·.1) := by
  induction pairs with
  | nil => simp [insert]
  | cons q rest ih =>
    obtain ⟨k', v'⟩ := q
    simp only [insert]
    split
    · simp
    · split
      next heq => simp [heq]
      next hne => simp only [List.map_cons, List.mem_cons, ih, or_left_comm]

theorem mem_keys_ofList {k : String} {pairs : List (String × α)} :
    k ∈ (ofList pairs).map (·.1) ↔ k ∈ pairs.map (·.1) := by
  have key : ∀ (l acc : List (String × α)),
      k ∈ (l.foldl (fun acc p => insert p.1 p.2 acc) acc).map (·.1) ↔
        k ∈ l.map (·.1) ∨ k ∈ acc.map (·.1) := by
    intro l
    induction l with
    | nil => simp
    | cons p l ih =>
      intro acc
      rw [List.foldl_cons, ih, mem_keys_insert, List.map_cons, List.mem_cons, or_assoc,
        or_left_comm]
  rw [ofList, key pairs [], List.map_nil]
  simp

end Keyed

end Retag
