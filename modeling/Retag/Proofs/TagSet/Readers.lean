/-
The two readers of a tag set. One takes an object of texts (`TagSet.read`), the other
every JSON value (`TagSet.ofJson` of what `Json.parse` reads). They go through the
members of an object in the same way, so both are compared with what stands in the
text: its members one after another, before repeated ones are replaced
(`Json.membersOf`).

A text is read as an object exactly if it has members (`Json.parse_eq_object_iff`), and
by the reader of objects of texts exactly if the members have texts for values
(`TagSet.read_eq_ok_iff`). Both readers have fuel, and not the same. Each pair takes up
at least one character, so either fuel is enough (`TagSet.length_le_of_readPairs`).
-/
import Retag.Proofs.TagSet.Encodings

namespace Retag

namespace Json

/-- The members of the object that a text writes, in the order of the text. -/
def membersOf (text : String) : Except Fault (List (String × Json)) := do
  let cur := (Cursor.start text).skipBlank
  match cur.rest with
  | '{' :: _ =>
    let (members, cur) ← readMembers (fuelFor text - 1) (nestingLimit - 1) true cur.next
    readEnd cur
    .ok members
  | _ => .error (wrongKind "a map" cur)

/-- No two members of a text's object have one name. -/
def Unrepeated (text : String) : Prop := ∀ members, membersOf text = .ok members → (members.map (·.1)).Nodup

/-! ## What readers take up -/

theorem skip_length_le (rest : List Char) (p : Position) : (Cursor.skip rest p).rest.length ≤ rest.length := by
  induction rest generalizing p with
  | nil => exact Nat.le_refl _
  | cons c rest ih =>
    rw [Cursor.skip]
    split
    · exact Nat.le_succ_of_le (ih _)
    · exact Nat.le_refl _

theorem skipBlank_length_le (cur : Cursor) : cur.skipBlank.rest.length ≤ cur.rest.length := skip_length_le _ _

theorem next_length {cur : Cursor} {c : Char} {rest : List Char} (h : cur.rest = c :: rest) :
    cur.next.rest.length + 1 = cur.rest.length := by
  rw [Cursor.next, h, List.length_cons]

theorem readText_length_lt {acc rest : List Char} {p : Position} {s : String} {cur' : Cursor}
    (h : readText acc p rest = .ok (s, cur')) : cur'.rest.length < rest.length := by
  fun_induction readText acc p rest
  -- The two halves of a pair are passed at once.
  case case6 ih =>
    have hshorter := ih h
    simp only [List.length_cons]
    omega
  all_goals grind

theorem nextName_length_lt {first : Bool} {cur cur' : Cursor} (h : nextName first cur = .ok (some cur')) :
    cur'.rest.length < cur.rest.length := by
  have hskip := skipBlank_length_le cur
  have hskip' := skipBlank_length_le cur.skipBlank.next
  rw [nextName] at h
  grind [next_length]

theorem readColon_length_lt {cur cur' : Cursor} (h : readColon cur = .ok cur') :
    cur'.rest.length < cur.rest.length := by
  have hskip := skipBlank_length_le cur
  rw [readColon] at h
  grind [next_length]

theorem readString_length_lt {cur cur' : Cursor} {s : String} (h : readString cur = .ok (s, cur')) :
    cur'.rest.length < cur.rest.length := by
  have hskip := skipBlank_length_le cur
  rw [readString.eq_def] at h
  dsimp only at h
  split at h
  next => cases h
  next rest hrest =>
    have hshorter := readText_length_lt h
    rw [hrest, List.length_cons] at hskip
    omega
  next => cases h

/-- Where a text is read, a value is read that is a text. -/
theorem readValue_of_readString {cur cur' : Cursor} {s : String} (h : readString cur = .ok (s, cur')) (fuel d : Nat) :
    readValue (fuel + 1) d cur = .ok (.string s, cur') := by
  rw [readString.eq_def] at h
  dsimp only at h
  split at h
  next => cases h
  next rest hrest => simp [readValue, hrest, h, bind, Except.bind]
  next => cases h

/-! ## Members -/

theorem readValue_object_inv {fuel d : Nat} {cur cur' : Cursor} {l : List (String × Json)}
    (h : readValue (fuel + 1) (d + 1) cur = .ok (.object l, cur')) : ∃ rest members, cur.skipBlank.rest = '{' :: rest ∧
      readMembers fuel d true cur.skipBlank.next = .ok (members, cur') ∧ l = Keyed.ofList members := by
  rw [readValue.eq_def] at h
  simp only at h
  split at h
  case h_8 rest hrest =>
    obtain ⟨⟨members, at₁⟩, hmembers, h⟩ := bind_eq_ok.1 h
    cases h
    exact ⟨rest, members, hrest, hmembers, rfl⟩
  -- In all other places the value is of another kind.
  all_goals (try split at h)
  all_goals simp [bind_eq_ok] at h

theorem membersOf_eq_ok_iff {text : String} {members : List (String × Json)} :
    membersOf text = .ok members ↔ ∃ rest cur, (Cursor.start text).skipBlank.rest = '{' :: rest ∧
      readMembers (fuelFor text - 1) (nestingLimit - 1) true (Cursor.start text).skipBlank.next = .ok (members, cur) ∧
      readEnd cur = .ok () := by
  rw [membersOf]
  dsimp only
  constructor
  · intro h
    split at h
    next rest hopen =>
      obtain ⟨⟨members', cur⟩, hmembers, h⟩ := bind_eq_ok.1 h
      obtain ⟨⟨⟩, hend, h⟩ := bind_eq_ok.1 h
      cases h
      exact ⟨rest, cur, hopen, hmembers, hend⟩
    next => cases h
  · rintro ⟨rest, cur, hopen, hmembers, hend⟩
    simp [hopen, hmembers, hend, bind, Except.bind]

/-- An object is what a text's members make. -/
theorem parse_eq_object_iff {text : String} {l : List (String × Json)} :
    parse text = .ok (.object l) ↔ ∃ members, membersOf text = .ok members ∧ l = Keyed.ofList members := by
  have hfuel : fuelFor text = (fuelFor text - 1) + 1 := by rw [fuelFor]; omega
  simp only [membersOf_eq_ok_iff]
  constructor
  · intro h
    obtain ⟨⟨v, cur⟩, hvalue, h⟩ := bind_eq_ok.1 h
    obtain ⟨⟨⟩, hend, h⟩ := bind_eq_ok.1 h
    obtain rfl : v = .object l := Except.ok.inj h
    rw [hfuel] at hvalue
    obtain ⟨rest, members, hopen, hmembers, rfl⟩ := readValue_object_inv hvalue
    exact ⟨members, ⟨rest, cur, hopen, hmembers, hend⟩, rfl⟩
  · rintro ⟨members, ⟨rest, cur, hopen, hmembers, hend⟩, rfl⟩
    have hvalue : readValue (fuelFor text) nestingLimit (Cursor.start text) = .ok (ofMembers members, cur) := by
      rw [hfuel, nestingLimit, readValue.eq_def]
      dsimp only
      split
      case h_8 => exact bind_eq_ok.2 ⟨(members, cur), hmembers, rfl⟩
      all_goals grind
    simp [parse, hvalue, hend, bind, Except.bind, ofMembers]

end Json

namespace TagSet

open Json

/-! ## Pairs -/

/-- Every pair takes up at least one character, and so does the closing brace. -/
theorem length_le_of_readPairs {fuel : Nat} {pairs : List (String × String)} {first : Bool} {cur cur' : Cursor}
    (h : readPairs fuel first cur = .ok (pairs, cur')) : pairs.length ≤ cur.rest.length := by
  induction fuel generalizing pairs first cur with
  | zero => rw [readPairs] at h; cases h
  | succ fuel ih =>
    rw [readPairs] at h
    obtain ⟨next, hnext, h⟩ := bind_eq_ok.1 h
    cases next with
    | none => cases h; simp
    | some at₀ =>
      obtain ⟨⟨k, at₁⟩, hkey, h⟩ := bind_eq_ok.1 h
      obtain ⟨at₂, hcolon, h⟩ := bind_eq_ok.1 h
      obtain ⟨⟨v, at₃⟩, hvalue, h⟩ := bind_eq_ok.1 h
      obtain ⟨⟨rest, at₄⟩, hrest, h⟩ := bind_eq_ok.1 h
      cases h
      have := nextName_length_lt hnext
      have := readText_length_lt hkey
      have := readColon_length_lt hcolon
      have := readString_length_lt hvalue
      have := ih hrest
      rw [List.length_cons]
      omega

/-- Where pairs are read, members are read whose values are texts. -/
theorem readMembers_of_readPairs {fuel fuel' : Nat} {pairs : List (String × String)} {first : Bool} {cur cur' : Cursor}
    (h : readPairs fuel first cur = .ok (pairs, cur')) (hfuel : pairs.length < fuel') (d : Nat) :
    readMembers fuel' d first cur = .ok (textMembers pairs, cur') := by
  induction fuel generalizing fuel' pairs first cur with
  | zero => rw [readPairs] at h; cases h
  | succ fuel ih =>
    obtain ⟨fuel', rfl⟩ : ∃ n, fuel' = n + 1 := ⟨fuel' - 1, by omega⟩
    rw [readPairs] at h
    obtain ⟨next, hnext, h⟩ := bind_eq_ok.1 h
    rw [readMembers, hnext]
    cases next with
    | none => cases h; rfl
    | some at₀ =>
      obtain ⟨⟨k, at₁⟩, hkey, h⟩ := bind_eq_ok.1 h
      obtain ⟨at₂, hcolon, h⟩ := bind_eq_ok.1 h
      obtain ⟨⟨v, at₃⟩, hvalue, h⟩ := bind_eq_ok.1 h
      obtain ⟨⟨rest, at₄⟩, hrest, h⟩ := bind_eq_ok.1 h
      cases h
      rw [List.length_cons] at hfuel
      obtain ⟨fuel', rfl⟩ : ∃ n, fuel' = n + 1 := ⟨fuel' - 1, by omega⟩
      have hothers : readMembers (fuel' + 1) d false at₃ = .ok (textMembers rest, cur') := ih hrest (by omega)
      simp [bind, Except.bind, hkey, hcolon, readValue_of_readString hvalue, hothers, textMembers]

theorem read_eq_ok_pairs_iff {text : String} {s : TagSet} :
    read text = .ok s ↔ ∃ rest pairs cur, (Cursor.start text).skipBlank.rest = '{' :: rest ∧
      readPairs (fuelFor text) true (Cursor.start text).skipBlank.next = .ok (pairs, cur) ∧
      readEnd cur = .ok () ∧ s = ofList pairs := by
  rw [read]
  dsimp only
  constructor
  · intro h
    split at h
    next rest hopen =>
      obtain ⟨⟨pairs, cur⟩, hpairs, h⟩ := bind_eq_ok.1 h
      obtain ⟨⟨⟩, hend, h⟩ := bind_eq_ok.1 h
      cases h
      exact ⟨rest, pairs, cur, hopen, hpairs, hend, rfl⟩
    next => cases h
  · rintro ⟨rest, pairs, cur, hopen, hpairs, hend, rfl⟩
    simp [hopen, hpairs, hend, bind, Except.bind]

/-- The set of a text is that of its members, which all have to be texts. -/
theorem read_eq_ok_iff {text : String} {s : TagSet} :
    read text = .ok s ↔ ∃ pairs, membersOf text = .ok (textMembers pairs) ∧ s = ofList pairs := by
  -- Inside the opening brace there are fewer characters than either reader has fuel.
  have hinside {rest : List Char} (hopen : (Cursor.start text).skipBlank.rest = '{' :: rest) :
      (Cursor.start text).skipBlank.next.rest.length < fuelFor text - 1 := by
    have hskip := skipBlank_length_le (Cursor.start text)
    have hnext := next_length hopen
    have hstart : (Cursor.start text).rest.length = text.length := String.length_toList
    rw [fuelFor]
    omega
  simp only [read_eq_ok_pairs_iff, membersOf_eq_ok_iff]
  constructor
  · rintro ⟨rest, pairs, cur, hopen, hpairs, hend, rfl⟩
    have hlength := length_le_of_readPairs hpairs
    have hfuel := hinside hopen
    exact ⟨pairs, ⟨rest, cur, hopen, readMembers_of_readPairs hpairs (by omega) _, hend⟩, rfl⟩
  · rintro ⟨pairs, ⟨rest, cur, hopen, hmembers, hend⟩, rfl⟩
    have hread := readPairs_of_readMembers hmembers
    have hlength := length_le_of_readPairs hread
    have hfuel := hinside hopen
    have hpairs : readPairs (fuelFor text) true (Cursor.start text).skipBlank.next = .ok (pairs, cur) :=
      readPairs_of_readMembers (readMembers_of_readPairs hread (by omega) nestingLimit)
    exact ⟨rest, pairs, cur, hopen, hpairs, hend, rfl⟩

/-! ## Agreement -/

theorem filterMap_textMembers (pairs : List (String × String)) : (textMembers pairs).filterMap member? = pairs := by
  rw [textMembers, List.filterMap_map]
  exact List.filterMap_some

theorem ofJson_textMembers (pairs : List (String × String)) : ofJson (ofMembers (textMembers pairs)) = ofList pairs := by
  have htexts : ∀ m ∈ textMembers pairs, m.2 ≠ .null := fun m hm => by
    obtain ⟨p, -, rfl⟩ := List.mem_map.1 hm
    exact nofun
  refine ext_get? fun k => ?_
  rw [get?_ofJson_encodes (.inr htexts) .object, ← last?_filterMap_member? (.inr htexts), filterMap_textMembers,
    get?_ofList]

/-- Members whose values are texts are those of some pairs. -/
theorem exists_textMembers {members : List (String × Json)} (h : ∀ m ∈ members, ∃ t, m.2 = .string t) :
    ∃ pairs, members = textMembers pairs := by
  refine ⟨members.map fun m => (m.1, m.2.string?.getD ""), ?_⟩
  rw [textMembers, List.map_map]
  refine ((List.map_congr_left fun m hm => ?_).trans (List.map_id _)).symm
  obtain ⟨t, ht⟩ := h m hm
  exact Prod.ext rfl (by simp [ht, string?])

theorem mem_ofList_of_nodup {members : List (String × Json)} (h : (members.map (·.1)).Nodup) {m : String × Json}
    (hm : m ∈ members) : m ∈ Keyed.ofList members := by
  rw [← Keyed.get?_eq_some_iff (Keyed.ofList_ascending members), Keyed.get?_ofList, Keyed.last?_of_nodup h]
  exact (Keyed.get?_eq_some_iff_of_nodup h).2 hm

/-- **The two readers of a tag set agree.** What the reader of objects of texts accepts
is a JSON value, and the set that this value stands for is the one that was read,
repeated members included. The other way round it accepts every object that repeats no
member and has only texts for values. The members of a text are what decides: the JSON
value is the object they make, and the set is read exactly if all of them are texts. -/
theorem read_agrees (text : String) :
    (∀ s, read text = .ok s → ∃ v, parse text = .ok v ∧ ofJson v = s) ∧
    (∀ l, parse text = .ok (.object l) → Unrepeated text → (∀ m ∈ l, ∃ t, m.2 = .string t) →
      ∃ s, read text = .ok s) ∧
    (∀ l, parse text = .ok (.object l) ↔ ∃ members, membersOf text = .ok members ∧ l = Keyed.ofList members) ∧
    ∀ s, read text = .ok s ↔ ∃ pairs, membersOf text = .ok (textMembers pairs) ∧ s = ofList pairs := by
  refine ⟨fun s h => ?_, fun l h hunrepeated htexts => ?_, fun l => parse_eq_object_iff, fun s => read_eq_ok_iff⟩
  · obtain ⟨pairs, hmembers, rfl⟩ := read_eq_ok_iff.1 h
    exact ⟨_, parse_eq_object_iff.2 ⟨_, hmembers, rfl⟩, ofJson_textMembers pairs⟩
  · obtain ⟨members, hmembers, rfl⟩ := parse_eq_object_iff.1 h
    obtain ⟨pairs, rfl⟩ := exists_textMembers fun m hm => htexts m (mem_ofList_of_nodup (hunrepeated _ hmembers) hm)
    exact ⟨_, read_eq_ok_iff.2 ⟨pairs, hmembers, rfl⟩⟩

/-- A text with blanks and an escape. -/
theorem read_agrees_escaped :
    let text := "\x7b\"a\": \"\\u0031\",\n\"b\" :\"2\"\x7d"
    let pairs := [("a", "1"), ("b", "2")]
    (read text = .ok (ofList pairs) ∧ ∃ v, parse text = .ok v ∧ ofJson v = ofList pairs) ∧
    parse text = .ok (.object (textMembers pairs)) ∧ Unrepeated text ∧
    (∀ m ∈ textMembers pairs, ∃ t, m.2 = .string t) ∧ ∃ s, read text = .ok s := by
  intro text pairs
  have hchars : text.toList = ['{', '"', 'a', '"', ':', ' ', '"', '\\', 'u', '0', '0', '3', '1', '"', ',', '\n',
      '"', 'b', '"', ' ', ':', '"', '2', '"', '}'] := by decide +kernel
  have hfuel : fuelFor text - 1 = 51 := by rw [fuelFor, ← String.length_toList, hchars]; rfl
  have hmembers : membersOf text = .ok (textMembers pairs) := by
    refine membersOf_eq_ok_iff.2 ⟨text.toList.tail, ⟨[], ⟨2, 9⟩⟩, ?_, ?_, ?_⟩
    · rw [Cursor.start, hchars]; rfl
    · rw [hfuel, Cursor.start, hchars]; rfl
    · rfl
  obtain ⟨hread, haccept, hobject, hset⟩ := read_agrees text
  have hset := (hset (ofList pairs)).2 ⟨pairs, hmembers, rfl⟩
  have hobject := (hobject _).2 ⟨_, hmembers, rfl⟩
  have hunrepeated : Unrepeated text := fun members h => by
    obtain rfl := Except.ok.inj (hmembers.symm.trans h)
    decide
  have htexts : ∀ m ∈ textMembers pairs, ∃ t, m.2 = .string t := by simp [textMembers, pairs]
  exact ⟨⟨hset, hread _ hset⟩, hobject, hunrepeated, htexts, haccept _ hobject hunrepeated htexts⟩

end TagSet

end Retag
