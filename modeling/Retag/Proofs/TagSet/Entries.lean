/-
Which tags an array lists. What an item of an array stands for is said here on its
own (`Json.IsEntry`, and `Json.IsUnusable` for an item that stands for nothing), and
`TagSet.entry?` is shown to find it. An object is looked at in the order of its
members, so the field that is found is the one with the smallest name
(`Json.fieldIgnoringCase_eq_some_iff`); this is the only place where it matters that
the members of a value ascend.

The set of an array looks up, for each key, the last entry for it
(`TagSet.get?_ofJson_array`). So an item that is no entry might as well not be there,
and a longer array overwrites what its beginning lists.
-/
import Retag.Proofs.TagSet.Text
import Retag.Proofs.Text.ByteOrder

namespace Retag

/-! ## Names in any case -/

namespace Text

theorem asciiLower_eq (c : Char) : asciiLower c = c.toLower := by
  have hupper : isAsciiUpper c = true ↔ c.val ≥ 'A'.val ∧ c.val ≤ 'Z'.val := by
    simp only [isAsciiUpper, Bool.and_eq_true, decide_eq_true_eq]
    exact Iff.rfl
  rw [asciiLower]
  by_cases h : c.val ≥ 'A'.val ∧ c.val ≤ 'Z'.val
  · have hlower : c.toLower.val = c.val + 32 := congrArg Char.val (dif_pos h)
    have hhigh : c.toNat ≤ 90 := h.2
    have hvalid : (c.toNat + 32).isValidChar := .inl (by omega)
    rw [if_pos (hupper.2 h)]
    refine Char.ext (UInt32.toNat_inj.1 ?_)
    show (Char.ofNat (c.toNat + 32)).toNat = c.toLower.val.toNat
    rw [Char.ofNat, dif_pos hvalid, hlower, UInt32.toNat_add]
    show c.toNat + 32 = (c.toNat + 32) % 2 ^ 32
    omega
  · have hlower : c.toLower = c := dif_neg h
    rw [if_neg fun hu => h (hupper.1 hu), hlower]

theorem toList_toLower (s : String) : s.toLower.toList = s.toList.map Char.toLower := String.toList_map

/-- Texts that differ at most in the case of ASCII letters have one text in lower
case. -/
theorem equalIgnoringCase_iff {a b : String} : equalIgnoringCase a b = true ↔ a.toLower = b.toLower := by
  have hlower : asciiLower = Char.toLower := funext asciiLower_eq
  rw [equalIgnoringCase, beq_iff_eq, hlower, ← String.toList_inj, toList_toLower, toList_toLower]

end Text

/-! ## Entries -/

namespace Json

/-- The text of a tag's value: a text as it stands, and any other value but null as
its compact JSON text. -/
inductive IsTagText : Json → String → Prop
  | verbatim (s : String) : IsTagText (.string s) s
  | written {v : Json} (notNull : v ≠ .null) (notText : ∀ s, v ≠ .string s) : IsTagText v v.compact

/-- The field of a name: of the members that have the name in any ASCII case, the one
whose name has the smallest bytes. -/
def IsField (members : List (String × Json)) (name : String) (v : Json) : Prop :=
  ∃ spelling, (spelling, v) ∈ members ∧ spelling.toLower = name ∧
    ∀ m ∈ members, m.1.toLower = name → m = (spelling, v) ∨ Text.bytes spelling < Text.bytes m.1

/-- The key and the value that an item of an array stands for. -/
inductive IsEntry : Json → String → String → Prop
  | pair {key t : String} {v : Json} (text : IsTagText v t) : IsEntry (.array [.string key, v]) key t
  | fields {members : List (String × Json)} {key t : String} {v : Json} (atKey : IsField members "key" (.string key))
    (atValue : IsField members "value" v) (text : IsTagText v t) : IsEntry (.object members) key t

/-- An item that stands for no tag. -/
inductive IsUnusable : Json → Prop
  /-- Neither an array of two nor an object. -/
  | shape {v : Json} (notPair : ∀ k w, v ≠ .array [k, w]) (notObject : ∀ members, v ≠ .object members) : IsUnusable v
  | pairKey {k w : Json} (notText : ∀ s, k ≠ .string s) : IsUnusable (.array [k, w])
  | pairValue {k : Json} : IsUnusable (.array [k, .null])
  /-- The key is missing, or it is no text. -/
  | keyField {members : List (String × Json)} (notText : ∀ s, ¬ IsField members "key" (.string s)) :
    IsUnusable (.object members)
  /-- The value is missing or null. -/
  | valueField {members : List (String × Json)} (null : ∀ v, IsField members "value" v → v = .null) :
    IsUnusable (.object members)

variable {v item : Json} {members : List (String × Json)} {name key t : String}

theorem tagText?_eq_some_iff : v.tagText? = some t ↔ v.IsTagText t := by
  constructor
  · intro h
    cases v with
    | null => cases h
    | string s =>
      obtain rfl := Option.some.inj h
      exact .verbatim s
    | bool | number | array | object =>
      obtain rfl := Option.some.inj h
      exact .written nofun nofun
  · rintro (⟨s⟩ | ⟨hnull, htext⟩)
    · rfl
    · cases v with
      | null => exact absurd rfl hnull
      | string s => exact absurd rfl (htext s)
      | bool | number | array | object => rfl

theorem tagText?_eq_none_iff : v.tagText? = none ↔ v = .null := by
  cases v <;> simp [tagText?]

theorem string?_eq_some_iff : v.string? = some t ↔ v = .string t := by
  cases v <;> simp [string?]

/-- In an object the first field of a name is the one with the smallest spelling. -/
theorem fieldIgnoringCase_eq_some_iff (h : Keyed.Ascending members) (hname : name.toLower = name) :
    TagSet.fieldIgnoringCase name members = some v ↔ IsField members name v := by
  rw [TagSet.fieldIgnoringCase, Option.map_eq_some_iff]
  simp only [Keyed.find?_eq_some_iff h (Text.equalIgnoringCase · name), Text.equalIgnoringCase_iff, hname,
    Text.lt_iff_bytes]
  constructor
  · rintro ⟨⟨spelling, w⟩, hfirst, rfl⟩
    exact ⟨spelling, hfirst⟩
  · rintro ⟨spelling, hfirst⟩
    exact ⟨(spelling, v), hfirst, rfl⟩

/-- An item is an array of two, an object or neither. -/
theorem shape_cases (item : Json) : (∃ k w, item = .array [k, w]) ∨ (∃ members, item = .object members) ∨
    (∀ k w, item ≠ .array [k, w]) ∧ ∀ members, item ≠ .object members := by
  by_cases hpair : ∃ k w, item = .array [k, w]
  · exact .inl hpair
  by_cases hobject : ∃ members, item = .object members
  · exact .inr (.inl hobject)
  · exact .inr (.inr ⟨fun k w h => hpair ⟨k, w, h⟩, fun members h => hobject ⟨members, h⟩⟩)

theorem entry?_pair {k w : Json} :
    TagSet.entry? (.array [k, w]) = some (key, t) ↔ k = .string key ∧ w.IsTagText t := by
  simp [TagSet.entry?, Option.bind_eq_some_iff, string?_eq_some_iff, tagText?_eq_some_iff]

theorem entry?_object (h : Keyed.Ascending members) : TagSet.entry? (.object members) = some (key, t) ↔
    IsField members "key" (.string key) ∧ ∃ v, IsField members "value" v ∧ v.IsTagText t := by
  have hkey : "key".toLower = "key" := by decide +kernel
  have hvalue : "value".toLower = "value" := by decide +kernel
  simp [TagSet.entry?, Option.bind_eq_some_iff, string?_eq_some_iff, tagText?_eq_some_iff,
    fieldIgnoringCase_eq_some_iff h hkey, fieldIgnoringCase_eq_some_iff h hvalue]

theorem entry?_other (hpair : ∀ k w, item ≠ .array [k, w]) (hobject : ∀ members, item ≠ .object members) :
    TagSet.entry? item = none := by
  unfold TagSet.entry?
  split
  next k w => exact absurd rfl (hpair k w)
  next members => exact absurd rfl (hobject members)
  next => rfl

/-- The entry of an item is found. -/
theorem entry?_eq_some_iff (h : item.ordered = item) : TagSet.entry? item = some (key, t) ↔ item.IsEntry key t := by
  constructor
  · intro hentry
    obtain ⟨k, w, rfl⟩ | ⟨members, rfl⟩ | ⟨hpair, hobject⟩ := item.shape_cases
    · obtain ⟨rfl, htext⟩ := entry?_pair.1 hentry
      exact .pair htext
    · obtain ⟨hkey, v, hvalue, htext⟩ := (entry?_object (ascending_of_ordered h)).1 hentry
      exact .fields hkey hvalue htext
    · rw [entry?_other hpair hobject] at hentry
      cases hentry
  · rintro (⟨htext⟩ | ⟨hkey, hvalue, htext⟩)
    · exact entry?_pair.2 ⟨rfl, htext⟩
    · exact (entry?_object (ascending_of_ordered h)).2 ⟨hkey, _, hvalue, htext⟩

/-- Null alone has no text. -/
theorem exists_tagText (h : v ≠ .null) : ∃ t, v.IsTagText t := by
  obtain ⟨t, ht⟩ := Option.ne_none_iff_exists'.1 (mt tagText?_eq_none_iff.1 h)
  exact ⟨t, tagText?_eq_some_iff.1 ht⟩

theorem not_isTagText_null : ¬ IsTagText .null t := by
  intro h
  cases tagText?_eq_some_iff.2 h

/-- The unusable items are those that are no entry. -/
theorem isUnusable_iff : item.IsUnusable ↔ ∀ key t, ¬ item.IsEntry key t := by
  constructor
  · intro h key t hentry
    cases hentry with
    | pair htext =>
      cases h with
      | shape hpair => exact hpair _ _ rfl
      | pairKey hkey => exact hkey _ rfl
      | pairValue => exact not_isTagText_null htext
    | fields hkey hvalue htext =>
      cases h with
      | shape _ hobject => exact hobject _ rfl
      | keyField hno => exact hno _ hkey
      | valueField hnull =>
        obtain rfl := hnull _ hvalue
        exact not_isTagText_null htext
  · intro h
    obtain ⟨k, w, rfl⟩ | ⟨members, rfl⟩ | ⟨hpair, hobject⟩ := item.shape_cases
    · by_cases hkey : ∃ s, k = .string s
      · obtain ⟨s, rfl⟩ := hkey
        by_cases hnull : w = .null
        · subst hnull
          exact .pairValue
        · obtain ⟨t, ht⟩ := exists_tagText hnull
          exact absurd (.pair ht) (h s t)
      · exact .pairKey fun s hs => hkey ⟨s, hs⟩
    · by_cases hkey : ∃ s, IsField members "key" (.string s)
      · obtain ⟨s, hs⟩ := hkey
        refine .valueField fun v hv => ?_
        by_contra hnull
        obtain ⟨t, ht⟩ := exists_tagText hnull
        exact h s t (.fields hs hv ht)
      · exact .keyField fun s hs => hkey ⟨s, hs⟩
    · exact .shape hpair hobject

theorem entry?_eq_none (h : item.ordered = item) (hno : item.IsUnusable) : TagSet.entry? item = none :=
  Option.eq_none_iff_forall_ne_some.2 fun p hp =>
    isUnusable_iff.1 hno p.1 p.2 ((entry?_eq_some_iff h).1 hp)

/-- The text of a value is the value itself or can be read as it. -/
theorem IsTagText.reads (h : v.IsTagText t) : v = .string t ∨ (Plain nestingLimit v → parse t = .ok v) := by
  cases h with
  | verbatim => exact .inl rfl
  | written => exact .inr parse_compact

end Json

/-! ## Arrays -/

namespace TagSet

open Json (IsUnusable IsEntry)

variable {items : List Json} {k t : String}

theorem get?_ofJson_array : (ofJson (.array items)).get? k = Keyed.last? k (items.filterMap entry?) :=
  get?_ofList k _

theorem ofJson_array_append (items others : List Json) :
    ofJson (.array (items ++ others)) = (ofJson (.array items)).overwrite (ofJson (.array others)) := by
  refine ext_get? fun k => ?_
  rw [get?_overwrite, get?_ofJson_array, get?_ofJson_array, get?_ofJson_array, List.filterMap_append,
    Keyed.last?_append]

/-- A key looks up the text of the last entry for it. -/
theorem get?_ofJson_array_eq_some_iff (h : ∀ item ∈ items, item.ordered = item) :
    (ofJson (.array items)).get? k = some t ↔ ∃ before item after, items = before ++ item :: after ∧
      item.IsEntry k t ∧ ∀ later ∈ after, ∀ u, ¬ later.IsEntry k u := by
  rw [get?_ofJson_array, Keyed.last?_filterMap_eq_some_iff]
  constructor
  · rintro ⟨before, item, after, rfl, hitem, hafter⟩
    refine ⟨before, item, after, rfl, (Json.entry?_eq_some_iff (h item (by simp))).1 hitem, fun later hl u hu => ?_⟩
    exact hafter later hl u ((Json.entry?_eq_some_iff (h later (by simp [hl]))).2 hu)
  · rintro ⟨before, item, after, rfl, hitem, hafter⟩
    refine ⟨before, item, after, rfl, (Json.entry?_eq_some_iff (h item (by simp))).2 hitem, fun later hl u hu => ?_⟩
    exact hafter later hl u ((Json.entry?_eq_some_iff (h later (by simp [hl]))).1 hu)

/-- **An array sets its entries one after another.** The set of two arrays in one is
that of the first, overwritten by that of the second. An item that stands for nothing
can be left out wherever it is, and the items that stand for nothing are exactly those
that are no entry. Each key has the text of the last entry for it; this text is the
value itself or reads as it. Objects are taken with their members in order, as they
are in every value that was read. -/
theorem ofJson_array_entries (items others : List Json) :
    ofJson (.array (items ++ others)) = (ofJson (.array items)).overwrite (ofJson (.array others)) ∧
    (∀ item : Json, item.ordered = item → item.IsUnusable →
      ofJson (.array (items ++ item :: others)) = ofJson (.array (items ++ others))) ∧
    (∀ item : Json, item.IsUnusable ↔ ∀ k t, ¬ item.IsEntry k t) ∧
    ((∀ item ∈ items, item.ordered = item) → ∀ k t, (ofJson (.array items)).get? k = some t ↔
      ∃ before item after, items = before ++ item :: after ∧
        item.IsEntry k t ∧ ∀ later ∈ after, ∀ u, ¬ later.IsEntry k u) ∧
    (∀ (v : Json) (t : String), v.IsTagText t →
      v = .string t ∨ (Json.Plain Json.nestingLimit v → Json.parse t = .ok v)) ∧
    ∀ (text : String) (v : Json), Json.parse text = .ok v → v.ordered = v := by
  refine ⟨ofJson_array_append items others, fun item h hno => ?_, fun item => Json.isUnusable_iff,
    fun h k t => get?_ofJson_array_eq_some_iff h, fun v t h => h.reads, fun text v h => Json.parse_ordered h⟩
  rw [ofJson, ofJson, List.filterMap_append, List.filterMap_append, List.filterMap_cons_none (Json.entry?_eq_none h hno)]

/-- Items of both shapes for one key. The object is read through `KEY` and `Value`;
what follows it stands for nothing, and so does an object without a value. -/
theorem ofJson_array_entries_mixed :
    let fields : Json := .object [("KEY", .string "a"), ("Value", .array [.bool true]), ("key", .string "b")]
    let items : List Json := [.array [.string "a", .string "1"], fields, .array [.string "a", .null]]
    let item : Json := .object [("Key", .string "a")]
    (item.ordered = item ∧ item.IsUnusable ∧ ofJson (.array (items ++ [item])) = ofJson (.array (items ++ []))) ∧
    ((∀ item ∈ items, item.ordered = item) ∧ (ofJson (.array items)).get? "a" = some "[true]") ∧
    (Json.IsTagText (.array [.bool true]) "[true]" ∧ Json.Plain Json.nestingLimit (.array [.bool true]) ∧
      Json.parse "[true]" = .ok (.array [.bool true])) ∧
    Json.ordered (.array [.bool true]) = .array [.bool true] := by
  intro fields items item
  have hfields : fields.ordered = fields := by rfl
  have hitem : item.ordered = item := by rfl
  have hitems : ∀ item ∈ items, item.ordered = item := by
    simp only [items, List.forall_mem_cons, hfields]
    simp
  have hentry : fields.IsEntry "a" "[true]" := (Json.entry?_eq_some_iff hfields).1 (by rfl)
  have hunusable : item.IsUnusable := Json.isUnusable_iff.2 fun k t h => by
    cases (Json.entry?_eq_some_iff hitem).2 h
  have htext : Json.IsTagText (.array [.bool true]) "[true]" := .written nofun nofun
  have hplain : Json.Plain Json.nestingLimit (.array [.bool true]) := .array fun v hv => by
    obtain rfl := List.mem_singleton.1 hv
    exact ⟨.bool, Json.ordered_bool true⟩
  obtain ⟨-, hskip, -, hlast, hreads, hparsed⟩ := ofJson_array_entries items []
  have hparse : Json.parse "[true]" = .ok (.array [.bool true]) := (hreads _ _ htext).resolve_left nofun hplain
  refine ⟨⟨hitem, hunusable, hskip item hitem hunusable⟩, ⟨hitems, ?_⟩, ⟨htext, hplain, hparse⟩, hparsed _ _ hparse⟩
  refine (hlast hitems "a" "[true]").2 ⟨[.array [.string "a", .string "1"]], fields, [.array [.string "a", .null]], rfl,
    hentry, fun later hlater u => ?_⟩
  obtain rfl := List.mem_singleton.1 hlater
  exact Json.isUnusable_iff.1 .pairValue "a" u

end TagSet

end Retag
