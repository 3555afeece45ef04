/-
The encodings of a list of keys and values: one object with these members, or an
array with an item for each, which is a pair or an object with a field for the key and
one for the value. The fields are found in any spelling, in any order and among others
(`Json.entry?_fields`), so each item of an array stands for the tag of its member,
and the arrays agree with one another on every list (`TagSet.filterMap_entry?`).

The object is another matter. It is read after its repeated members are replaced, and
an array drops its nulls before. Both keep the last text for a key if the last value
for a key is never a null behind another value (`TagSet.last?_filterMap_member?`).
-/
import Retag.Proofs.TagSet.Entries

namespace Retag

namespace Json

/-- The fields of an object that lists a key and its value: one field for each, named
in any ASCII case, and further fields of other names, all in any order. -/
def Describes (m : String × Json) (fields : List (String × Json)) : Prop :=
  ∃ keyName valueName others, keyName.toLower = "key" ∧ valueName.toLower = "value" ∧
    (∀ f ∈ others, f.1.toLower ≠ "key" ∧ f.1.toLower ≠ "value") ∧
    fields.Perm ((keyName, .string m.1) :: (valueName, m.2) :: others)

/-- An item that lists a key and its value. -/
inductive ListsMember (m : String × Json) : Json → Prop
  | pair : ListsMember m (.array [.string m.1, m.2])
  | fields {fields : List (String × Json)} (h : Describes m fields) : ListsMember m (ofMembers fields)

/-- A value that lists keys and values. -/
inductive Encodes (members : List (String × Json)) : Json → Prop
  | object : Encodes members (ofMembers members)
  | array {items : List Json} (h : List.Forall₂ ListsMember members items) : Encodes members (.array items)

variable {m : String × Json} {fields : List (String × Json)} {item : Json}

/-- A field whose name no other field has in any case is the field of its name. -/
theorem isField_ofList {spelling name : String} {v : Json} (hmem : (spelling, v) ∈ fields)
    (hname : spelling.toLower = name) (honly : ∀ f ∈ fields, f.1.toLower = name → f = (spelling, v)) {w : Json} :
    IsField (Keyed.ofList fields) name w ↔ w = v := by
  have hlisted : (spelling, v) ∈ Keyed.ofList fields := by
    have hkey : spelling ∈ (Keyed.ofList fields).map (·.1) :=
      Keyed.mem_keys_ofList.2 (List.mem_map_of_mem (f := (·.1)) hmem)
    obtain ⟨f, hf, hspelling⟩ := List.mem_map.1 hkey
    rwa [← honly f (Keyed.mem_of_mem_ofList hf) (hspelling ▸ hname)]
  constructor
  · rintro ⟨other, hother, hlower, -⟩
    exact congrArg Prod.snd (honly _ (Keyed.mem_of_mem_ofList hother) hlower)
  · rintro rfl
    exact ⟨spelling, hlisted, hname, fun f hf hlower => .inl (honly f (Keyed.mem_of_mem_ofList hf) hlower)⟩

/-- The fields of a member, each under its name. -/
theorem Describes.isField (h : Describes m fields) {w : Json} :
    (IsField (Keyed.ofList fields) "key" w ↔ w = .string m.1) ∧
    (IsField (Keyed.ofList fields) "value" w ↔ w = m.2) := by
  obtain ⟨keyName, valueName, others, hkey, hvalue, hothers, hperm⟩ := h
  have hne : "key" ≠ "value" := by decide
  constructor
  · refine isField_ofList (hperm.mem_iff.2 (by simp)) hkey fun f hf hname => ?_
    obtain rfl | rfl | hf : f = (keyName, .string m.1) ∨ f = (valueName, m.2) ∨ f ∈ others := by
      simpa using hperm.mem_iff.1 hf
    · rfl
    · exact absurd (hname.symm.trans hvalue) hne
    · exact absurd hname (hothers f hf).1
  · refine isField_ofList (hperm.mem_iff.2 (by simp)) hvalue fun f hf hname => ?_
    obtain rfl | rfl | hf : f = (keyName, .string m.1) ∨ f = (valueName, m.2) ∨ f ∈ others := by
      simpa using hperm.mem_iff.1 hf
    · exact absurd (hkey.symm.trans hname) hne
    · rfl
    · exact absurd hname (hothers f hf).2

theorem member?_eq_some_iff {p : String × String} :
    TagSet.member? m = some p ↔ m.1 = p.1 ∧ m.2.IsTagText p.2 := by
  obtain ⟨k, t⟩ := p
  simp [TagSet.member?, tagText?_eq_some_iff, and_comm]

theorem entry?_fields (h : Describes m fields) : TagSet.entry? (ofMembers fields) = TagSet.member? m := by
  ext ⟨k, t⟩
  rw [ofMembers, entry?_object (Keyed.ofList_ascending fields), member?_eq_some_iff, h.isField.1]
  simp only [h.isField.2, string.injEq, exists_eq_left, eq_comm]

/-- An item stands for the tag of the member it lists, if the member has one. -/
theorem ListsMember.entry? (h : ListsMember m item) : TagSet.entry? item = TagSet.member? m := by
  cases h with
  | pair =>
    ext ⟨k, t⟩
    rw [entry?_pair, member?_eq_some_iff, string.injEq]
  | fields hfields => exact entry?_fields hfields

end Json

namespace TagSet

open Json (Encodes ListsMember IsTagText)

variable {members : List (String × Json)} {k t : String}

theorem filterMap_entry? {items : List Json} (h : List.Forall₂ ListsMember members items) :
    items.filterMap entry? = members.filterMap member? := by
  induction h with
  | nil => rfl
  | cons hitem _ ih => rw [List.filterMap_cons, List.filterMap_cons, hitem.entry?, ih]

/-- Whether nulls are dropped first or the values of repeated keys are, a key is left
with the text of its last value. -/
theorem last?_filterMap_member? (h : (members.map (·.1)).Nodup ∨ ∀ m ∈ members, m.2 ≠ .null) :
    Keyed.last? k (members.filterMap member?) = (Keyed.last? k members).bind Json.tagText? := by
  induction members using List.reverseRecOn with
  | nil => rfl
  | append_singleton members m ih =>
    have hbefore : (members.map (·.1)).Nodup ∨ ∀ m ∈ members, m.2 ≠ .null :=
      h.imp (fun hnodup => (List.nodup_append.1 (List.map_append ▸ hnodup)).1)
        fun hnull n hn => hnull n (List.mem_append_left _ hn)
    rw [List.filterMap_append, Keyed.last?_append_singleton]
    cases htext : m.2.tagText? with
    | some t =>
      have hmember : [m].filterMap member? = [(m.1, t)] := by simp [member?, htext]
      rw [hmember, Keyed.last?_append_singleton, ih hbefore]
      split
      · exact htext.symm
      · rfl
    | none =>
      have hmember : [m].filterMap member? = [] := by simp [member?, htext]
      rw [hmember, List.append_nil, ih hbefore]
      split
      next hk =>
        -- A null replaces nothing, so its key must not be there before.
        have hnodup := h.resolve_right fun hnull => hnull m (by simp) (Json.tagText?_eq_none_iff.1 htext)
        have hnew : k ∉ members.map (·.1) := fun hmem => by
          rw [List.map_append] at hnodup
          exact (List.nodup_append.1 hnodup).2.2 k hmem m.1 (by simp) hk
        rw [Keyed.last?_of_not_mem hnew, Option.bind_some, htext, Option.bind_none]
      · rfl

theorem get?_ofJson_object : (ofJson (.object members)).get? k = Keyed.last? k (members.filterMap member?) :=
  get?_ofList k _

theorem get?_ofJson_encodes (h : (members.map (·.1)).Nodup ∨ ∀ m ∈ members, m.2 ≠ .null) {v : Json}
    (hv : v.Encodes members) : (ofJson v).get? k = (Keyed.last? k members).bind Json.tagText? := by
  cases hv with
  | object =>
    have hnodup := Keyed.keys_nodup (Keyed.ofList_ascending members)
    rw [Json.ofMembers, get?_ofJson_object, last?_filterMap_member? (.inl hnodup), Keyed.last?_of_nodup hnodup,
      Keyed.get?_ofList]
  | array hitems => rw [get?_ofJson_array, filterMap_entry? hitems, last?_filterMap_member? h]

/-- **The encodings of a list of tags agree.** If its keys are distinct, or none of its
values is null, a list makes one set as the object of its members, as the array of its
pairs and as every array of objects with a key and a value, however their fields are
spelled and placed; and so it does with the items mixed. The set has for each key the
text of its last value, and for a null nothing. -/
theorem ofJson_encodings (h : (members.map (·.1)).Nodup ∨ ∀ m ∈ members, m.2 ≠ .null) :
    (Encodes members (Json.ofMembers members) ∧
      Encodes members (.array (members.map fun m => .array [.string m.1, m.2])) ∧
      ∀ fields : List (List (String × Json)), List.Forall₂ Json.Describes members fields →
        Encodes members (.array (fields.map Json.ofMembers))) ∧
    (∀ v w : Json, v.Encodes members → w.Encodes members → ofJson v = ofJson w) ∧
    ∀ v : Json, v.Encodes members → ∀ k t, (ofJson v).get? k = some t ↔
      ∃ w, Keyed.last? k members = some w ∧ w.IsTagText t := by
  refine ⟨⟨.object, .array ?_, fun fields hfields => .array ?_⟩, fun v w hv hw => ?_, fun v hv k t => ?_⟩
  · exact List.forall₂_map_right_iff.2 (List.forall₂_same.2 fun m _ => .pair)
  · exact List.forall₂_map_right_iff.2 (hfields.imp fun _ _ => .fields)
  · exact ext_get? fun k => by rw [get?_ofJson_encodes h hv, get?_ofJson_encodes h hw]
  · simp only [get?_ofJson_encodes h hv, Option.bind_eq_some_iff, Json.tagText?_eq_some_iff]

/-- A repeated key, in an array of both kinds of items. The fields of the object are
in the other order, and `Keys` is a name of its own. -/
theorem ofJson_encodings_mixed :
    let members : List (String × Json) := [("a", .string "1"), ("b", .bool true), ("a", .number (.natural 2))]
    let fields : List (String × Json) := [("VALUE", .bool true), ("Keys", .null), ("Key", .string "b")]
    let items : List Json := [.array [.string "a", .string "1"], Json.ofMembers fields,
      .array [.string "a", .number (.natural 2)]]
    ((members.map (·.1)).Nodup ∨ ∀ m ∈ members, m.2 ≠ .null) ∧
    (Encodes members (Json.ofMembers members) ∧ Encodes members (.array items) ∧
      List.Forall₂ Json.Describes [members[1]] [fields]) ∧
    ofJson (.array items) = ofJson (Json.ofMembers members) ∧ (ofJson (.array items)).get? "a" = some "2" := by
  intro members fields items
  have hvalues : ∀ m ∈ members, m.2 ≠ .null := by simp [members]
  have hdescribes : Json.Describes ("b", .bool true) fields := by
    refine ⟨"Key", "VALUE", [("Keys", .null)], by decide +kernel, by decide +kernel, ?_, ?_⟩
    · rintro f hf
      obtain rfl := List.mem_singleton.1 hf
      exact ⟨by decide +kernel, by decide +kernel⟩
    · exact List.perm_append_singleton ("Key", Json.string "b") [("VALUE", .bool true), ("Keys", .null)]
  have hitems : Encodes members (.array items) :=
    .array (.cons .pair (.cons (.fields hdescribes) (.cons .pair .nil)))
  obtain ⟨⟨hobject, -, -⟩, hagree, hlast⟩ := ofJson_encodings (.inr hvalues)
  refine ⟨.inr hvalues, ⟨hobject, hitems, .cons hdescribes .nil⟩, hagree _ _ hitems hobject, ?_⟩
  exact (hlast _ hitems "a" "2").2 ⟨.number (.natural 2), by rfl, .written nofun nofun⟩

end TagSet

end Retag
