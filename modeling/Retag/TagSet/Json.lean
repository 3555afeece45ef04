/-
Tag sets and JSON.

`TagSet.ofJson` takes every JSON value: an object lists keys and values, an array
lists entries, each a pair or an object with a key and a value field, and any
other value stands for no tags. Values that are texts are taken as they are,
other values as their compact text, and a null is no value.

`TagSet.read` takes only an object of texts. Its counterpart is `TagSet.toJson`.
-/
import Retag.TagSet.Basic
import Retag.Json.Typed
import Retag.Json.Printer
import Retag.Text.Ranges

namespace Retag

/-- The text of a tag value: null is no value. -/
def Json.tagText? : Json → Option String
  | .null => none
  | .string s => some s
  | v => some v.compact

/-- The text of a value that is a text. -/
def Json.string? : Json → Option String
  | .string s => some s
  | _ => none

/-- A letter in lower case; other characters stay. -/
def Text.asciiLower (c : Char) : Char :=
  if Text.isAsciiUpper c then Char.ofNat (c.toNat + 32) else c

/-- Whether two texts differ at most in the case of ASCII letters. -/
def Text.equalIgnoringCase (a b : String) : Bool :=
  a.toList.map Text.asciiLower == b.toList.map Text.asciiLower

namespace TagSet

/-- The first member whose name is the given one in some ASCII case. -/
def fieldIgnoringCase (name : String) (members : List (String × Json)) : Option Json :=
  (members.find? fun m => Text.equalIgnoringCase m.1 name).map (·.2)

/-- The pair that an item of an array stands for, if it stands for one: a list of
a key and a value, or an object with these two fields. -/
def entry? : Json → Option (String × String)
  | .array [k, v] => do some (← k.string?, ← v.tagText?)
  | .object members => do
    let key ← (← fieldIgnoringCase "key" members).string?
    let value ← (fieldIgnoringCase "value" members).bind Json.tagText?
    some (key, value)
  | _ => none

/-- The pair that a member of an object stands for, if it stands for one. -/
def member? (m : String × Json) : Option (String × String) := m.2.tagText?.map (m.1, ·)

/-- The tags that a JSON value stands for. -/
def ofJson : Json → TagSet
  | .object members => ofList (members.filterMap member?)
  | .array items => ofList (items.filterMap entry?)
  | _ => empty

/-- Whether a value is of a kind that can list tags, or null. -/
def listsTags : Json → Bool
  | .null | .array _ | .object _ => true
  | _ => false

/-- The object of a set's keys and values. -/
def toJson (s : TagSet) : Json := .object (s.pairs.map fun p => (p.1, .string p.2))

/-- The compact JSON text of a set. -/
def text (s : TagSet) : String := s.toJson.compact

/-- Reads the members of an object of texts, in the order of the text, and its
closing brace. -/
def readPairs (fuel : Nat) (first : Bool) (cur : Json.Cursor) :
    Except Json.Fault (List (String × String) × Json.Cursor) :=
  match fuel with
  | 0 => .error (cur.fault .recursionLimit)
  | fuel + 1 => do
    match ← Json.nextName first cur with
    | none => .ok ([], cur.skipBlank.next)
    | some cur =>
      let (k, cur) ← Json.readText [] cur.position cur.rest
      let cur ← Json.readColon cur
      let (v, cur) ← Json.readString cur
      let (rest, cur) ← readPairs fuel false cur
      .ok ((k, v) :: rest, cur)

/-- The set that a text of an object of texts writes. -/
def read (text : String) : Except Json.Fault TagSet := do
  let cur := (Json.Cursor.start text).skipBlank
  match cur.rest with
  | '{' :: _ =>
    let (pairs, cur) ← readPairs (Json.fuelFor text) true cur.next
    Json.readEnd cur
    .ok (ofList pairs)
  | _ => .error (Json.wrongKind "a map" cur)

end TagSet

namespace Tag

def toJson (t : Tag) : Json := .object [("key", .string t.key), ("value", .string t.value)]

/-- The fault of a value whose parts were read up to `cur` and do not make a tag.
It is placed behind the closing bracket, if that comes next. -/
def misfit (cause : Json.Cause) (close : Char) (cur : Json.Cursor) : Json.Fault :=
  let cur := cur.skipBlank
  match cur.rest with
  | c :: _ =>
    if c = close then cur.next.fault cause
    else if c = ',' ∧ close = ']' then cur.next.skipBlank.fault cause
    else cur.fault cause
  | [] => cur.fault cause

/-- Reads the fields of a tag up to the closing brace. -/
def readFields (fuel : Nat) (first : Bool) (key value : Option String) (cur : Json.Cursor) :
    Except Json.Fault (Tag × Json.Cursor) :=
  match fuel with
  | 0 => .error (cur.fault .recursionLimit)
  | fuel + 1 => do
    match ← Json.nextName first cur with
    | none =>
      match key, value with
      | some key, some value => .ok (⟨key, value⟩, cur.skipBlank.next)
      | none, _ => .error (misfit (.missingField "key") '}' cur)
      | some _, none => .error (misfit (.missingField "value") '}' cur)
    | some cur =>
      let (name, cur) ← Json.readText [] cur.position cur.rest
      if name = "key" then
        if key.isSome then .error (misfit (.duplicateField "key") '}' cur)
        else
          let (key, cur) ← Json.readString (← Json.readColon cur)
          readFields fuel false (some key) value cur
      else if name = "value" then
        if value.isSome then .error (misfit (.duplicateField "value") '}' cur)
        else
          let (value, cur) ← Json.readString (← Json.readColon cur)
          readFields fuel false key (some value) cur
      else
        let cur ← Json.skipValue fuel [] (← Json.readColon cur)
        readFields fuel false key value cur

/-- The number of items of the list form of a tag, in a message. -/
def listForm : String := "struct Tag with 2 elements"

/-- Reads the two items of the list form of a tag up to its closing bracket. -/
def readItems (cur : Json.Cursor) : Except Json.Fault (Tag × Json.Cursor) := do
  match ← Json.nextItem true cur with
  | none => .error (misfit (.invalidLength 0 listForm) ']' cur)
  | some cur =>
    let (key, cur) ← Json.readString cur
    match ← Json.nextItem false cur with
    | none => .error (misfit (.invalidLength 1 listForm) ']' cur)
    | some cur =>
      let (value, cur) ← Json.readString cur
      let cur := cur.skipBlank
      match cur.rest with
      | [] => .error (cur.peekFault .endInList)
      | ']' :: _ => .ok (⟨key, value⟩, cur.next)
      | ',' :: _ =>
        let cur := cur.next.skipBlank
        match cur.rest with
        | ']' :: _ => .error (cur.peekFault .trailingComma)
        | _ => .error (cur.peekFault .trailingCharacters)
      | _ => .error (cur.peekFault .trailingCharacters)

/-- The tag that a text writes: an object with the fields `key` and `value`, or a
list of the two. -/
def read (text : String) : Except Json.Fault Tag := do
  let cur := (Json.Cursor.start text).skipBlank
  let (tag, cur) ← (match cur.rest with
    | '{' :: _ => readFields (Json.fuelFor text) true none none cur.next
    | '[' :: _ => readItems cur.next
    | _ => .error (Json.wrongKind "struct Tag" cur))
  Json.readEnd cur
  .ok tag

end Tag

end Retag
