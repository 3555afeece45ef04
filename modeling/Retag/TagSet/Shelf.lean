/-
Tag sets under names, and the steps that work with them.

A step makes sets and stores them under names, or looks at a set. What it makes
and what it answers is its `Outcome`, which depends on the sets that were there
before. A step that cannot be done makes nothing and answers why.
-/
import Retag.TagSet.Json
import Retag.TagSet.Supply

namespace Retag

/-- Tag sets under names, in ascending order of the names. -/
abbrev Shelf := List (String × TagSet)

namespace Shelf

/-- The set under a name. A name that nothing was stored under has the set of no
tags. -/
def named (shelf : Shelf) (name : String) : TagSet := (Keyed.get? name shelf).getD .empty

/-- Stores sets one after another, each in the place of what its name had. -/
def store (shelf : Shelf) (made : List (String × TagSet)) : Shelf :=
  made.foldl (fun shelf m => Keyed.insert m.1 m.2 shelf) shelf

/-- What can be seen of a set. -/
inductive View where
  | value (key : String)
  | membership (key : String)
  | size
  | keys
  | map
  | tags
  | pairs
  | text
  /-- Whether it is equal to the set under another name. -/
  | equality (other : String)

/-- What a step answers. -/
inductive Answer where
  | set (s : TagSet)
  | batches (sets : List TagSet)
  /-- The value that a key had, and the set after its new value. -/
  | exchanged (old : Option String) (s : TagSet)
  | value (v : Option String)
  | flag (b : Bool)
  | size (n : Nat) (isEmpty : Bool)
  | keys (keys : List String)
  | map (m : HashedMap)
  | tags (tags : List Tag)
  | pairs (pairs : List (String × String))
  | text (text : String)
  | faulty (f : Json.Fault)
  | refused (e : InvalidChunkSize)

def View.answer (shelf : Shelf) (s : TagSet) : View → Answer
  | value key => .value (s.get? key)
  | membership key => .flag (s.contains key)
  | size => .size s.size s.isEmpty
  | keys => .keys s.keys
  | map => .map s.map
  | tags => .tags s.toTags
  | pairs => .pairs s.pairs
  | text => .text s.text
  | equality other => .flag (s = shelf.named other)

inductive Step where
  | build (supply : Supply) (target : String)
  /-- Reads any JSON value and takes the tags it stands for. -/
  | parse (text target : String)
  /-- Reads an object of texts. -/
  | read (text target : String)
  | copy (set target : String)
  | insert (set key value : String)
  | removed (old new target : String)
  | updated (old new target : String)
  | withoutReserved (set target : String)
  | withoutPrefixes (set : String) (beginnings : List String) (target : String)
  /-- Cuts a set into batches, and stores them under a name and their numbers. -/
  | chunks (set : String) (size : Nat) (target : Option String)
  | look (set : String) (view : View)

/-- The sets that a step makes, each with the name it is stored under, and the
answer. -/
structure Outcome where
  made : List (String × TagSet)
  answer : Answer

/-- One set is made and shown. -/
def Outcome.one (name : String) (s : TagSet) : Outcome := ⟨[(name, s)], .set s⟩

/-- Sets under a name that is followed by their numbers, from zero on. -/
def numbered (name : String) (sets : List TagSet) : List (String × TagSet) :=
  sets.zipIdx.map fun (s, i) => (name ++ toString i, s)

namespace Step

def outcome (shelf : Shelf) : Step → Outcome
  | build supply target => .one target (.ofSupply supply)
  | parse text target =>
    match Json.parse text with
    | .ok v => .one target (.ofJson v)
    | .error f => ⟨[], .faulty f⟩
  | read text target =>
    match TagSet.read text with
    | .ok s => .one target s
    | .error f => ⟨[], .faulty f⟩
  | copy set target => .one target (shelf.named set)
  | insert set key value =>
    let (old, s) := (shelf.named set).exchange key value
    ⟨[(set, s)], .exchanged old s⟩
  | removed old new target => .one target ((shelf.named old).removed (shelf.named new))
  | updated old new target => .one target ((shelf.named old).updated (shelf.named new))
  | withoutReserved set target => .one target (shelf.named set).withoutReserved
  | withoutPrefixes set beginnings target => .one target ((shelf.named set).withoutPrefixes beginnings)
  | chunks set size target =>
    match (shelf.named set).chunks size with
    | .ok sets =>
      match target with
      | some name => ⟨numbered name sets, .batches sets⟩
      | none => ⟨[], .batches sets⟩
    | .error e => ⟨[], .refused e⟩
  | look set view => ⟨[], view.answer shelf (shelf.named set)⟩

/-- The shelf after a step, and the answer. -/
def run (shelf : Shelf) (step : Step) : Shelf × Answer :=
  (shelf.store (step.outcome shelf).made, (step.outcome shelf).answer)

end Step

/-- The shelf after some steps, and their answers. -/
def run (shelf : Shelf) : List Step → Shelf × List Answer
  | [] => (shelf, [])
  | step :: rest =>
    let (shelf, answer) := step.run shelf
    let (shelf, answers) := run shelf rest
    (shelf, answer :: answers)

end Shelf

end Retag
