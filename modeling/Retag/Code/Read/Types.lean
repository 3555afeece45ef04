/-
Reading paths, types and patterns.
-/
import Retag.Code.Read.Basic

namespace Retag.Code

/-- Words that can stand in a path though they are no names. They are applied to
nothing. -/
def pathWords : List String := ["super", "self", "crate", "try"]

/-- Whether a path begins here. -/
def beginsPath (ts : List Token) : Bool :=
  match ts with
  | .word s :: _ => isName s || pathWords.contains s || s == "Self"
  | ts => sees "::" ts

/-- Whether types follow that a segment is applied to: in a type at once or behind
two colons, in an expression behind two colons only. -/
def argumentsAfter (inType : Bool) (ts : List Token) : Option (List Token) :=
  match (sign "::" ts).bind (sign "<") with
  | some ts => some ts
  | none => if inType && !sees "<=" ts then sign "<" ts else none

mutual

def readTy : Nat → Bool → Reader Ty
  | 0, _, _ => none
  | fuel + 1, plus, ts =>
    match ts with
    | .opening .parenthesis :: ts => do
      let ((items, comma), ts) ← readList (readTy fuel true) .parenthesis fuel ts
      match items, comma with
      | [t], false => some (.paren t, ts)
      | items, _ => some (.tuple items, ts)
    | .opening .square :: ts => do
      let (t, ts) ← readTy fuel true ts
      some (.slice t, ← closing .square ts)
    | .word "impl" :: ts => do
      let (bounds, ts) ← readBounds fuel plus ts
      some (.bounded "impl" bounds, ts)
    | .word "dyn" :: ts => do
      let (bounds, ts) ← readBounds fuel plus ts
      some (.bounded "dyn" bounds, ts)
    | .word "_" :: ts => some (.inferred, ts)
    | ts =>
      match sign "&" ts with
      | some ts => do
        let (name, ts) := match ts with
          | .lifetime name :: ts => (some name, ts)
          | ts => (none, ts)
        let (mutable, ts) := optionalWord "mut" ts
        let (t, ts) ← readTy fuel false ts
        some (.reference name mutable t, ts)
      | none =>
        match sign "!" ts with
        | some ts => some (.never, ts)
        | none => do
          let ((p, global), ts) ← readPath fuel true ts
          some (.path p global, ts)

/-- Reads bounds with plus signs between them; one only, unless `plus`. -/
def readBounds : Nat → Bool → Reader (List Ty)
  | 0, _, _ => none
  | fuel + 1, plus, ts => do
    let (bound, ts) ← match ts with
      | .lifetime name :: ts => some (.lifetime name, ts)
      | ts => do
        let ((p, global), ts) ← readPath fuel true ts
        some (.path p global, ts)
    match if plus then sign "+" ts else none with
    | some ts => do
      let (bounds, ts) ← readBounds fuel plus ts
      some (bound :: bounds, ts)
    | none => some ([bound], ts)

/-- Reads a path, and whether it begins with two colons. -/
def readPath : Nat → Bool → Reader (List Segment × Bool)
  | 0, _, _ => none
  | fuel + 1, inType, ts => do
    let (global, ts) := optionalSign "::" ts
    let (p, ts) ← readSegments fuel inType ts
    some ((p, global), ts)

def readSegments : Nat → Bool → Reader (List Segment)
  | 0, _, _ => none
  | fuel + 1, inType, ts =>
    match ts with
    | .word s :: ts => do
      let (segment, ts) ←
        if pathWords.contains s then some (.mk s [], ts)
        else if isName s || s == "Self" then
          match argumentsAfter inType ts with
          | some ts => do
            let (arguments, ts) ← readArguments fuel ts
            some (.mk s arguments, ts)
          | none => some (.mk s [], ts)
        else none
      match sign "::" ts with
      | some (.opening .parenthesis :: _) | none => some ([segment], ts)
      | some ts => do
        let (segments, ts) ← readSegments fuel inType ts
        some (segment :: segments, ts)
    | _ => none

/-- Reads types and lifetimes up to the bracket that closes them. -/
def readArguments : Nat → Reader (List Ty)
  | 0, _ => none
  | fuel + 1, ts =>
    match sign ">" ts with
    | some ts => some ([], ts)
    | none => do
      let (t, ts) ← match ts with
        | .lifetime name :: ts => some (.lifetime name, ts)
        | ts => readTy fuel true ts
      match sign ">" ts with
      | some ts => some ([t], ts)
      | none =>
        let (rest, ts) ← readArguments fuel (← sign "," ts)
        some (t :: rest, ts)

end

/-- Reads a pattern. -/
def readPattern : Nat → Reader Pattern
  | 0, _ => none
  | fuel + 1, ts =>
    match ts with
    | .word "_" :: ts => some (.anything, ts)
    | .literal s :: ts => some (.literal s, ts)
    | .word "true" :: ts => some (.literal "true", ts)
    | .word "false" :: ts => some (.literal "false", ts)
    | .word "ref" :: ts => do
      let (mutable, ts) := optionalWord "mut" ts
      let (s, ts) ← readName ts
      some (.name true mutable s, ts)
    | .word "mut" :: ts => do
      let (s, ts) ← readName ts
      some (.name false true s, ts)
    | .opening .parenthesis :: ts => do
      let ((items, comma), ts) ← readList (readPattern fuel) .parenthesis fuel ts
      match items, comma with
      | [_], false => none
      | items, _ => some (.tuple items, ts)
    | ts =>
      match sign "&" ts with
      | some ts => do
        let (mutable, ts) := optionalWord "mut" ts
        let (p, ts) ← readPattern fuel ts
        some (.reference mutable p, ts)
      | none => do
        let ((p, global), ts) ← readPath fuel false ts
        match ts, p, global with
        | .opening .parenthesis :: ts, _, _ => do
          let ((items, _), ts) ← readList (readPattern fuel) .parenthesis fuel ts
          some (.fields p global items, ts)
        | ts, [.mk s []], false =>
          if isName s then some (.name false false s, ts) else some (.path p global, ts)
        | ts, _, _ => some (.path p global, ts)

/-- Reads a pattern with a type, which `needsType` asks for. -/
def readBinding (fuel : Nat) (needsType : Bool) (ts : List Token) : Option (Binding × List Token) := do
  let (p, ts) ← readPattern fuel ts
  match sign ":" ts with
  | some ts =>
    let (t, ts) ← readTy fuel true ts
    some (⟨p, some t⟩, ts)
  | none => if needsType then none else some (⟨p, none⟩, ts)

end Retag.Code
