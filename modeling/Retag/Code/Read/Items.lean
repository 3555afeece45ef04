/-
Reading items and whole files.
-/
import Retag.Code.Read.Exprs

namespace Retag.Code

/-- Reads what an import names. -/
def readUseTree : Nat → Reader UseTree
  | 0, _ => none
  | fuel + 1, ts =>
    match ts with
    | .word s :: ts =>
      if isName s || pathWords.contains s then
        match sign "::" ts with
        | some ts => (readUseTree fuel ts).map fun (rest, ts) => (.path s rest, ts)
        | none =>
          match ts with
          | .word "as" :: .word t :: ts =>
            if isName t || t == "_" then some (.renamed s t, ts) else none
          | .word "as" :: _ => none
          | ts => some (.name s, ts)
      else none
    | .opening .brace :: ts =>
      (readList (readUseTree fuel) .brace fuel ts).map fun ((items, _), ts) => (.group items, ts)
    | ts => (sign "*" ts).map fun ts => (.all, ts)

/-- Reads an attribute from its bracket on. -/
def readMeta (fuel : Nat) (ts : List Token) : Option (Attribute × List Token) := do
  let ((p, global), ts) ← readPath fuel false (← opening .square ts)
  let path ← plainPath p
  match ts with
  | .opening b :: ts =>
    let (inner, ts) ← readBalanced b [] ts
    some (.mark path global (some (b, inner)), ← closing .square ts)
  | ts =>
    match sign "=" ts with
    | some ts =>
      let (e, ts) ← readExpr fuel ts
      some (.value path global e, ← closing .square ts)
    | none => some (.mark path global none, ← closing .square ts)

/-- Reads what is told about what follows, or, if `inner`, about what it stands
in. -/
def readAttributes (inner : Bool) : Nat → Reader (List Attribute)
  | 0, _ => none
  | fuel + 1, ts =>
    match ts with
    | .doc i s :: rest =>
      if i = inner then
        (readAttributes inner fuel rest).map fun (attributes, ts) => (.doc s :: attributes, ts)
      else some ([], ts)
    | ts =>
      match sign (if inner then "#!" else "#") ts with
      | none => some ([], ts)
      | some rest => do
        let (first, ts) ← readMeta fuel rest
        let (others, ts) ← readAttributes inner fuel ts
        some (first :: others, ts)

def readVisibility : List Token → Visibility × List Token
  | .word "pub" :: .opening .parenthesis :: .word s :: .closing .parenthesis :: ts =>
    if ["crate", "self", "super"].contains s then (.within s, ts)
    else (.everyone, .opening .parenthesis :: .word s :: .closing .parenthesis :: ts)
  | .word "pub" :: ts => (.everyone, ts)
  | ts => (.inherited, ts)

/-- Reads the words before the keyword of functions, which stand in one order. -/
def readQualifiers (ts : List Token) : List String × List Token :=
  let (words, ts) := ["const", "async", "unsafe"].foldl (fun (words, ts) w =>
    let (found, ts) := optionalWord w ts
    (if found then words ++ [w] else words, ts)) ([], ts)
  match ts with
  | .word "extern" :: .literal s :: ts => (words ++ ["extern", s], ts)
  | .word "extern" :: ts => (words ++ ["extern"], ts)
  | ts => (words, ts)

/-- Reads what an item is generic in, from behind the opening bracket. -/
def readGenericList (fuel : Nat) : Nat → Reader (List Generic)
  | 0, _ => none
  | n + 1, ts =>
    match sign ">" ts with
    | some ts => some ([], ts)
    | none => do
      let ((isLifetime, name), ts) ← match ts with
        | .lifetime s :: ts => some ((true, s), ts)
        | ts => (readName ts).map fun (s, ts) => ((false, s), ts)
      let (bounds, ts) ← match sign ":" ts with
        | some ts => readBounds fuel true ts
        | none => some ([], ts)
      let g : Generic := ⟨isLifetime, name, bounds⟩
      match sign ">" ts with
      | some ts => some ([g], ts)
      | none =>
        let (rest, ts) ← readGenericList fuel n (← sign "," ts)
        some (g :: rest, ts)

/-- Reads what an item is generic in, if it is. -/
def readGenerics (fuel : Nat) (ts : List Token) : Option (List Generic × List Token) :=
  match sign "<" ts with
  | some ts => readGenericList fuel fuel ts
  | none => some ([], ts)

/-- Reads how a method takes what it is called on, if it does, with the comma
behind it. -/
def readReceiver (ts : List Token) : Option Receiver × List Token :=
  let (reference, after) := match sign "&" ts with
    | some (.lifetime s :: ts) => (some (some s), ts)
    | some ts => (some none, ts)
    | none => (none, ts)
  let (mutable, after) := optionalWord "mut" after
  match after with
  | .word "self" :: .closing .parenthesis :: rest =>
    (some ⟨reference, mutable⟩, .closing .parenthesis :: rest)
  | .word "self" :: rest =>
    match sign "," rest with
    | some rest => (some ⟨reference, mutable⟩, rest)
    | none => (none, ts)
  | _ => (none, ts)

/-- Reads a function from its qualifiers on. -/
def readFunction (fuel : Nat) (ts : List Token) : Option (ItemKind × List Token) := do
  let (qualifiers, ts) := readQualifiers ts
  let (name, ts) ← readName (← word "fn" ts)
  let (generics, ts) ← readGenerics fuel ts
  let ts ← opening .parenthesis ts
  let (receiver, ts) := readReceiver ts
  let ((parameters, _), ts) ← readList (readBinding fuel true) .parenthesis fuel ts
  let (result, ts) ← match sign "->" ts with
    | some ts => (readTy fuel true ts).map fun (t, ts) => (some t, ts)
    | none => some (none, ts)
  let (body, ts) ← readBlock fuel ts
  some (.function ⟨qualifiers, name, generics, receiver, parameters, result⟩ body, ts)

/-- Reads a field, which has a name if `named`. -/
def readField (fuel : Nat) (named : Bool) (ts : List Token) : Option (Field × List Token) := do
  let (attributes, ts) ← readAttributes false fuel ts
  let (v, ts) := readVisibility ts
  if named then
    let (name, ts) ← readName ts
    let (t, ts) ← readTy fuel true (← sign ":" ts)
    some (⟨attributes, v, some name, t⟩, ts)
  else
    let (t, ts) ← readTy fuel true ts
    some (⟨attributes, v, none, t⟩, ts)

/-- Reads fields in brackets, if there are any. -/
def readFields (fuel : Nat) (ts : List Token) : Option (Fields × List Token) :=
  match ts with
  | .opening .brace :: ts =>
    (readList (readField fuel true) .brace fuel ts).map fun ((fields, _), ts) => (.named fields, ts)
  | .opening .parenthesis :: ts =>
    (readList (readField fuel false) .parenthesis fuel ts).map fun ((fields, _), ts) =>
      (.tuple fields, ts)
  | ts => some (.none, ts)

def readVariant (fuel : Nat) (ts : List Token) : Option (Variant × List Token) := do
  let (attributes, ts) ← readAttributes false fuel ts
  let (name, ts) ← readName ts
  let (fields, ts) ← readFields fuel ts
  match sign "=" ts with
  | some ts =>
    let (e, ts) ← readExpr fuel ts
    some (⟨attributes, name, fields, some e⟩, ts)
  | none => some (⟨attributes, name, fields, none⟩, ts)

/-- Reads a constant or a static value, from behind its keyword. -/
def readConstant (fuel : Nat) (keyword : String) (ts : List Token) : Option (ItemKind × List Token) := do
  let (name, ts) ← match ts with
    | .word "_" :: ts => if keyword = "const" then some ("_", ts) else none
    | ts => readName ts
  let (t, ts) ← readTy fuel true (← sign ":" ts)
  let (e, ts) ← readExpr fuel (← sign "=" ts)
  some (.constant keyword name t e, ← sign ";" ts)

/-- Reads the call of a macro that is an item. Without braces it ends with a
semicolon. -/
def readMacroItem (fuel : Nat) (ts : List Token) : Option (ItemKind × List Token) := do
  let ((p, global), ts) ← readPath fuel false ts
  let (m, ts) ← readMacroCall (← plainPath p) global ts
  if m.bracket == .brace then some (.macroCall m, ts) else some (.macroCall m, ← sign ";" ts)

/-- Reads a structure from behind its keyword. Without names of fields it ends with
a semicolon. -/
def readStruct (fuel : Nat) (ts : List Token) : Option (ItemKind × List Token) := do
  let (name, ts) ← readName ts
  let (generics, ts) ← readGenerics fuel ts
  let (fields, ts) ← readFields fuel ts
  match fields with
  | .named _ => some (.struct name generics fields, ts)
  | fields => some (.struct name generics fields, ← sign ";" ts)

/-- Reads an enumeration from behind its keyword. -/
def readEnumeration (fuel : Nat) (ts : List Token) : Option (ItemKind × List Token) := do
  let (name, ts) ← readName ts
  let (generics, ts) ← readGenerics fuel ts
  let ((variants, _), ts) ← readList (readVariant fuel) .brace fuel (← opening .brace ts)
  some (.enumeration name generics variants, ts)

/-- Whether an item of a kind can belong to a type. -/
def ItemKind.isMember : ItemKind → Bool
  | .function .. | .synonym .. | .macroCall _ => true
  | .constant keyword .. => keyword == "const"
  | _ => false

def Item.kind : Item → ItemKind
  | .mk _ _ kind => kind

mutual

/-- Reads an item behind its visibility. -/
def readKind : Nat → Visibility → Reader ItemKind
  | 0, _, _ => none
  | fuel + 1, v, ts =>
    match ts with
    | .word "use" :: ts => do
      let (global, ts) := optionalSign "::" ts
      let (tree, ts) ← readUseTree fuel ts
      some (.use global tree, ← sign ";" ts)
    | .word "mod" :: ts => do
      let (name, ts) ← readName ts
      match ts with
      | .opening .brace :: ts =>
        let (inside, ts) ← readAttributes true fuel ts
        let (items, ts) ← readBody fuel ts
        some (.body name inside items, ts)
      | ts => some (.mod name, ← sign ";" ts)
    | .word "struct" :: ts => readStruct fuel ts
    | .word "enum" :: ts => readEnumeration fuel ts
    | .word "impl" :: ts => if v = .inherited then readImplementation fuel ts else none
    | .word "type" :: ts => do
      let (name, ts) ← readName ts
      let (t, ts) ← readTy fuel true (← sign "=" ts)
      some (.synonym name t, ← sign ";" ts)
    | .word "static" :: ts => readConstant fuel "static" ts
    | ts =>
      match readFunction fuel ts with
      | some r => some r
      | none =>
        match ts with
        | .word "const" :: ts => readConstant fuel "const" ts
        | ts => if v = .inherited then readMacroItem fuel ts else none

/-- Reads what belongs to a type, from behind the keyword. -/
def readImplementation : Nat → Reader ItemKind
  | 0, _ => none
  | fuel + 1, ts => do
    let (generics, ts) ← readGenerics fuel ts
    let (t, ts) ← readTy fuel false ts
    let ((trait_, t), ts) ← match word "for" ts, t with
      | none, t => some ((none, t), ts)
      | some ts, .path p global =>
        (readTy fuel false ts).map fun (t, ts) => ((some (p, global), t), ts)
      | some _, _ => none
    let (inside, ts) ← readAttributes true fuel (← opening .brace ts)
    let (items, ts) ← readBody fuel ts
    if items.all (·.kind.isMember) then some (.implementation generics trait_ t inside items, ts)
    else none

def readItem : Nat → Reader Item
  | 0, _ => none
  | fuel + 1, ts => do
    let (attributes, ts) ← readAttributes false fuel ts
    let (v, ts) := readVisibility ts
    let (kind, ts) ← readKind fuel v ts
    some (.mk attributes v kind, ts)

/-- Reads items up to a closing brace. -/
def readBody : Nat → Reader (List Item)
  | 0, _ => none
  | fuel + 1, ts =>
    match closing .brace ts with
    | some ts => some ([], ts)
    | none => do
      let (item, ts) ← readItem fuel ts
      let (items, ts) ← readBody fuel ts
      some (item :: items, ts)

end

/-- Reads items up to the end. -/
def readItems (fuel : Nat) : Nat → List Token → Option (List Item)
  | _, [] => some []
  | 0, _ => none
  | n + 1, ts => do
    let (item, ts) ← readItem fuel ts
    some (item :: (← readItems fuel n ts))

/-- More than the readers can nest in so many tokens. -/
def fuelFor (ts : List Token) : Nat := 16 * ts.length + 16

/-- Takes the line that names an interpreter off the start of a text. The sign of
an attribute looks alike, up to the bracket that follows. -/
def splitInterpreter (cs : List Char) : Option String × List Char :=
  match cs with
  | '#' :: '!' :: rest =>
    match skipBlanks rest.length rest with
    | '[' :: _ => (none, cs)
    | _ => (some (String.ofList (cs.takeWhile (· != '\n'))), cs.dropWhile (· != '\n'))
  | cs => (none, cs)

/-- A text without the mark of its byte order. -/
def dropMark : List Char → List Char
  | '\ufeff' :: cs => cs
  | cs => cs

/-- Reads a file. -/
def File.read (text : String) : Option File := do
  let (interpreter, cs) := splitInterpreter (dropMark text.toList)
  let ts ← tokens (dropMark cs)
  let fuel := fuelFor ts
  let (attributes, ts) ← readAttributes true fuel ts
  let items ← readItems fuel ts.length ts
  some ⟨interpreter, attributes, items⟩

end Retag.Code
