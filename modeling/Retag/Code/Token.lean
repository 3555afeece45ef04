/-
Tokens of source code, and taking a text apart into them.

`tokens` answers none for a text with a character that begins no token, or with a
text, character or comment that does not end. Brackets are tokens of their own,
and need not be balanced here.
-/
import Retag.Text.Blank
import Retag.Text.Identifier

namespace Retag.Code

/-- A kind of brackets. -/
inductive Bracket where
  | parenthesis
  | square
  | brace
  deriving DecidableEq, Repr

namespace Bracket

def opening : Bracket → Char
  | parenthesis => '('
  | square => '['
  | brace => '{'

def closing : Bracket → Char
  | parenthesis => ')'
  | square => ']'
  | brace => '}'

end Bracket

inductive Token where
  /-- A name or a keyword. A name with the mark `r#` keeps it. -/
  | word (name : String)
  | lifetime (name : String)
  /-- A number, text or character, as written. -/
  | literal (source : String)
  /-- A sign; `joint` if another sign follows at once. -/
  | sign (c : Char) (joint : Bool)
  | opening (b : Bracket)
  | closing (b : Bracket)
  /-- A comment that documents what follows, or, if `inner`, what it stands in. -/
  | doc (inner : Bool) (text : String)
  deriving DecidableEq, Repr

/-! ## Blanks and comments -/

/-- A blank between tokens. -/
def isSpace (c : Char) : Bool := Text.isBlank c || c == '\u200e' || c == '\u200f'

/-- Reads a comment between `/*` and `*/`, which may hold further ones, from
behind its opening: its text and what is left. `acc` holds what was read,
backwards, and `depth` how many comments are open inside. -/
def blockComment (acc : List Char) (depth : Nat) : List Char → Option (List Char × List Char)
  | [] => none
  | '/' :: '*' :: rest => blockComment ('*' :: '/' :: acc) (depth + 1) rest
  | '*' :: '/' :: rest =>
    match depth with
    | 0 => some (acc.reverse, rest)
    | depth + 1 => blockComment ('/' :: '*' :: acc) depth rest
  | c :: rest => blockComment (c :: acc) depth rest

/-- The rest of a line and what is left from its end. A carriage return before
the line feed belongs to neither. -/
def lineComment : List Char → List Char × List Char
  | [] => ([], [])
  | '\n' :: rest => ([], '\n' :: rest)
  | '\r' :: '\n' :: rest => ([], '\n' :: rest)
  | c :: rest =>
    let (line, rest) := lineComment rest
    (c :: line, rest)

/-- Whether each carriage return is followed by a line feed. -/
def endsLinesWell : List Char → Bool
  | [] => true
  | '\r' :: '\n' :: rest => endsLinesWell rest
  | '\r' :: _ => false
  | _ :: rest => endsLinesWell rest

/-- A comment that documents. -/
def docToken (inner : Bool) (text rest : List Char) : Option (Token × List Char) :=
  if endsLinesWell text then some (.doc inner (String.ofList text), rest) else none

/-! ## Names and numbers -/

/-- The characters that continue a name, and what is left. -/
def spanName (cs : List Char) : List Char × List Char :=
  (cs.takeWhile Text.isIdentifierPart, cs.dropWhile Text.isIdentifierPart)

/-- What is left after the name that may follow a literal at once. -/
def afterSuffix (cs : List Char) : List Char :=
  match cs with
  | [] => []
  | c :: _ => if Text.isIdentifierStart c then (spanName cs).2 else cs

/-- Names that cannot be marked with `r#`. -/
def neverRaw : List String := ["_", "super", "self", "Self", "crate"]

/-- Reads a name. -/
def readWord (cs : List Char) : Option (String × List Char) :=
  let plain (cs : List Char) : Option (String × List Char) :=
    match cs with
    | [] => none
    | c :: _ =>
      if Text.isIdentifierStart c then some (String.ofList (spanName cs).1, (spanName cs).2)
      else none
  match cs with
  | 'r' :: '#' :: rest =>
    (plain rest).bind fun (name, rest) =>
      if neverRaw.contains name then none else some ("r#" ++ name, rest)
  | _ => plain cs

/-- The value of a digit up to sixteen. -/
def digitOf (c : Char) : Option Nat :=
  if Text.isAsciiDigit c then some (c.toNat - 48)
  else if 'a' ≤ c ∧ c ≤ 'f' then some (c.toNat - 87)
  else if 'A' ≤ c ∧ c ≤ 'F' then some (c.toNat - 55)
  else none

/-- What is left after the digits of a whole number in a base. A decimal digit
beyond the base makes it no number, and a number in base ten begins with a
digit. -/
def afterDigits (base : Nat) (empty : Bool) : List Char → Option (List Char)
  | [] => if empty then none else some []
  | c :: rest =>
    if c = '_' then
      if empty && base == 10 then none else afterDigits base empty rest
    else
      match digitOf c with
      | some d =>
        if d < base then afterDigits base false rest
        else if Text.isAsciiDigit c || empty then none
        else some (c :: rest)
      | none => if empty then none else some (c :: rest)

/-- What is left after a whole number. -/
def afterWhole (cs : List Char) : Option (List Char) :=
  let digits := match cs with
    | '0' :: 'x' :: rest => afterDigits 16 true rest
    | '0' :: 'o' :: rest => afterDigits 8 true rest
    | '0' :: 'b' :: rest => afterDigits 2 true rest
    | _ => afterDigits 10 true cs
  digits.map afterSuffix

/-- A digit of a number with a point or an exponent, or a mark between digits. -/
def isNumberPart (c : Char) : Bool := Text.isAsciiDigit c || c == '_'

/-- What is left after an exponent, behind its letter. -/
def afterExponent (cs : List Char) : Option (List Char) :=
  let digits (cs : List Char) : Option (List Char) :=
    if (cs.takeWhile isNumberPart).any Text.isAsciiDigit then some (cs.dropWhile isNumberPart)
    else none
  match cs.dropWhile (· == '_') with
  | '+' :: rest | '-' :: rest => digits rest
  | rest => digits rest

/-- What is left after a number with a point or an exponent. -/
def afterFraction (cs : List Char) : Option (List Char) :=
  match cs with
  | [] => none
  | c :: _ =>
    if !Text.isAsciiDigit c then none
    else
      match cs.dropWhile isNumberPart with
      | '.' :: rest =>
        let barred := match rest with
          | d :: _ => d == '.' || Text.isIdentifierStart d
          | [] => false
        if barred then none
        else
          match rest.dropWhile isNumberPart with
          | e :: tail =>
            if e = 'e' ∨ e = 'E' then
              match afterExponent tail with
              | some rest => some (afterSuffix rest)
              | none => some (afterSuffix (e :: tail))
            else some (afterSuffix (e :: tail))
          | [] => some []
      | e :: tail =>
        if e = 'e' ∨ e = 'E' then (afterExponent tail).map afterSuffix else none
      | [] => none

/-! ## Texts and characters -/

/-- What is left after the escape behind a backslash. A line may end there; the
blanks at the start of the next one then do not count. -/
def afterEscape : List Char → Option (List Char)
  | 'x' :: a :: b :: rest =>
    if (digitOf a).any (· < 8) && (digitOf b).isSome then some rest else none
  | 'u' :: '{' :: rest =>
    let digits := (rest.takeWhile (· != '}')).filter (· != '_')
    let value := digits.foldl (fun n c => n * 16 + (digitOf c).getD 0) 0
    match rest.dropWhile (· != '}') with
    | '}' :: rest' =>
      if rest.head? ≠ some '_' ∧ digits ≠ [] ∧ digits.length ≤ 6 ∧ digits.all (digitOf · |>.isSome)
          ∧ (value < 0xd800 ∨ 0xdfff < value ∧ value ≤ 0x10ffff) then some rest'
      else none
    | _ => none
  | c :: rest =>
    if c ∈ ['n', 'r', 't', '\\', '0', '\x27', '"'] then some rest else none
  | [] => none

/-- What is left after a quoted text, from behind its opening quote. -/
def afterQuoted : Nat → List Char → Option (List Char)
  | 0, _ => none
  | fuel + 1, cs =>
    match cs with
    | [] => none
    | '"' :: rest => some (afterSuffix rest)
    | '\r' :: '\n' :: rest => afterQuoted fuel rest
    | '\r' :: _ => none
    | '\\' :: '\n' :: rest | '\\' :: '\r' :: '\n' :: rest => afterQuoted fuel rest
    | '\\' :: rest => (afterEscape rest).bind (afterQuoted fuel)
    | _ :: rest => afterQuoted fuel rest

/-- What is left after a raw text, which ends with a quote and so many hashes. -/
def afterRawEnd (hashes : List Char) : List Char → Option (List Char)
  | [] => none
  | '"' :: rest =>
    if hashes.isPrefixOf rest then some (afterSuffix (rest.drop hashes.length))
    else afterRawEnd hashes rest
  | _ :: rest => afterRawEnd hashes rest

/-- What is left after a raw text, from behind its letter. -/
def afterRaw (cs : List Char) : Option (List Char) :=
  match cs.dropWhile (· == '#') with
  | '"' :: rest => afterRawEnd (cs.takeWhile (· == '#')) rest
  | _ => none

/-- What is left after a character, from behind its opening quote. -/
def afterCharacter (cs : List Char) : Option (List Char) :=
  let close : List Char → Option (List Char)
    | '\x27' :: rest => some (afterSuffix rest)
    | _ => none
  match cs with
  | '\\' :: rest => (afterEscape rest).bind close
  | _ :: rest => close rest
  | [] => none

/-- What is left after a literal. -/
def afterLiteral (cs : List Char) : Option (List Char) :=
  match cs with
  | '"' :: rest | 'b' :: '"' :: rest | 'c' :: '"' :: rest => afterQuoted cs.length rest
  | '\x27' :: rest | 'b' :: '\x27' :: rest => afterCharacter rest
  | 'r' :: rest => afterRaw rest
  | 'b' :: 'r' :: rest | 'c' :: 'r' :: rest => afterRaw rest
  | _ => (afterFraction cs).or (afterWhole cs)

/-! ## Tokens -/

/-- The characters that are signs. -/
def signs : List Char := "~!@#$%^&*-=+|;:,<.>/?\x27".toList

/-- Whether a sign stands at the beginning. A comment is no sign. -/
def beginsSign : List Char → Bool
  | '/' :: '/' :: _ | '/' :: '*' :: _ => false
  | c :: _ => signs.contains c
  | [] => false

/-- The bracket that a character opens. -/
def openingOf (c : Char) : Option Bracket :=
  [Bracket.parenthesis, .square, .brace].find? (·.opening == c)

def closingOf (c : Char) : Option Bracket :=
  [Bracket.parenthesis, .square, .brace].find? (·.closing == c)

/-- Reads a lifetime, from behind its mark. -/
def readLifetime (cs : List Char) : Option (Token × List Char) :=
  (readWord cs).bind fun (name, rest) =>
    match rest with
    | '\x27' :: _ => none
    | '#' :: _ => if name.startsWith "r#" then some (.lifetime name, rest) else none
    | _ => some (.lifetime name, rest)

/-- Beginnings of literals, which are never names. -/
def literalMarks : List (List Char) :=
  ["r\"", "r#\"", "r##", "b\"", "b\x27", "br\"", "br#", "c\"", "cr\"", "cr#"].map String.toList

/-- Reads a token that is no bracket and no comment. -/
def readLeaf (cs : List Char) : Option (Token × List Char) :=
  match afterLiteral cs with
  | some rest => some (.literal (String.ofList (cs.take (cs.length - rest.length))), rest)
  | none =>
    match cs with
    | '\x27' :: rest => readLifetime rest
    | c :: rest =>
      if beginsSign cs then some (.sign c (beginsSign rest), rest)
      else if literalMarks.any (·.isPrefixOf cs) then none
      else (readWord cs).map fun (name, rest) => (.word name, rest)
    | [] => none

/-- Reads the next token, at a character that is no blank. -/
def readToken (cs : List Char) : Option (Token × List Char) :=
  match cs with
  | [] => none
  | c :: rest =>
    match openingOf c, closingOf c with
    | some b, _ => some (.opening b, rest)
    | none, some b => some (.closing b, rest)
    | none, none => readLeaf cs

/-- What a text begins with: a comment that is passed over with a blank, a
documenting comment, or something else. -/
inductive Opening where
  | skipped (rest : List Char)
  | doc (inner : Bool) (text rest : List Char)
  | other

/-- Looks for a comment. One that does not end is none. -/
def openingComment (cs : List Char) : Opening :=
  let block (read : Option (List Char × List Char)) (found : List Char → List Char → Opening) :
      Opening :=
    match read with
    | some (text, rest) => found text rest
    | none => .other
  match cs with
  | '/' :: '/' :: '!' :: rest =>
    let (text, rest) := lineComment rest
    .doc true text rest
  | '/' :: '/' :: '/' :: '/' :: rest => .skipped (lineComment rest).2
  | '/' :: '/' :: '/' :: rest =>
    let (text, rest) := lineComment rest
    .doc false text rest
  | '/' :: '/' :: rest => .skipped (lineComment rest).2
  | '/' :: '*' :: '*' :: '/' :: rest => .skipped rest
  | '/' :: '*' :: '!' :: rest => block (blockComment [] 0 rest) (.doc true)
  | '/' :: '*' :: '*' :: '*' :: rest =>
    block (blockComment [] 0 ('*' :: '*' :: rest)) fun _ rest => .skipped rest
  | '/' :: '*' :: '*' :: rest => block (blockComment [] 0 rest) (.doc false)
  | '/' :: '*' :: rest => block (blockComment [] 0 rest) fun _ rest => .skipped rest
  | _ => .other

/-- What is left after blanks and comments that document nothing. -/
def skipBlanks : Nat → List Char → List Char
  | 0, cs => cs
  | fuel + 1, cs =>
    let cs := cs.dropWhile isSpace
    match openingComment cs with
    | .skipped rest => skipBlanks fuel rest
    | _ => cs

/-- Reads tokens, at most `fuel` with the comments and blanks. -/
def readTokens : Nat → List Char → Option (List Token)
  | 0, _ => none
  | fuel + 1, cs =>
    match cs.dropWhile isSpace with
    | [] => some []
    | cs@(_ :: _) =>
      match openingComment cs with
      | .skipped rest => readTokens fuel rest
      | .doc inner text rest => do
        let (t, rest) ← docToken inner text rest
        some (t :: (← readTokens fuel rest))
      | .other => do
        let (t, rest) ← readToken cs
        some (t :: (← readTokens fuel rest))

/-- The tokens of a text. -/
def tokens (cs : List Char) : Option (List Token) := readTokens (cs.length + 1) cs

end Retag.Code
