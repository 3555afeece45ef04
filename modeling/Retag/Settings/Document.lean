/-
The text of a settings file: lines with a key and a string each, blank lines and
comments. Keys and strings are written as in TOML. Tables, other values and keys
with dots have no place here: no setting has one.
-/
import Retag.Text.Ranges

namespace Retag.Settings

/-- A space or a tab. -/
def isGap (c : Char) : Bool := c == ' ' || c == '\t'

def skipGap (s : List Char) : List Char := s.dropWhile isGap

/-- Whether a character may stand as itself in comments and strings. -/
def isPlain (c : Char) : Bool := c == '\t' || (' ' ≤ c && c != '\x7f')

/-- What follows the end of a line. -/
def lineEnd? : List Char → Option (List Char)
  | [] => some []
  | '\n' :: s => some s
  | '\r' :: '\n' :: s => some s
  | _ => none

/-! ## Strings -/

def hexDigit? (c : Char) : Option Nat :=
  if Text.isAsciiDigit c then some (c.toNat - '0'.toNat)
  else if 'a' ≤ c && c ≤ 'f' then some (c.toNat - 'a'.toNat + 10)
  else if 'A' ≤ c && c ≤ 'F' then some (c.toNat - 'A'.toNat + 10)
  else none

/-- The character that hexadecimal digits number. -/
def numbered (digits : List Char) : Option Char := do
  let n ← digits.foldlM (fun n d => (hexDigit? d).map (16 * n + ·)) 0
  if n.isValidChar then some (Char.ofNat n) else none

/-- The character that a letter behind a backslash stands for. -/
def escape? (c : Char) : Option Char :=
  [('b', '\x08'), ('t', '\t'), ('n', '\n'), ('f', '\x0c'), ('r', '\r'), ('e', '\x1b'),
    ('"', '"'), ('\\', '\\')].lookup c

/-- Reads a string on one line up to its closing quote. -/
def readQuoted (acc : List Char) : List Char → Option (String × List Char)
  | '"' :: s => some (String.ofList acc.reverse, s)
  | '\\' :: 'x' :: a :: b :: s => (numbered [a, b]).bind fun c => readQuoted (c :: acc) s
  | '\\' :: 'u' :: a :: b :: c :: d :: s =>
    (numbered [a, b, c, d]).bind fun c => readQuoted (c :: acc) s
  | '\\' :: 'U' :: a :: b :: c :: d :: e :: f :: g :: h :: s =>
    (numbered [a, b, c, d, e, f, g, h]).bind fun c => readQuoted (c :: acc) s
  | '\\' :: e :: s => (escape? e).bind fun c => readQuoted (c :: acc) s
  | c :: s => if isPlain c && c != '\\' then readQuoted (c :: acc) s else none
  | [] => none

/-- Reads a string without escapes on one line up to its closing apostrophe. -/
def readLiteral (acc : List Char) : List Char → Option (String × List Char)
  | '\x27' :: s => some (String.ofList acc.reverse, s)
  | c :: s => if isPlain c then readLiteral (c :: acc) s else none
  | [] => none

/-- Reads a string over lines up to its three closing quotes. Behind a backslash at
the end of a line, blanks and line ends are skipped. -/
def readLongQuoted (skipping : Bool) (acc : List Char) : List Char → Option (String × List Char)
  | '"' :: '"' :: '"' :: '"' :: '"' :: s => some (String.ofList (acc.reverse ++ ['"', '"']), s)
  | '"' :: '"' :: '"' :: '"' :: s => some (String.ofList (acc.reverse ++ ['"']), s)
  | '"' :: '"' :: '"' :: s => some (String.ofList acc.reverse, s)
  | '\\' :: 'x' :: a :: b :: s =>
    (numbered [a, b]).bind fun c => readLongQuoted false (c :: acc) s
  | '\\' :: 'u' :: a :: b :: c :: d :: s =>
    (numbered [a, b, c, d]).bind fun c => readLongQuoted false (c :: acc) s
  | '\\' :: 'U' :: a :: b :: c :: d :: e :: f :: g :: h :: s =>
    (numbered [a, b, c, d, e, f, g, h]).bind fun c => readLongQuoted false (c :: acc) s
  | '\\' :: e :: s =>
    match escape? e with
    | some c => readLongQuoted false (c :: acc) s
    | none =>
      if !(skipGap (e :: s)).isEmpty && (lineEnd? (skipGap (e :: s))).isSome then
        readLongQuoted true acc (e :: s)
      else none
  | '\r' :: '\n' :: s => readLongQuoted skipping (if skipping then acc else '\n' :: acc) s
  | '\n' :: s => readLongQuoted skipping (if skipping then acc else '\n' :: acc) s
  | c :: s =>
    if skipping && isGap c then readLongQuoted true acc s
    else if isPlain c && c != '\\' then readLongQuoted false (c :: acc) s
    else none
  | [] => none

/-- Reads a string without escapes over lines up to its three closing
apostrophes. -/
def readLongLiteral (acc : List Char) : List Char → Option (String × List Char)
  | '\x27' :: '\x27' :: '\x27' :: '\x27' :: '\x27' :: s =>
    some (String.ofList (acc.reverse ++ ['\x27', '\x27']), s)
  | '\x27' :: '\x27' :: '\x27' :: '\x27' :: s =>
    some (String.ofList (acc.reverse ++ ['\x27']), s)
  | '\x27' :: '\x27' :: '\x27' :: s => some (String.ofList acc.reverse, s)
  | '\r' :: '\n' :: s => readLongLiteral ('\n' :: acc) s
  | '\n' :: s => readLongLiteral ('\n' :: acc) s
  | c :: s => if isPlain c then readLongLiteral (c :: acc) s else none
  | [] => none

/-- What follows a line end that stands at the start of a string over lines. -/
def skipFirstLineEnd : List Char → List Char
  | '\n' :: s => s
  | '\r' :: '\n' :: s => s
  | s => s

def readString : List Char → Option (String × List Char)
  | '"' :: '"' :: '"' :: s => readLongQuoted false [] (skipFirstLineEnd s)
  | '\x27' :: '\x27' :: '\x27' :: s => readLongLiteral [] (skipFirstLineEnd s)
  | '"' :: s => readQuoted [] s
  | '\x27' :: s => readLiteral [] s
  | _ => none

/-! ## Lines -/

/-- Whether a character may stand in a key without quotes. -/
def isKeyPart (c : Char) : Bool :=
  Text.isAsciiLetter c || Text.isAsciiDigit c || c == '_' || c == '-'

def readKey : List Char → Option (String × List Char)
  | '"' :: s => readQuoted [] s
  | '\x27' :: s => readLiteral [] s
  | s =>
    let key := s.takeWhile isKeyPart
    if key.isEmpty then none else some (String.ofList key, s.dropWhile isKeyPart)

/-- Reads a key and its string. -/
def readEntry (s : List Char) : Option ((String × String) × List Char) :=
  match readKey s with
  | some (key, s) =>
    match skipGap s with
    | '=' :: s => (readString (skipGap s)).map fun (value, s) => ((key, value), s)
    | _ => none
  | none => none

/-- Reads the end of a line, which a comment may precede. -/
def readLineEnd (s : List Char) : Option (List Char) :=
  match skipGap s with
  | '#' :: s => lineEnd? (s.dropWhile isPlain)
  | s => lineEnd? s

/-- Reads lines; the fuel bounds their number. -/
def readLines : Nat → List Char → Option (List (String × String))
  | 0, _ => none
  | fuel + 1, s =>
    if s.isEmpty then some []
    else
      match readLineEnd s with
      | some rest => readLines fuel rest
      | none =>
        match readEntry (skipGap s) with
        | some (entry, s) =>
          match readLineEnd s with
          | some rest => (readLines fuel rest).map (entry :: ·)
          | none => none
        | none => none

/-- The keys and strings of a text, in their order. -/
def readDocument (text : String) : Option (List (String × String)) :=
  let s := match text.toList with
    | '\ufeff' :: s => s
    | s => s
  readLines (s.length + 1) s

end Retag.Settings
