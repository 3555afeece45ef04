/-
The text of a JSON value: compact, or with one item or member a line.
-/
import Retag.Json.Basic

namespace Retag.Json

/-- The two lower-case hexadecimal digits of a number below 256. -/
def hexPair (n : Nat) : List Char := [Nat.digitChar (n / 16), Nat.digitChar (n % 16)]

/-- A character inside a quoted text: quotes, backslashes and control characters
are escaped, all else stands for itself. -/
def escaped (c : Char) : List Char :=
  if c = '"' then ['\\', '"']
  else if c = '\\' then ['\\', '\\']
  else if c = '\n' then ['\\', 'n']
  else if c = '\r' then ['\\', 'r']
  else if c = '\t' then ['\\', 't']
  else if c = '\x08' then ['\\', 'b']
  else if c = '\x0c' then ['\\', 'f']
  else if c.toNat < 0x20 then '\\' :: 'u' :: '0' :: '0' :: hexPair c.toNat
  else [c]

/-- A text in quotes. -/
def quoted (s : String) : List Char := '"' :: (s.toList.flatMap escaped ++ ['"'])

mutual

/-- The characters of a value, without blanks. -/
def compactChars : Json → List Char
  | .null => "null".toList
  | .bool true => "true".toList
  | .bool false => "false".toList
  | .number n => n.text.toList
  | .string s => quoted s
  | .array items => '[' :: (compactItems items ++ [']'])
  | .object members => '{' :: (compactMembers members ++ ['}'])

/-- Items separated by commas. -/
def compactItems : List Json → List Char
  | [] => []
  | [v] => compactChars v
  | v :: w :: rest => compactChars v ++ ',' :: compactItems (w :: rest)

/-- Members separated by commas. -/
def compactMembers : List (String × Json) → List Char
  | [] => []
  | [(k, v)] => quoted k ++ ':' :: compactChars v
  | (k, v) :: m :: rest => quoted k ++ ':' :: (compactChars v ++ ',' :: compactMembers (m :: rest))

end

/-- The compact text of a value. -/
def compact (v : Json) : String := String.ofList v.compactChars

/-- A new line indented by two blanks a level. -/
def newLine (level : Nat) : List Char := '\n' :: List.replicate (2 * level) ' '

mutual

/-- The characters of a value with one item or member a line. -/
def prettyChars (level : Nat) : Json → List Char
  | .array (v :: rest) =>
    '[' :: (newLine (level + 1) ++ prettyItems (level + 1) (v :: rest) ++ newLine level ++ [']'])
  | .object (m :: rest) =>
    '{' :: (newLine (level + 1) ++ prettyMembers (level + 1) (m :: rest) ++ newLine level ++ ['}'])
  | .null => "null".toList
  | .bool true => "true".toList
  | .bool false => "false".toList
  | .number n => n.text.toList
  | .string s => quoted s
  | .array [] => "[]".toList
  | .object [] => ['{', '}']

def prettyItems (level : Nat) : List Json → List Char
  | [] => []
  | [v] => prettyChars level v
  | v :: w :: rest => prettyChars level v ++ ',' :: (newLine level ++ prettyItems level (w :: rest))

def prettyMembers (level : Nat) : List (String × Json) → List Char
  | [] => []
  | [(k, v)] => quoted k ++ ':' :: ' ' :: prettyChars level v
  | (k, v) :: m :: rest =>
    quoted k ++ ':' :: ' ' :: (prettyChars level v ++ ',' :: (newLine level ++ prettyMembers level (m :: rest)))

end

/-- The text of a value with one item or member a line. -/
def pretty (v : Json) : String := String.ofList (v.prettyChars 0)

end Retag.Json
