/-
Readers of tokens. A reader takes the tokens that are left and answers what it
read with the tokens left after it, or none where they are not of its form.
-/
import Retag.Code.Syntax

namespace Retag.Code

abbrev Reader (α : Type) := List Token → Option (α × List Token)

/-- Words that are no names. -/
def reserved : List String :=
  ["_", "abstract", "as", "async", "await", "become", "box", "break", "const", "continue",
    "crate", "do", "dyn", "else", "enum", "extern", "false", "final", "fn", "for", "if", "impl",
    "in", "let", "loop", "macro", "match", "mod", "move", "mut", "override", "priv", "pub", "ref",
    "return", "Self", "self", "static", "struct", "super", "trait", "true", "try", "type",
    "typeof", "unsafe", "unsized", "use", "virtual", "where", "while", "yield"]

/-- Whether a word can be a name. -/
def isName (s : String) : Bool := !reserved.contains s

def readName : Reader String
  | .word s :: ts => if isName s then some (s, ts) else none
  | _ => none

/-- Passes a sign of one or more characters. -/
def skipSign : List Char → List Token → Option (List Token)
  | [], ts => some ts
  | [c], .sign d _ :: ts => if c = d then some ts else none
  | c :: cs, .sign d true :: ts => if c = d then skipSign cs ts else none
  | _, _ => none

def sign (s : String) (ts : List Token) : Option (List Token) := skipSign s.toList ts

/-- Whether a sign comes next. -/
def sees (s : String) (ts : List Token) : Bool := (sign s ts).isSome

/-- Passes a word. -/
def word (s : String) : List Token → Option (List Token)
  | .word w :: ts => if w = s then some ts else none
  | _ => none

/-- Passes a word if it comes next. -/
def optionalWord (s : String) (ts : List Token) : Bool × List Token :=
  match word s ts with
  | some ts => (true, ts)
  | none => (false, ts)

/-- Passes a sign if it comes next. -/
def optionalSign (s : String) (ts : List Token) : Bool × List Token :=
  match sign s ts with
  | some ts => (true, ts)
  | none => (false, ts)

def opening (b : Bracket) : List Token → Option (List Token)
  | .opening c :: ts => if b = c then some ts else none
  | _ => none

def closing (b : Bracket) : List Token → Option (List Token)
  | .closing c :: ts => if b = c then some ts else none
  | _ => none

/-- Reads items with commas between them, and maybe after the last, up to and
with a closing bracket; also answers whether the last one has a comma. -/
def readList {α : Type} (read : Reader α) (b : Bracket) : Nat → Reader (List α × Bool)
  | 0, _ => none
  | fuel + 1, ts =>
    match closing b ts with
    | some ts => some (([], false), ts)
    | none => do
      let (x, ts) ← read ts
      match closing b ts with
      | some ts => some (([x], false), ts)
      | none =>
        let ts ← sign "," ts
        let ((xs, comma), ts) ← readList read b fuel ts
        some ((x :: xs, if xs.isEmpty then true else comma), ts)

/-- Reads tokens up to the bracket that closes them, and passes it. The brackets
among them are balanced; `open_` are those still open. -/
def readBalanced (b : Bracket) (open_ : List Bracket) : List Token → Option (List Token × List Token)
  | [] => none
  | .opening c :: ts =>
    (readBalanced b (c :: open_) ts).map fun (inner, rest) => (.opening c :: inner, rest)
  | .closing c :: ts =>
    match open_ with
    | [] => if b = c then some ([], ts) else none
    | d :: outer =>
      if c = d then
        (readBalanced b outer ts).map fun (inner, rest) => (.closing c :: inner, rest)
      else none
  | t :: ts => (readBalanced b open_ ts).map fun (inner, rest) => (t :: inner, rest)

end Retag.Code
