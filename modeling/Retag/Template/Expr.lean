/-
Expressions of templates, and reading them.

A reader takes what is left of a template and answers what it read with what is
left after it; it answers none where the text is not of its form. A path, from
its name to its last step, has no blanks inside; elsewhere blanks may stand
between the parts of an expression.
-/
import Retag.Json.Basic
import Retag.Text.Ranges

namespace Retag.Template

/-- Where a value is found: a variable, and steps into it. -/
inductive Path where
  | variable (name : String)
  /-- The member of a name, or the item of a position. -/
  | member (path : Path) (name : String)
  /-- The member or item that the value at another path names. -/
  | indexed (path : Path) (index : Path)
  deriving DecidableEq, Repr

inductive Expr where
  | literal (value : Json)
  | path (p : Path)
  | call (function : String)
  | filtered (e : Expr) (filter : String)
  | equal (left right : Expr)
  deriving Repr

abbrev Reader (α : Type) := List Char → Option (α × List Char)

/-- A blank inside a tag. -/
def isSpace (c : Char) : Bool := c == ' ' || c == '\t' || c == '\r' || c == '\n'

def skipSpace (cs : List Char) : List Char := cs.dropWhile isSpace

def isNameStart (c : Char) : Bool := Text.isAsciiLetter c || c == '_'

def isNamePart (c : Char) : Bool := isNameStart c || Text.isAsciiDigit c

/-- The letters, digits and underscores that come next. -/
def wordPart (cs : List Char) : String := String.ofList (cs.takeWhile isNamePart)

def afterWord (cs : List Char) : List Char := cs.dropWhile isNamePart

def readName : Reader String
  | [] => none
  | c :: cs => if isNameStart c then some (wordPart (c :: cs), afterWord (c :: cs)) else none

/-! ## Literals -/

/-- A text between two quotes of one kind: double, single or back quotes. There
are no escapes. -/
def readQuoted : Reader String
  | [] => none
  | q :: cs =>
    if q = '"' ∨ q = '\x27' ∨ q = '\x60' then
      match cs.dropWhile (· != q) with
      | [] => none
      | _ :: rest => some (String.ofList (cs.takeWhile (· != q)), rest)
    else none

/-- A natural of decimal digits, of which the first is zero only if it is alone. -/
def readDigits : Reader (List Char)
  | [] => none
  | c :: cs =>
    if c = '0' then some (['0'], cs)
    else if Text.isAsciiDigit c then
      some ((c :: cs).takeWhile Text.isAsciiDigit, (c :: cs).dropWhile Text.isAsciiDigit)
    else none

/-- The natural that decimal digits write. -/
def naturalOf (digits : List Char) : Nat :=
  digits.foldl (fun n c => n * 10 + (c.toNat - 48)) 0

/-- The sign before a number. -/
def readMinus : List Char → Bool × List Char
  | '-' :: cs => (true, cs)
  | cs => (false, cs)

/-- A whole number of 64 bits with sign. -/
def readWhole : Reader JsonNumber := fun cs =>
  let (negative, cs) := readMinus cs
  (readDigits cs).bind fun (digits, rest) =>
    let n := naturalOf digits
    if negative ∧ n ≠ 0 then
      if n ≤ 0x8000000000000000 then some (.negative n, rest) else none
    else if n < 0x8000000000000000 then some (.natural n, rest)
    else none

/-- A number with a decimal point and digits on both sides of it. -/
def readFraction : Reader JsonNumber := fun cs =>
  let (negative, cs) := readMinus cs
  match readDigits cs with
  | some (digits, '.' :: rest) =>
    let fraction := rest.takeWhile Text.isAsciiDigit
    if fraction.isEmpty then none
    else
      (Binary64.ofRatio negative (naturalOf (digits ++ fraction)) (Nat.pow 10 fraction.length)).map
        fun x => (.double x, rest.dropWhile Text.isAsciiDigit)
  | _ => none

def readNumber : Reader JsonNumber := fun cs => (readFraction cs).or (readWhole cs)

/-- What is left after a word that begins a text. -/
def afterLiteral : List Char → List Char → Option (List Char)
  | [], cs => some cs
  | w :: ws, c :: cs => if w = c then afterLiteral ws cs else none
  | _ :: _, [] => none

/-- A truth value. It ends with its last letter, whatever follows. -/
def readTruth : Reader Bool := fun cs =>
  ["true", "True"].findSome? (fun w => (afterLiteral w.toList cs).map (true, ·))
    |>.or (["false", "False"].findSome? fun w => (afterLiteral w.toList cs).map (false, ·))

/-! ## Paths -/

/-- The text of a whole number as a position. -/
def readPosition : Reader String := fun cs =>
  let (negative, rest) := readMinus cs
  (readDigits rest).map fun (digits, rest) =>
    (String.ofList (if negative then '-' :: digits else digits), rest)

/-- Reads as many steps as there are. -/
def readSteps : Nat → Path → List Char → Path × List Char
  | 0, p, cs => (p, cs)
  | fuel + 1, p, cs =>
    match cs with
    | '.' :: rest =>
      if (wordPart rest).isEmpty then (p, cs)
      else readSteps fuel (.member p (wordPart rest)) (afterWord rest)
    | '[' :: rest =>
      match readPosition rest with
      | some (position, ']' :: rest) => readSteps fuel (.member p position) rest
      | some _ => (p, cs)
      | none =>
        match readQuoted rest with
        | some (name, ']' :: rest) => readSteps fuel (.member p name) rest
        | some _ => (p, cs)
        | none =>
          match readName rest with
          | none => (p, cs)
          | some (name, rest) =>
            match readSteps fuel (.variable name) rest with
            | (index, ']' :: rest) => readSteps fuel (.indexed p index) rest
            | _ => (p, cs)
    | _ => (p, cs)

def readPath : Reader Path := fun cs =>
  (readName cs).map fun (name, rest) => readSteps rest.length (.variable name) rest

/-! ## Expressions -/

mutual

/-- A truth value, a call, a path or a number, with its filters. -/
def readSubject : Nat → Reader Expr
  | 0, _ => none
  | fuel + 1, cs =>
    match readTruth cs with
    | some (b, rest) => readFilters fuel (.literal (.bool b)) rest
    | none =>
      match readCall fuel cs with
      | some (name, rest) => readFilters fuel (.call name) rest
      | none =>
        match readPath cs with
        | some (p, rest) => readFilters fuel (.path p) rest
        | none =>
          (readNumber cs).bind fun (n, rest) => readFilters fuel (.literal (.number n)) rest

/-- A subject, or a quoted text with its filters. -/
def readOperand : Nat → Reader Expr
  | 0, _ => none
  | fuel + 1, cs =>
    match readQuoted cs with
    | some (s, rest) => readFilters fuel (.literal (.string s)) rest
    | none => readSubject fuel cs

/-- An operand, or the question whether two are equal. -/
def readExpr : Nat → Reader Expr
  | 0, _ => none
  | fuel + 1, cs =>
    (readOperand fuel cs).bind fun (left, rest) =>
      match skipSpace rest with
      | '=' :: '=' :: rest =>
        (readOperand fuel (skipSpace rest)).map fun (right, rest) => (.equal left right, rest)
      | _ => some (left, rest)

/-- The filters after an expression, which may have arguments. -/
def readFilters : Nat → Expr → List Char → Option (Expr × List Char)
  | 0, _, _ => none
  | fuel + 1, e, cs =>
    match skipSpace cs with
    | '|' :: rest =>
      let rest := skipSpace rest
      match readCall fuel rest with
      | some (name, rest) => readFilters fuel (.filtered e name) rest
      | none => (readName rest).bind fun (name, rest) => readFilters fuel (.filtered e name) rest
    | _ => some (e, cs)

/-- A name with arguments in parentheses. -/
def readCall : Nat → Reader String
  | 0, _ => none
  | fuel + 1, cs =>
    (readName cs).bind fun (name, rest) =>
      match skipSpace rest with
      | '(' :: rest => (readArguments fuel (skipSpace rest)).map fun rest => (name, rest)
      | _ => none

/-- Passes named arguments, up to the closing parenthesis. No function and no
filter takes any, so they are not kept. -/
def readArguments : Nat → List Char → Option (List Char)
  | 0, _ => none
  | fuel + 1, cs =>
    match cs with
    | ')' :: rest => some rest
    | _ =>
      (readName cs).bind fun (_, rest) =>
        match skipSpace rest with
        | '=' :: rest =>
          (readExpr fuel (skipSpace rest)).bind fun (_, rest) =>
            match skipSpace rest with
            | ',' :: rest => readArguments fuel (skipSpace rest)
            | ')' :: rest => some rest
            | _ => none
        | _ => none

end

/-- More than the readers of an expression can nest in a text. -/
def exprFuel (cs : List Char) : Nat := 4 * cs.length + 4

end Retag.Template
