/-
The pieces of a template: texts, and the tags between them.

A tag can trim the text next to it: a dash at its start takes the blanks before
it away, a dash at its end the blanks after it. `pieces` reads a whole template
and has the trimming done.
-/
import Retag.Template.Expr
import Retag.Text.Blank

namespace Retag.Template

inductive Tag where
  | output (e : Expr)
  | loop (name : String) (container : Expr)
  | endLoop
  | choose (condition : Expr)
  | chooseElse (condition : Expr)
  | otherwise
  | endChoose
  /-- Another template is to stand here. -/
  | include (name : String)
  /-- A comment, or a border of a raw text. -/
  | silent
  deriving Repr

inductive Piece where
  | text (s : List Char)
  | tag (trimsBefore : Bool) (t : Tag) (trimsAfter : Bool)
  deriving Repr

/-- The dash at the start of a tag. -/
def readDash : List Char → Bool × List Char
  | '-' :: cs => (true, cs)
  | cs => (false, cs)

/-- The end of a tag, with its dash: `c`, then a brace. -/
def readEnd (c : Char) (cs : List Char) : Option (Bool × List Char) :=
  match skipSpace cs with
  | '-' :: a :: '}' :: rest => if a = c then some (true, rest) else none
  | a :: '}' :: rest => if a = c then some (false, rest) else none
  | _ => none

/-- What is left after one blank or more. -/
def afterSpace : List Char → Option (List Char)
  | [] => none
  | c :: cs => if isSpace c then some (skipSpace cs) else none

/-- Reads a comment to its end. -/
def readComment : List Char → Option (Bool × List Char)
  | [] => none
  | '-' :: '#' :: '}' :: rest => some (true, rest)
  | '#' :: '}' :: rest => some (false, rest)
  | _ :: rest => readComment rest

/-- The tag that ends a raw text: whether it trims before and after itself, and
what is left. -/
def readEndRaw : List Char → Option (Bool × Bool × List Char)
  | '{' :: '%' :: cs =>
    let (before, cs) := readDash cs
    let cs := skipSpace cs
    if wordPart cs = "endraw" then
      (readEnd '%' (afterWord cs)).map fun (after, rest) => (before, after, rest)
    else none
  | _ => none

/-- A raw text, backwards in `acc`, up to the tag that ends it. -/
def readRaw (acc : List Char) (cs : List Char) : Option (List Char × Bool × Bool × List Char) :=
  match readEndRaw cs with
  | some (before, after, rest) => some (acc.reverse, before, after, rest)
  | none =>
    match cs with
    | [] => none
    | c :: rest => readRaw (c :: acc) rest

/-- Reads a tag between percent signs, after its opening; a raw text is read with
both its borders. -/
def readTag (cs : List Char) : Option (List Piece × List Char) :=
  let (before, cs) := readDash cs
  let cs := skipSpace cs
  let rest := afterWord cs
  let close (t : Tag) (rest : List Char) : Option (List Piece × List Char) :=
    (readEnd '%' rest).map fun (after, rest) => ([.tag before t after], rest)
  match wordPart cs with
  | "if" => do
    let rest ← afterSpace rest
    let (e, rest) ← readExpr (exprFuel rest) rest
    close (.choose e) rest
  | "elif" => do
    let rest ← afterSpace rest
    let (e, rest) ← readExpr (exprFuel rest) rest
    close (.chooseElse e) rest
  | "else" => close .otherwise rest
  | "endif" => close .endChoose rest
  | "for" => do
    let (name, rest) ← readName (← afterSpace rest)
    let rest ← afterLiteral ['i', 'n'] (← afterSpace rest)
    let rest ← afterSpace rest
    let (e, rest) ← readSubject (exprFuel rest) rest
    close (.loop name e) rest
  | "endfor" => close .endLoop rest
  | "include" => do
    let (name, rest) ← readQuoted (← afterSpace rest)
    close (.include name) rest
  | "raw" => do
    let (inside, rest) ← readEnd '%' rest
    let (s, insideEnd, after, rest) ← readRaw [] rest
    some ([.tag before .silent inside, .text s, .tag insideEnd .silent after], rest)
  | _ => none

/-- The text up to the next tag, and what is left from there. -/
def splitText : List Char → List Char × List Char
  | [] => ([], [])
  | '{' :: c :: rest =>
    if c = '{' ∨ c = '%' ∨ c = '#' then ([], '{' :: c :: rest)
    else
      let (s, rest) := splitText (c :: rest)
      ('{' :: s, rest)
  | c :: rest =>
    let (s, rest) := splitText rest
    (c :: s, rest)

def readPieces : Nat → List Char → Option (List Piece)
  | 0, _ => none
  | fuel + 1, cs =>
    match cs with
    | [] => some []
    | '{' :: '{' :: rest => do
      let (before, rest) := readDash rest
      let rest := skipSpace rest
      let (e, rest) ← readExpr (exprFuel rest) rest
      let (after, rest) ← readEnd '}' rest
      some (.tag before (.output e) after :: (← readPieces fuel rest))
    | '{' :: '%' :: rest => do
      let (ps, rest) ← readTag rest
      some (ps ++ (← readPieces fuel rest))
    | '{' :: '#' :: rest => do
      let (before, rest) := readDash rest
      let (after, rest) ← readComment rest
      some (.tag before .silent after :: (← readPieces fuel rest))
    | _ =>
      let (s, rest) := splitText cs
      (readPieces fuel rest).map fun ps => .text s :: ps

/-- What is left after the comments a template opens with. They trim nothing. -/
def skipOpening : Nat → List Char → Option (List Char)
  | 0, cs => some cs
  | fuel + 1, cs =>
    match cs with
    | '{' :: '#' :: rest => (readComment (readDash rest).2).bind fun (_, rest) => skipOpening fuel rest
    | _ => some cs

/-- Whether the next piece trims the text before it. -/
def trimsBefore : List Piece → Bool
  | .tag before _ _ :: _ => before
  | _ => false

/-- Trims the texts; `after` says whether the piece before trims what follows. -/
def trim (after : Bool) : List Piece → List Piece
  | [] => []
  | .text s :: rest =>
    let s := if after then Text.trimStart s else s
    let s := if trimsBefore rest then Text.trimEnd s else s
    .text s :: trim false rest
  | .tag before t after :: rest => .tag before t after :: trim after rest

/-- The pieces of a template, trimmed. -/
def pieces (source : List Char) : Option (List Piece) := do
  let cs ← skipOpening source.length source
  (readPieces (cs.length + 1) cs).map (trim false)

end Retag.Template
