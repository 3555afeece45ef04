/-
Documents of expressions and statements.

A chain of methods, fields and the like is one group: if it does not fit a line,
each link goes on a line of its own, except that one behind a short name at the
start of a line stays there.
-/
import Retag.Code.Print.Types

namespace Retag.Code

open Doc

/-- Where an expression stands: by itself, or as the start of a chain; and whether
a line begins with it. -/
inductive Place where
  | whole (opensLine : Bool)
  | link (opensLine : Bool)
  deriving DecidableEq

def Place.opensLine : Place → Bool
  | .whole b | .link b => b

namespace Expr

/-- Whether an expression is a name no wider than a level of nesting. -/
def isShortName : Expr → Bool
  | .path [.mk s []] false => s.utf8ByteSize ≤ 4
  | _ => false

/-- Whether an expression brings its own brackets, so that it goes between others
without a line of its own. -/
def isBlocklike : Expr → Bool
  | .array _ | .block _ | .vouched _ | .closure .. | .tuple _ => true
  | _ => false

/-- Whether the body of a closure is put in braces if it does not fit. -/
def isBraced : Expr → Bool
  | .call .. => false
  | e => !e.isBlocklike

/-- Whether a condition that does not fit one line ends with a line of its own. -/
def endsLine : Expr → Bool
  | .assign .. | .await _ | .binary .. | .field .. | .index .. | .method .. => true
  | .call e _ | .cast e _ | .paren e | .reference _ e | .attempt e | .unary _ e | .ret (some e)
  | .leave (some e) => e.endsLine
  | _ => false

/-- Whether an expression at the end of a block takes a semicolon. -/
def takesSemicolon : Expr → Bool
  | .assign .. | .ret _ | .leave _ | .proceed => true
  | .binary s .. => s.length > 1 && s.endsWith "=" && !(["==", "<=", ">=", "!="].contains s)
  | _ => false

/-- Whether the semicolon after an expression is left out. -/
def dropsSemicolon : Expr → Bool
  | .loop .. | .whileLoop .. => true
  | .conditional _ _ none => true
  | .conditional _ _ (some no) => no.dropsSemicolon
  | _ => false

end Expr

/-- Marks a link of a chain: a place where the line may end, unless the chain is
so short. -/
def linkGap (opensLine : Bool) (receiver : Expr) : List Doc :=
  if opensLine && receiver.isShortName then [] else [.gap .empty]

/-- A chain or a part of one. -/
def chain (place : Place) (ds : List Doc) : List Doc :=
  match place with
  | .whole _ => [block ds]
  | .link _ => ds

/-- An expression that is no chain; at the start of one it is moved back a level. -/
def single (place : Place) (ds : List Doc) : List Doc :=
  match place with
  | .whole _ => ds
  | .link _ => [.group true (-indent) ds]

/-- The arguments of a call. A single one with brackets of its own goes between
the parentheses at once. -/
def argumentDocs (arguments : List Expr) (docs : List (List Doc)) : List Doc :=
  match arguments, docs with
  | [e], [d] => if e.isBlocklike then .text "(" :: d ++ [.text ")"] else Doc.enclosed "(" [d] ")"
  | _, docs => Doc.enclosed "(" docs ")"

/-- A condition, up to the brace behind it. -/
def conditionDocs (e : Expr) (docs : List Doc) : Doc :=
  .group true 0 (docs ++ [if e.endsLine then .gap .space else .text " "])

/-- Statements between braces that stay on the line if they fit. -/
def smallBlock (lines : List Doc) : List Doc :=
  match lines with
  | [] => [.text "\x7b\x7d"]
  | lines => [.text "\x7b", .gap .space] ++ shiftLast (-indent) lines ++ [.text "\x7d"]

/-- Statements between braces on lines of their own. -/
def loopBody (lines : List Doc) : List Doc :=
  (match lines with
    | [] => [.text "\x7b", .gap .none]
    | lines => [.text "\x7b", .gap .none, block (newline :: shiftLast (-indent) lines)])
    ++ [.text "\x7d"]

/-- Items with commas and places where the line may end between them. -/
def spaced : List (List Doc) → List Doc
  | [] => []
  | [d] => d
  | d :: rest => d ++ [.text ",", .gap .space] ++ spaced rest

/-- The head of a closure. -/
def closureHead (moves : Bool) (parameters : List Binding) : List Doc :=
  let names := match parameters with
    | [] => []
    | ps => .gap .empty :: spaced (ps.map Binding.docs)
  (if moves then [.text "move "] else [])
    ++ [block (.text "|" :: names ++ [.text "|", .gap (Gap.space.shift (-indent))])]

/-- The body of a closure, put in braces if it does not fit. -/
def closureBody (body : Expr) (docs : List Doc) : List Doc :=
  if body.isBraced then
    [block (.gap { before := "\x7b" } :: docs
      ++ [.gap { offset := -indent
                 before := if body.takesSemicolon then ";" else ""
                 after := "\x7d" }])]
  else docs

mutual

def Expr.docs : Place → Expr → List Doc
  | place, .literal s => single place [.text s]
  | place, .path p global => single place (pathDocs p global)
  | place, .anything => single place [.text "_"]
  | place, .paren e => single place (.text "(" :: e.docs (.whole false) ++ [.text ")"])
  | place, .tuple items => single place (Doc.tuple (exprsDocs items))
  | place, .array items => single place (Doc.enclosed "[" (exprsDocs items) "]")
  | place, .repetition e count =>
    single place (.text "[" :: e.docs (.whole false) ++ .text "; " :: count.docs (.whole false)
      ++ [.text "]"])
  | place, .call f arguments =>
    let args := argumentDocs arguments (exprsDocs arguments)
    match place with
    | .whole opensLine => f.docs (.whole opensLine) ++ args
    | .link _ => f.docs (.link false) ++ args
  | place, .method receiver name types arguments =>
    let unindent := match place with
      | .whole opensLine => opensLine && receiver.isShortName
      | .link _ => false
    chain place (receiver.docs (.link place.opensLine) ++ linkGap place.opensLine receiver
      ++ [.text ".", .text name] ++ appliedDocs true types
      ++ [.group true (if unindent then -indent else 0)
        (argumentDocs arguments (exprsDocs arguments))])
  | place, .field e name =>
    chain place (e.docs (.link place.opensLine) ++ linkGap place.opensLine e
      ++ [.text ".", .text name])
  | place, .index e i => e.docs place ++ .text "[" :: i.docs (.whole false) ++ [.text "]"]
  | place, .attempt e => e.docs place ++ [.text "?"]
  | place, .await e =>
    chain place (e.docs (.link place.opensLine) ++ linkGap place.opensLine e ++ [.text ".await"])
  | place, .unary operator e => single place (.text operator :: e.docs (.whole false))
  | place, .reference mutable e =>
    single place (.text (if mutable then "&mut " else "&") :: e.docs (.whole false))
  | place, .binary operator left right =>
    single place [.group false indent
      (.group false (-indent) (left.docs (.whole false))
        :: [.gap .space, .text operator, .text " "] ++ right.docs (.whole false))]
  | place, .assign left right =>
    single place [.group false 0
      (left.docs (.whole false) ++ [.text " = ", .gap .none] ++ right.docs (.whole false))]
  | place, .cast e t =>
    single place [.group false indent
      (.group false (-indent) (e.docs (.whole false)) :: [.gap .space, .text "as "] ++ t.docs)]
  | place, .closure moves parameters body =>
    single place [.group false 0 (closureHead moves parameters ++ .gap .none
      :: closureBody body (body.docs (.whole false)))]
  | place, .ret none => single place [.text "return"]
  | place, .ret (some e) => single place (.text "return" :: .text " " :: e.docs (.whole false))
  | place, .leave none => single place [.text "break"]
  | place, .leave (some e) => single place (.text "break" :: .text " " :: e.docs (.whole false))
  | place, .proceed => single place [.text "continue"]
  | place, .block body => single place [block (smallBlock (bodyDocs body))]
  | place, .vouched body => single place [.text "unsafe ", block (smallBlock (bodyDocs body))]
  | place, .conditional condition yes no =>
    let head := .text "if " :: [conditionDocs condition (condition.docs (.whole false))]
    single place [block (head ++ match no with
      | none =>
        match yes with
        | [] => [.text "\x7b\x7d"]
        | yes => [.text "\x7b", newline] ++ shiftLast (-indent) (stmtsDocs yes) ++ [.text "\x7d"]
      | some no => smallBlock (bodyDocs yes) ++ elseDocs no)]
  | place, .loop p items body =>
    single place (.text "for " :: p.docs ++ [.text " in ", .gap .none,
      conditionDocs items (items.docs (.whole false))] ++ loopBody (stmtsDocs body))
  | place, .whileLoop condition body =>
    single place (.text "while " :: conditionDocs condition (condition.docs (.whole false))
      :: loopBody (stmtsDocs body))
  | place, .endless body =>
    single place (.text "loop \x7b" :: match stmtsDocs body with
      | [] => [.text "\x7d"]
      | lines => [block (newline :: shiftLast (-indent) lines), .text "\x7d"])
  | place, .macroCall m => single place (m.docs false)

/-- What follows the block of a condition that holds. -/
def elseDocs : Expr → List Doc
  | .conditional condition yes no =>
    .text " else " :: .text "if " :: conditionDocs condition (condition.docs (.whole false))
      :: smallBlock (bodyDocs yes) ++ match no with
        | none => []
        | some no => elseDocs no
  | .block body => .text " else " :: smallBlock (bodyDocs body)
  | _ => []

def exprsDocs : List Expr → List (List Doc)
  | [] => []
  | e :: rest => e.docs (.whole false) :: exprsDocs rest

/-- The body of a block that may stay on a line: a single expression, or
statements. -/
def bodyDocs : List Stmt → List Doc
  | [.expr e false] => [.group false 0 (e.docs (.whole true)), .gap .space]
  | body => stmtsDocs body

/-- A statement with the end of its line. -/
def Stmt.docs (isLast : Bool) : Stmt → List Doc
  | .binding b value =>
    [.group false 0 (.text "let " :: b.docs
      ++ (match value with
        | none => []
        | some e => [.text " = ", .gap .none] ++ e.docs (.whole false))
      ++ [.text ";"]), newline]
  | .expr e semicolon =>
    let ends := if semicolon then !e.dropsSemicolon else e.takesSemicolon
    [.group false 0 (e.docs (.whole true) ++ (if ends then [.text ";"] else [])), newline]
  | .macroCall m semicolon => m.docs (semicolon || !isLast) ++ [newline]
  | .nothing => []

def stmtsDocs : List Stmt → List Doc
  | [] => []
  | s :: rest => s.docs rest.isEmpty ++ stmtsDocs rest

end

end Retag.Code
