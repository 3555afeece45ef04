/-
Documents of paths, types, patterns and calls of macros.
-/
import Retag.Code.Syntax
import Retag.Code.Layout

namespace Retag.Code

open Doc

/-- The documents, with a text between each two. -/
def separated (s : String) : List (List Doc) → List Doc
  | [] => []
  | [d] => d
  | d :: rest => d ++ .text s :: separated s rest

/-- The names of a path with two colons between them, and before them if it is
global. -/
def pathText (p : List String) (global : Bool) : String :=
  (if global then "::" else "") ++ "::".intercalate p

/-! ## Types -/

mutual

def Ty.docs : Ty → List Doc
  | .path p global => (if global then [.text "::"] else []) ++ separated "::" (segmentsDocs false p)
  | .reference name mutable t =>
    .text ("&" ++ (match name with
      | some s => "\x27" ++ s ++ " "
      | none => "") ++ (if mutable then "mut " else "")) :: t.docs
  | .tuple items => Doc.tuple (tysDocs items)
  | .paren t => .text "(" :: t.docs ++ [.text ")"]
  | .slice t => .text "[" :: t.docs ++ [.text "]"]
  | .bounded keyword bounds => .text (keyword ++ " ") :: separated " + " (tysDocs bounds)
  | .lifetime name => [.text ("\x27" ++ name)]
  | .never => [.text "!"]
  | .inferred => [.text "_"]

/-- A segment; in an expression, colons stand before the types it is applied to. -/
def Segment.docs (inExpr : Bool) : Segment → List Doc
  | .mk name arguments => .text name :: appliedDocs inExpr arguments

/-- The types that a name is applied to. -/
def appliedDocs (inExpr : Bool) : List Ty → List Doc
  | [] => []
  | t :: rest =>
    let lifetimes := lifetimeDocs (t :: rest)
    let others := otherDocs (t :: rest)
    Doc.enclosed (if inExpr then "::<" else "<") (lifetimes ++ others) ">"

/-- The lifetimes among types. -/
def lifetimeDocs : List Ty → List (List Doc)
  | [] => []
  | .lifetime name :: rest => [.text ("\x27" ++ name)] :: lifetimeDocs rest
  | _ :: rest => lifetimeDocs rest

/-- The types that are no lifetimes. -/
def otherDocs : List Ty → List (List Doc)
  | [] => []
  | .lifetime _ :: rest => otherDocs rest
  | t :: rest => t.docs :: otherDocs rest

def tysDocs : List Ty → List (List Doc)
  | [] => []
  | t :: rest => t.docs :: tysDocs rest

def segmentsDocs (inExpr : Bool) : List Segment → List (List Doc)
  | [] => []
  | s :: rest => s.docs inExpr :: segmentsDocs inExpr rest

end

/-- A path in an expression or a pattern. -/
def pathDocs (p : List Segment) (global : Bool) : List Doc :=
  (if global then [.text "::"] else []) ++ separated "::" (segmentsDocs true p)

/-! ## Patterns -/

mutual

def Pattern.docs : Pattern → List Doc
  | .name byRef mutable s =>
    [.text ((if byRef then "ref " else "") ++ (if mutable then "mut " else "") ++ s)]
  | .path p global => pathDocs p global
  | .anything => [.text "_"]
  | .literal s => [.text s]
  | .tuple items => Doc.tuple (patternsDocs items)
  | .fields p global items => pathDocs p global ++ Doc.enclosed "(" (patternsDocs items) ")"
  | .reference mutable p => .text (if mutable then "&mut " else "&") :: p.docs

def patternsDocs : List Pattern → List (List Doc)
  | [] => []
  | p :: rest => p.docs :: patternsDocs rest

end

def Binding.docs (b : Binding) : List Doc :=
  b.pattern.docs ++ match b.ty with
    | some t => .text ": " :: t.docs
    | none => []

/-! ## Calls of macros -/

/-- What the tokens of a macro have passed, as far as it matters for blanks. -/
inductive Passed where
  | start
  | dollar
  | pound
  | poundBang
  | dot
  | colon
  | colons
  | word
  | wordBang
  | list
  | other
  deriving DecidableEq

/-- Words between the tokens of a macro that are set off like signs. -/
def setOff : List String :=
  ["as", "async", "await", "box", "break", "const", "continue", "crate", "dyn", "else", "enum",
    "extern", "fn", "for", "if", "impl", "in", "let", "loop", "macro", "match", "mod", "move",
    "mut", "pub", "ref", "return", "static", "struct", "trait", "type", "unsafe", "use", "where",
    "while", "yield"]

/-- Whether a blank stands before a token, and what is passed with it. -/
def Passed.next : Passed → Token → Bool × Passed
  | .pound, .sign '!' _ => (false, .poundBang)
  | .pound, .opening .square | .poundBang, .opening .square => (false, .other)
  | .word, .opening .parenthesis | .word, .opening .square => (false, .list)
  | .word, .sign '!' false => (false, .wordBang)
  | .wordBang, .opening .parenthesis | .wordBang, .opening .square => (false, .other)
  | .dollar, .opening .parenthesis => (false, .other)
  | .colon, .sign ':' _ => (false, .colons)
  | _, .opening .parenthesis | _, .opening .square => (true, .list)
  | _, .opening .brace => (true, .other)
  | before, .word s =>
    if setOff.contains s then (true, .other) else (before != .dot && before != .colons, .word)
  | before, .literal _ => (before != .dot, .word)
  | _, .lifetime s => (true, if setOff.contains s then .other else .word)
  | _, .sign ',' _ | _, .sign ';' _ => (false, .other)
  | before, .sign '.' _ => (before != .word && before != .list, .dot)
  | before, .sign ':' true => (before != .word, .colon)
  | _, .sign '$' _ => (true, .dollar)
  | _, .sign '#' _ => (true, .pound)
  | _, _ => (true, .other)

/-- The text of a token. -/
def Token.text : Token → String
  | .word s => s
  | .lifetime s => "\x27" ++ s
  | .literal s => s
  | .sign c _ => String.singleton c
  | .opening b => String.singleton b.opening
  | .closing b => String.singleton b.closing
  | .doc _ s => s

/-- The tokens of a macro. `outer` has the brackets that are open, with what is
passed when they close; `joint` says that the token before takes no blank. -/
def tokenDocs (passed : Passed) (joint : Bool) (outer : List (Bracket × Passed)) :
    List Token → List Doc
  | [] => []
  | .closing b :: rest =>
    let after := match outer with
      | (_, p) :: _ => p
      | [] => .other
    let gap : List Doc := if b = .brace ∧ passed ≠ .start then [.gap .space] else []
    gap ++ .text (Token.text (.closing b)) :: tokenDocs after false outer.tail rest
  | t :: rest =>
    let (space, after) := passed.next t
    let gap : List Doc :=
      if joint then []
      else if space then [.gap .space]
      else
        match t with
        | .sign '.' _ => [.gap .empty]
        | _ => []
    match t with
    | .opening b =>
      let inner : List Doc := match b, rest with
        | .brace, .closing .brace :: _ => []
        | .brace, _ => [.gap .space]
        | _, _ => []
      gap ++ .text t.text :: inner ++ tokenDocs .start true ((b, after) :: outer) rest
    | .sign c j => gap ++ .text t.text :: tokenDocs after (j || c == '$') outer rest
    | _ => gap ++ .text t.text :: tokenDocs after false outer rest

/-- A call of a macro, ended by a semicolon if `semicolon`, unless it has braces. -/
def MacroCall.docs (m : MacroCall) (semicolon : Bool) : List Doc :=
  let gap : Doc := .gap (if m.bracket = .brace then .newline else .empty)
  let inside : List Doc := match m.tokens with
    | [] => []
    | ts => [block (gap :: .group false 0 (tokenDocs .start true [] ts) :: shiftLast (-indent) [gap])]
  .text (pathText m.path m.global ++ "!" ++ (if m.bracket = .brace then " " else ""))
    :: .text (String.singleton m.bracket.opening) :: inside
    ++ [.text (String.singleton m.bracket.closing ++
      (if semicolon && m.bracket != .brace then ";" else ""))]

end Retag.Code
