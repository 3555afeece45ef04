/-
Reading expressions, statements and blocks.

Operators bind by their level; `readOperators` goes on with an expression for as
long as operators of a level follow, `readRight` reads a right operand, which
takes the operators that bind stronger.
-/
import Retag.Code.Read.Types

namespace Retag.Code

/-! ## Operators -/

/-- The levels at which operators bind, from weak to strong. -/
def assignLevel : Nat := 1

def compareLevel : Nat := 5

def castLevel : Nat := 12

/-- The operators between two operands and their levels. An operator stands before
those it begins with. -/
def operators : List (String × Nat) :=
  [("<<=", assignLevel), (">>=", assignLevel), ("+=", assignLevel), ("-=", assignLevel),
    ("*=", assignLevel), ("/=", assignLevel), ("%=", assignLevel), ("^=", assignLevel),
    ("&=", assignLevel), ("|=", assignLevel), ("&&", 4), ("||", 3), ("<<", 9), (">>", 9),
    ("==", compareLevel), ("<=", compareLevel), ("!=", compareLevel), (">=", compareLevel),
    ("+", 10), ("-", 10), ("*", 11), ("/", 11), ("%", 11), ("^", 7), ("&", 8), ("|", 6),
    ("<", compareLevel), (">", compareLevel)]

def levelOf (operator : String) : Nat := (operators.lookup operator).getD 0

/-- Reads an operator between two operands. -/
def readOperator (ts : List Token) : Option (String × List Token) :=
  operators.findSome? fun (s, _) => (sign s ts).map fun ts => (s, ts)

/-- Whether an assignment follows. -/
def seesAssign (ts : List Token) : Bool := sees "=" ts && !sees "=>" ts

/-- The level of what goes on with an expression, zero if nothing does. -/
def nextLevel (ts : List Token) : Nat :=
  match readOperator ts with
  | some (s, _) => levelOf s
  | none =>
    if seesAssign ts then assignLevel
    else if (word "as" ts).isSome then castLevel
    else 0

/-- Whether an expression compares two operands. -/
def Expr.compares : Expr → Bool
  | .binary s .. => levelOf s == compareLevel
  | _ => false

/-! ## What begins and ends an expression -/

/-- Whether an expression begins here. -/
def beginsExpr (ts : List Token) : Bool :=
  match ts with
  | .word s :: _ => s != "as"
  | .literal _ :: _ | .lifetime _ :: _ | .opening _ :: _ => true
  | ts =>
    let unary (s : String) (others : List String) : Bool := sees s ts && !others.any (sees · ts)
    unary "!" ["!="] || unary "-" ["-=", "->"] || unary "*" ["*="] || unary "|" ["|="]
      || unary "&" ["&="] || unary "<" ["<=", "<<="] || sees "::" ts || sees ".." ts

/-- Whether an expression is a statement without a semicolon. -/
def Expr.endsStatement : Expr → Bool
  | .conditional .. | .block _ | .vouched _ | .loop .. | .whileLoop .. | .endless _ => true
  | .macroCall m => m.bracket == .brace
  | _ => false

/-- The base of a whole number, and what is left behind the letter that tells it. -/
def splitBase (cs : List Char) : Nat × List Char :=
  match cs with
  | '0' :: 'x' :: rest => (16, rest)
  | '0' :: 'o' :: rest => (8, rest)
  | '0' :: 'b' :: rest => (2, rest)
  | cs => (10, cs)

/-- The position that a whole number names: no name follows its digits, and it has
32 bits. -/
def position? (cs : List Char) : Option Nat :=
  let (base, rest) := splitBase cs
  let digits := rest.filter (· != '_')
  if !cs.head?.any Text.isAsciiDigit || digits.isEmpty
      || !digits.all fun c => (digitOf c).any (· < base) then none
  else
    let n := digits.foldl (fun n c => n * base + (digitOf c).getD 0) 0
    if n < UInt32.size then some n else none

/-- The positions that a number after a dot names: one, or two with a dot
between. -/
def positions? (s : String) : Option (List String) :=
  (s.toList.splitOn '.').mapM fun part => (position? part).map toString

/-- A path without types, as the name of a macro. -/
def plainPath (p : List Segment) : Option (List String) :=
  p.mapM fun segment => if segment.arguments.isEmpty then some segment.name else none

/-- Reads the call of a macro from behind its path, at its exclamation mark. -/
def readMacroCall (path : List String) (global : Bool) (ts : List Token) :
    Option (MacroCall × List Token) :=
  match sign "!" ts with
  | some (.opening b :: ts) =>
    (readBalanced b [] ts).map fun (inner, rest) => (⟨path, global, b, inner⟩, rest)
  | _ => none

/-- Whether a dot or a question mark goes on with an expression. -/
def goesOn (ts : List Token) : Bool := sees "." ts && !sees ".." ts || sees "?" ts

/-- Reads the call of a macro with braces that nothing goes on with. -/
def readBraceMacro (fuel : Nat) (ts : List Token) : Option (MacroCall × List Token) := do
  let ((p, global), ts) ← readPath fuel false ts
  let (m, ts) ← readMacroCall (← plainPath p) global ts
  if m.bracket == .brace && !goesOn ts then some (m, ts) else none

mutual

def readExpr : Nat → Reader Expr
  | 0, _ => none
  | fuel + 1, ts => do
    let (e, ts) ← readUnary fuel ts
    readOperators fuel e 0 ts

/-- Goes on with an expression for as long as operators of a level follow. -/
def readOperators : Nat → Expr → Nat → Reader Expr
  | 0, _, _, _ => none
  | fuel + 1, left, level, ts =>
    match readOperator ts with
    | some (operator, after) =>
      if levelOf operator < level then some (left, ts)
      else if levelOf operator = compareLevel ∧ left.compares then none
      else do
        let (right, ts) ← readRight fuel (levelOf operator) after
        readOperators fuel (.binary operator left right) level ts
    | none =>
      if level ≤ assignLevel ∧ seesAssign ts then do
        let (right, ts) ← readRight fuel assignLevel (← sign "=" ts)
        readOperators fuel (.assign left right) level ts
      else
        match word "as" ts with
        | some ts => do
          let (t, ts) ← readTy fuel false ts
          readOperators fuel (.cast left t) level ts
        | none => some (left, ts)

/-- Reads the right operand of an operator of a level. -/
def readRight : Nat → Nat → Reader Expr
  | 0, _, _ => none
  | fuel + 1, level, ts => do
    let (e, ts) ← readUnary fuel ts
    readStronger fuel e level ts

/-- Goes on with a right operand while stronger operators follow; assignments
group to the right. -/
def readStronger : Nat → Expr → Nat → Reader Expr
  | 0, _, _, _ => none
  | fuel + 1, e, level, ts =>
    let next := nextLevel ts
    if level < next ∨ next = level ∧ level = assignLevel then do
      let (e, ts) ← readOperators fuel e next ts
      readStronger fuel e level ts
    else some (e, ts)

def readUnary : Nat → Reader Expr
  | 0, _ => none
  | fuel + 1, ts =>
    match sign "&" ts with
    | some ts => do
      let (mutable, ts) := optionalWord "mut" ts
      let (e, ts) ← readUnary fuel ts
      some (.reference mutable e, ts)
    | none =>
      match ["!", "-", "*"].findSome? fun s => (sign s ts).map (s, ·) with
      | some (operator, ts) => do
        let (e, ts) ← readUnary fuel ts
        some (.unary operator e, ts)
      | none => do
        let (e, ts) ← readAtom fuel ts
        readTrailers fuel e ts

/-- Goes on with an expression through calls, fields, methods and indices. -/
def readTrailers : Nat → Expr → Reader Expr
  | 0, _, _ => none
  | fuel + 1, e, ts =>
    match ts with
    | .opening .parenthesis :: ts => do
      let ((arguments, _), ts) ← readList (readExpr fuel) .parenthesis fuel ts
      readTrailers fuel (.call e arguments) ts
    | .opening .square :: ts => do
      let (i, ts) ← readExpr fuel ts
      readTrailers fuel (.index e i) (← closing .square ts)
    | ts =>
      match sign "?" ts with
      | some ts => readTrailers fuel (.attempt e) ts
      | none =>
        if sees ".." ts then some (e, ts)
        else
          match sign "." ts with
          | none => some (e, ts)
          | some (.word "await" :: ts) => readTrailers fuel (.await e) ts
          | some (.literal s :: ts) => do
            let positions ← positions? s
            readTrailers fuel (positions.foldl .field e) ts
          | some ts => do
            let (name, ts) ← readName ts
            match sign "::" ts with
            | some ts =>
              let (types, ts) ← readArguments fuel (← sign "<" ts)
              let ts ← opening .parenthesis ts
              let ((arguments, _), ts) ← readList (readExpr fuel) .parenthesis fuel ts
              readTrailers fuel (.method e name types arguments) ts
            | none =>
              match opening .parenthesis ts with
              | some ts =>
                let ((arguments, _), ts) ← readList (readExpr fuel) .parenthesis fuel ts
                readTrailers fuel (.method e name [] arguments) ts
              | none => readTrailers fuel (.field e name) ts

def readAtom : Nat → Reader Expr
  | 0, _ => none
  | fuel + 1, ts =>
    match ts with
    | .literal s :: ts => some (.literal s, ts)
    | .word "true" :: ts => some (.literal "true", ts)
    | .word "false" :: ts => some (.literal "false", ts)
    | .word "_" :: ts => some (.anything, ts)
    | .word "return" :: ts =>
      if beginsExpr ts then do
        let (e, ts) ← readExpr fuel ts
        some (.ret (some e), ts)
      else some (.ret none, ts)
    | .word "if" :: ts => do
      let (condition, ts) ← readExpr fuel ts
      let (yes, ts) ← readBlock fuel ts
      match word "else" ts with
      | none => some (.conditional condition yes none, ts)
      | some ts =>
        match ts with
        | .word "if" :: _ => do
          let (no, ts) ← readAtom fuel ts
          some (.conditional condition yes (some no), ts)
        | ts => do
          let (no, ts) ← readBlock fuel ts
          some (.conditional condition yes (some (.block no)), ts)
    | .word "for" :: ts => do
      let (p, ts) ← readPattern fuel ts
      let (items, ts) ← readExpr fuel (← word "in" ts)
      let (body, ts) ← readBlock fuel ts
      some (.loop p items body, ts)
    | .word "while" :: ts => do
      let (condition, ts) ← readExpr fuel ts
      let (body, ts) ← readBlock fuel ts
      some (.whileLoop condition body, ts)
    | .word "loop" :: ts => do
      let (body, ts) ← readBlock fuel ts
      some (.endless body, ts)
    | .word "unsafe" :: ts => do
      let (body, ts) ← readBlock fuel ts
      some (.vouched body, ts)
    | .word "break" :: ts =>
      if beginsExpr ts then do
        let (e, ts) ← readExpr fuel ts
        some (.leave (some e), ts)
      else some (.leave none, ts)
    | .word "continue" :: ts => some (.proceed, ts)
    | .word "move" :: ts => do
      let (parameters, ts) ← readParameters fuel (← sign "|" ts)
      let (body, ts) ← readExpr fuel ts
      some (.closure true parameters body, ts)
    | .opening .parenthesis :: ts => do
      let ((items, comma), ts) ← readList (readExpr fuel) .parenthesis fuel ts
      match items, comma with
      | [e], false => some (.paren e, ts)
      | items, _ => some (.tuple items, ts)
    | .opening .square :: ts => do
      match readList (readExpr fuel) .square fuel ts with
      | some ((items, _), ts) => some (.array items, ts)
      | none =>
        let (e, ts) ← readExpr fuel ts
        let (count, ts) ← readExpr fuel (← sign ";" ts)
        some (.repetition e count, ← closing .square ts)
    | .opening .brace :: _ => do
      let (body, ts) ← readBlock fuel ts
      some (.block body, ts)
    | ts =>
      match sign "|" ts with
      | some ts => do
        let (parameters, ts) ← readParameters fuel ts
        let (body, ts) ← readExpr fuel ts
        some (.closure false parameters body, ts)
      | none => do
        let ((p, global), ts) ← readPath fuel false ts
        match plainPath p with
        | some path =>
          if sees "!" ts && !sees "!=" ts then do
            let (m, ts) ← readMacroCall path global ts
            some (.macroCall m, ts)
          else some (.path p global, ts)
        | none => some (.path p global, ts)

/-- Reads the parameters of a closure, to the bar that ends them. -/
def readParameters : Nat → Reader (List Binding)
  | 0, _ => none
  | fuel + 1, ts =>
    match sign "|" ts with
    | some ts => some ([], ts)
    | none => do
      let (b, ts) ← readBinding fuel false ts
      match sign "|" ts with
      | some ts => some ([b], ts)
      | none =>
        let (bs, ts) ← readParameters fuel (← sign "," ts)
        some (b :: bs, ts)

/-- Reads statements between braces. -/
def readBlock : Nat → Reader (List Stmt)
  | 0, _ => none
  | fuel + 1, ts => (opening .brace ts).bind (readStmts fuel)

/-- Reads statements up to a closing brace. Only the last one, and one that ends by
itself, goes without a semicolon. -/
def readStmts : Nat → Reader (List Stmt)
  | 0, _ => none
  | fuel + 1, ts =>
    match closing .brace ts with
    | some ts => some ([], ts)
    | none => do
      let (s, ended, ts) ← readStmt fuel ts
      if !ended && (closing .brace ts).isNone then none
      else
        let (rest, ts) ← readStmts fuel ts
        some (s :: rest, ts)

/-- Reads a statement; also answers whether it has ended. -/
def readStmt : Nat → List Token → Option (Stmt × Bool × List Token)
  | 0, _ => none
  | fuel + 1, ts =>
    match sign ";" ts with
    | some ts => some (.nothing, true, ts)
    | none =>
      match ts with
      | .word "let" :: ts => do
        let (b, ts) ← readBinding fuel false ts
        if seesAssign ts then do
          let (e, ts) ← readExpr fuel (← sign "=" ts)
          some (.binding b (some e), true, ← sign ";" ts)
        else some (.binding b none, true, ← sign ";" ts)
      | ts =>
        match readBraceMacro fuel ts with
        | some (m, ts) =>
          let (semicolon, ts) := optionalSign ";" ts
          some (.macroCall m semicolon, true, ts)
        | none => do
          let (e, ts) ← readOpening fuel ts
          let (semicolon, ts) := optionalSign ";" ts
          let s : Stmt := match e with
            | .macroCall m =>
              if semicolon || m.bracket == .brace then .macroCall m semicolon else .expr e false
            | e => .expr e semicolon
          some (s, semicolon || e.endsStatement, ts)

/-- Reads the expression that opens a statement. One that ends a statement by
itself goes on only with a dot or a question mark. -/
def readOpening : Nat → Reader Expr
  | 0, _ => none
  | fuel + 1, ts =>
    match ts with
    | .word "if" :: _ | .word "for" :: _ | .word "while" :: _ | .word "loop" :: _
    | .word "unsafe" :: _ | .opening .brace :: _ => do
      let (e, ts) ← readAtom fuel ts
      if goesOn ts then do
        let (e, ts) ← readTrailers fuel e ts
        readOperators fuel e 0 ts
      else some (e, ts)
    | ts => readExpr fuel ts

end

end Retag.Code
