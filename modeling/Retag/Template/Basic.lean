/-
Templates: texts with expressions, loops and choices between them. `Template.read`
takes a template from its text; it answers none for a text that is no template.
-/
import Retag.Template.Piece

namespace Retag

/-- A template, from its first part on. -/
inductive Template where
  | done
  | text (s : String) (rest : Template)
  | output (e : Template.Expr) (rest : Template)
  /-- The body for each item of the container, or `otherwise` if there is none. -/
  | loop (name : String) (container : Template.Expr) (body otherwise rest : Template)
  | choice (condition : Template.Expr) (yes no rest : Template)
  | include (name : String) (rest : Template)
  deriving Repr

namespace Template

mutual

/-- Reads to the end of the pieces or to a tag that closes a body or a branch;
answers that tag too. -/
def readBody : Nat → List Piece → Option (Template × Option Tag × List Piece)
  | 0, _ => none
  | fuel + 1, ps =>
    match ps with
    | [] => some (.done, none, [])
    | .text s :: ps => do
      let (rest, close, ps) ← readBody fuel ps
      some (.text (String.ofList s) rest, close, ps)
    | .tag _ t _ :: ps =>
      match t with
      | .silent => readBody fuel ps
      | .output e => do
        let (rest, close, ps) ← readBody fuel ps
        some (.output e rest, close, ps)
      | .include name => do
        let (rest, close, ps) ← readBody fuel ps
        some (.include name rest, close, ps)
      | .loop name container => do
        let (body, otherwise, ps) ← readLoop fuel ps
        let (rest, close, ps) ← readBody fuel ps
        some (.loop name container body otherwise rest, close, ps)
      | .choose condition => do
        let (yes, no, ps) ← readBranches fuel ps
        let (rest, close, ps) ← readBody fuel ps
        some (.choice condition yes no rest, close, ps)
      | .endLoop | .chooseElse _ | .otherwise | .endChoose => some (.done, some t, ps)

/-- Reads the body of a loop and what stands for it if there is no item. -/
def readLoop : Nat → List Piece → Option (Template × Template × List Piece)
  | 0, _ => none
  | fuel + 1, ps => do
    let (body, close, ps) ← readBody fuel ps
    match close with
    | some .endLoop => some (body, .done, ps)
    | some .otherwise =>
      let (otherwise, close, ps) ← readBody fuel ps
      match close with
      | some .endLoop => some (body, otherwise, ps)
      | _ => none
    | _ => none

/-- Reads the branch of a condition that holds and that of one that does not. A
further condition is a choice in the second. -/
def readBranches : Nat → List Piece → Option (Template × Template × List Piece)
  | 0, _ => none
  | fuel + 1, ps => do
    let (yes, close, ps) ← readBody fuel ps
    match close with
    | some .endChoose => some (yes, .done, ps)
    | some (.chooseElse condition) =>
      let (yes', no', ps) ← readBranches fuel ps
      some (yes, .choice condition yes' no' .done, ps)
    | some .otherwise =>
      let (no, close, ps) ← readBody fuel ps
      match close with
      | some .endChoose => some (yes, no, ps)
      | _ => none
    | _ => none

end

/-- The template that pieces make up. -/
def ofPieces (ps : List Piece) : Option Template :=
  match readBody (2 * ps.length + 1) ps with
  | some (t, none, _) => some t
  | _ => none

/-- Reads a template. -/
def read (source : String) : Option Template := (pieces source.toList).bind ofPieces

end Template

end Retag
