/-
Rendering templates. A template is rendered with variables: those it is given,
and the ones of the loops it is in.

A name that means nothing is a fault, except in a condition that consists of it:
such a condition does not hold.
-/
import Retag.Template.Basic
import Retag.Text.Words

namespace Retag

namespace Json

/-! ## Values as templates see them -/

mutual

/-- The text of a value. Null has none, and an object is not shown. -/
def shown : Json → String
  | .null => ""
  | .bool b => if b then "true" else "false"
  | .number n =>
    match n with
    | .double x => x.text ⟨fun _ => true, false, false⟩
    | n => n.text
  | .string s => s
  | .array items => "[" ++ shownItems items ++ "]"
  | .object _ => "[object]"

def shownItems : List Json → String
  | [] => ""
  | [v] => shown v
  | v :: w :: rest => shown v ++ ", " ++ shownItems (w :: rest)

end

/-- Whether a value counts as true: nothing empty, zero or null does. -/
def isTruthy : Json → Bool
  | .null => false
  | .bool b => b
  | .number (.natural n) => n != 0
  | .number (.negative n) => n != 0
  | .number (.double x) => !x.isZero
  | .string s => !s.isEmpty
  | .array items => !items.isEmpty
  | .object members => !members.isEmpty

mutual

/-- Whether two values are the same. -/
def same : Json → Json → Bool
  | .null, .null => true
  | .bool a, .bool b => a == b
  | .number a, .number b => a == b
  | .string a, .string b => a == b
  | .array a, .array b => sameItems a b
  | .object a, .object b => sameMembers a b
  | _, _ => false

def sameItems : List Json → List Json → Bool
  | [], [] => true
  | v :: a, w :: b => same v w && sameItems a b
  | _, _ => false

def sameMembers : List (String × Json) → List (String × Json) → Bool
  | [], [] => true
  | (k, v) :: a, (l, w) :: b => k == l && same v w && sameMembers a b
  | _, _ => false

end

/-- The position that a text names: decimal digits without a leading zero. -/
def position? (name : String) : Option Nat :=
  match name.toList with
  | ['0'] => some 0
  | c :: cs =>
    if c ≠ '0' ∧ (c :: cs).all Text.isAsciiDigit then some (Template.naturalOf (c :: cs)) else none
  | [] => none

/-- The value that steps lead to. -/
def follow? : Json → List String → Option Json
  | v, [] => some v
  | .object members, k :: ks => (members.lookup k).bind (follow? · ks)
  | .array items, k :: ks => ((position? k).bind (items[·]?)).bind (follow? · ks)
  | _, _ :: _ => none
termination_by structural _ ks => ks

end Json

/-- A number as a double. -/
def JsonNumber.toDouble : JsonNumber → Option Binary64
  | .natural n => Binary64.ofNat n
  | .negative n => Binary64.ofRatio true n 1
  | .double x => some x

/-- Numbers are compared as doubles, and the two zeros are equal. -/
def JsonNumber.equal (a b : JsonNumber) : Bool :=
  match a.toDouble, b.toDouble with
  | some x, some y => x == y || x.isZero && y.isZero
  | _, _ => false

/-- Whether two values are equal in a condition. -/
def Json.equal : Json → Json → Bool
  | .number a, .number b => a.equal b
  | a, b => same a b

namespace Template

/-- Why a template cannot be rendered. -/
inductive Fault where
  | undefined (name : String)
  /-- Only texts and numbers are indices. -/
  | notAnIndex
  | notIterable
  | noSuchFilter (name : String)
  | noSuchFunction (name : String)
  | filterDoesNotApply (name : String)
  | noSuchTemplate (name : String)
  deriving DecidableEq, Repr

/-- A loop in its course: the variable, the current item, its position from zero
and the number of items. -/
structure Turn where
  name : String
  item : Json
  position : Nat
  count : Nat

/-- The variables at a place; the inmost loop comes first. -/
structure Scope where
  turns : List Turn
  given : List (String × Json)

/-- What a loop tells of its course. -/
def Turn.course? (t : Turn) : String → Option Json
  | "index" => some (.number (.natural (t.position + 1)))
  | "index0" => some (.number (.natural t.position))
  | "first" => some (.bool (t.position == 0))
  | "last" => some (.bool (t.position + 1 == t.count))
  | _ => none

/-- The value of a path in one loop. -/
def Turn.find? (t : Turn) (name : String) (steps : List String) : Option Json :=
  let course := match steps with
    | [step] => if name = "loop" then t.course? step else none
    | _ => none
  course.or (if name = t.name then t.item.follow? steps else none)

/-- The value of a path: of the inmost loop that has it, else of the variables. -/
def Scope.find? (s : Scope) (name : String) (steps : List String) : Option Json :=
  (s.turns.findSome? fun t => t.find? name steps).or
    ((s.given.lookup name).bind (·.follow? steps))

def Scope.find (s : Scope) (name : String) (steps : List String) : Except Fault Json :=
  match s.find? name steps with
  | some v => .ok v
  | none => .error (.undefined name)

/-- The step that a value stands for. -/
def stepOf : Json → Except Fault String
  | .string s => .ok s
  | .number n => .ok n.text
  | _ => .error .notAnIndex

/-- The variable of a path and its steps. -/
def Path.steps (s : Scope) : Path → Except Fault (String × List String)
  | .variable name => .ok (name, [])
  | .member p step => (p.steps s).map fun (name, steps) => (name, steps ++ [step])
  | .indexed p index => do
    let (name, steps) ← p.steps s
    let (other, otherSteps) ← index.steps s
    .ok (name, steps ++ [← stepOf (← s.find other otherSteps)])

/-- The value at a path. -/
def Path.value (s : Scope) (p : Path) : Except Fault Json :=
  (p.steps s).bind fun (name, steps) => s.find name steps

/-- Applies a filter. -/
def applyFilter (name : String) (v : Json) : Except Fault Json :=
  match name, v with
  | "length", .string s => .ok (.number (.natural s.length))
  | "length", .array items => .ok (.number (.natural items.length))
  | "length", .object members => .ok (.number (.natural members.length))
  | "snake_case", .string s => .ok (.string (Text.snakeCase s))
  | "length", _ | "snake_case", _ => .error (.filterDoesNotApply name)
  | _, _ => .error (.noSuchFilter name)

/-- The value of an expression. -/
def Expr.value (s : Scope) : Expr → Except Fault Json
  | .literal v => .ok v
  | .path p => p.value s
  | .call name => .error (.noSuchFunction name)
  | .filtered e name => (e.value s).bind (applyFilter name)
  | .equal left right => do
    let v ← left.value s
    let w ← right.value s
    .ok (.bool (v.equal w))

/-- An expression without its filters. -/
def Expr.subject : Expr → Expr
  | .filtered e _ => e.subject
  | e => e

/-- Whether a condition holds. A literal counts by itself, whatever its filters. -/
def Expr.holds (s : Scope) (e : Expr) : Except Fault Bool :=
  match e.subject with
  | .literal v => .ok v.isTruthy
  | .path _ => .ok ((e.value s).toOption.any Json.isTruthy)
  | _ => (e.value s).map Json.isTruthy

/-- What a loop runs over: the items of a list, or the characters of a text. -/
def itemsOf : Json → Except Fault (List Json)
  | .array items => .ok items
  | .string s => .ok (s.toList.map fun c => .string (String.singleton c))
  | _ => .error .notIterable

/-- The text of a template. No other template can be included. -/
def render (s : Scope) : Template → Except Fault String
  | .done => .ok ""
  | .text t rest => (rest.render s).map (t ++ ·)
  | .output e rest => do
    let v ← e.value s
    .ok (v.shown ++ (← rest.render s))
  | .loop name container body otherwise rest => do
    let items ← itemsOf (← container.value s)
    let text ← if items.isEmpty then otherwise.render s
      else
        (items.zipIdx.mapM fun (item, i) =>
          body.render { s with turns := ⟨name, item, i, items.length⟩ :: s.turns }).map String.join
    .ok (text ++ (← rest.render s))
  | .choice condition yes no rest => do
    let text ← if ← condition.holds s then yes.render s else no.render s
    .ok (text ++ (← rest.render s))
  | .include name _ => .error (.noSuchTemplate name)

end Template

end Retag
