/-
Running the statements that requests are made of. A program works with tag sets,
builds values and requests, and sends requests to a service, which accepts each or
refuses it. A question mark and a return leave the function; what has no meaning
here is `stuck`.
-/
import Retag.Code.Syntax
import Retag.UpdateError

namespace Retag.Code

/-! ## Values -/

/-- What an error carries. -/
inductive Trouble where
  | chunkSize (e : InvalidChunkSize)
  /-- The answer of a service that refuses a request. -/
  | refusal (source : String)
  | update (e : UpdateError)
  deriving DecidableEq

inductive Value where
  | unit
  | truth (b : Bool)
  | natural (n : Nat)
  | text (s : String)
  | tags (t : TagSet)
  /-- The tags in the form that a conversion of this name gives them. -/
  | converted (conversion : String) (t : TagSet)
  | list (items : List Value)
  | present (v : Value)
  | success (v : Value)
  | failure (t : Trouble)
  | trouble (t : Trouble)
  | client
  /-- A request of an operation with the fields that are set, in their order. -/
  | request (operation : String) (fields : List (String × Value))
  /-- A request on its way. -/
  | sending (operation : String) (fields : List (String × Value))
  | builder (type : List String) (fields : List (String × Value))
  | built (type : List String) (fields : List (String × Value))

/-- A request as the service sees it. -/
structure Request where
  operation : String
  fields : List (String × Value)

/-- What a service says to the last of the requests that it has got: nothing if it
accepts it, else why not. -/
abbrev Answer := List Request → Option String

/-! ## Functions and methods -/

/-- Types that are built with a check, as they have fields that must be set. -/
def checkedTypes : List String := ["TagsModel"]

/-- What a builder builds. -/
def build (type : List String) (fields : List (String × Value)) : Value :=
  if type.getLast?.any checkedTypes.contains then .success (.built type fields) else .built type fields

/-- The batches of a set as a value, or the error that there are none. -/
def batchesOf (t : TagSet) (size : Nat) : Value :=
  match t.chunks size with
  | .ok batches => .success (.list (batches.map .tags))
  | .error e => .failure (.chunkSize e)

/-- A method of a tag set without arguments. One that is not of the set itself
converts it. -/
def tagsMethod (name : String) (t : TagSet) : Value :=
  if name = "into" then .tags t
  else if name = "is_empty" then .truth t.isEmpty
  else if name = "ignore_aws" then .tags t.withoutReserved
  else .converted name t

/-- The value of a method, if it has one. -/
def callMethod (name : String) (receiver : Value) (arguments : List Value) : Option Value :=
  match receiver, arguments with
  | .text s, [] => if name = "to_owned" ∨ name = "into" then some (.text s) else none
  | .tags t, [] => some (tagsMethod name t)
  | .tags t, [.tags u] =>
    if name = "removed" then some (.tags (t.removed u))
    else if name = "updated" then some (.tags (t.updated u))
    else none
  | .tags t, [.natural n] => if name = "chunks" then some (batchesOf t n) else none
  | .client, [] => some (.request name [])
  | .request operation fields, [] => if name = "send" then some (.sending operation fields) else none
  | .request operation fields, [v] => some (.request operation (fields ++ [(name, v)]))
  | .builder type fields, [] => if name = "build" then some (build type fields) else none
  | .builder type fields, [v] => some (.builder type (fields ++ [(name, v)]))
  | _, _ => none

/-- The value of a function, if it has one. -/
def callFunction (path : List String) (arguments : List Value) : Option Value :=
  match path, arguments with
  | ["Some"], [v] => some (.present v)
  | ["Ok"], [v] => some (.success v)
  | ["UpdateTagsError", "tagging"], [.text identifier, .trouble (.refusal source)] =>
    some (.trouble (.update (.tagging identifier source)))
  | ["UpdateTagsError", "untagging"], [.text identifier, .trouble (.refusal source)] =>
    some (.trouble (.update (.untagging identifier source)))
  | path, [] => if path.getLast? = some "builder" then some (.builder path.dropLast []) else none
  | _, _ => none

/-- The number that a literal of decimal digits stands for. -/
def naturalLiteral? (s : String) : Option Nat :=
  if s.toList ≠ [] ∧ s.toList.all Char.isDigit then some (Nat.ofDigitChars 10 s.toList 0) else none

/-- An error as the function returns it. -/
def Trouble.returned? : Trouble → Option UpdateError
  | .chunkSize e => some (.tags e)
  | .refusal _ => none
  | .update e => some e

/-! ## Programs -/

structure State where
  /-- The variables in scope; the inmost comes first. -/
  bindings : List (String × Value)
  sent : List Request

/-- Why a program does not go on. -/
inductive Stop where
  | returned (v : Value)
  | failed (e : UpdateError)
  | stuck

abbrev Exec := EStateM Stop State

/-- Goes on with a value, if there is one. -/
def orStuck {α : Type} (v : Option α) : Exec α :=
  match v with
  | some v => pure v
  | none => throw .stuck

def readVariable (x : String) : Exec Value := do orStuck ((← get).bindings.lookup x)

def declare (x : String) (v : Value) : Exec Unit := modify fun st => { st with bindings := (x, v) :: st.bindings }

/-- Sets the inmost variable of a name. -/
def assignIn (x : String) (v : Value) : List (String × Value) → Option (List (String × Value))
  | [] => none
  | (y, w) :: rest => if x = y then some ((x, v) :: rest) else (assignIn x v rest).map ((y, w) :: ·)

def assign (x : String) (v : Value) : Exec Unit := do
  let st ← get
  set { st with bindings := ← orStuck (assignIn x v st.bindings) }

/-- Runs a block, whose variables end with it. -/
def inScope {α : Type} (run : Exec α) : Exec α := do
  let outer := (← get).bindings.length
  let v ← run
  modify fun st => { st with bindings := st.bindings.drop (st.bindings.length - outer) }
  pure v

/-- The answer as a value. -/
def Answer.value (answer : Answer) (sent : List Request) : Value :=
  match answer sent with
  | none => .success .unit
  | some source => .failure (.refusal source)

/-- Sends a request. -/
def deliver (answer : Answer) (r : Request) : Exec Value := do
  modify fun st => { st with sent := st.sent ++ [r] }
  pure (Answer.value answer (← get).sent)

/-! ### Running the steps -/

section

variable {α : Type} {run : Exec α} {st st' : State} {a : α} {x : String} {v : Value}

theorem readVariable_run (h : st.bindings.lookup x = some v) : readVariable x st = .ok v st := by
  change orStuck (st.bindings.lookup x) st = _
  rw [h]
  rfl

theorem assign_run {left : List (String × Value)} (h : assignIn x v st.bindings = some left) :
    assign x v st = .ok () ⟨left, st.sent⟩ := by
  change EStateM.bind (orStuck (assignIn x v st.bindings)) _ st = _
  rw [h]
  rfl

theorem inScope_run (h : run st = .ok a st') :
    inScope run st = .ok a ⟨st'.bindings.drop (st'.bindings.length - st.bindings.length), st'.sent⟩ := by
  change EStateM.bind run _ st = _
  rw [EStateM.bind, h]
  rfl

theorem inScope_stop {stop : Stop} (h : run st = .error stop st') : inScope run st = .error stop st' := by
  change EStateM.bind run _ st = _
  rw [EStateM.bind, h]

theorem deliver_run (answer : Answer) (r : Request) (st : State) :
    deliver answer r st = .ok (Answer.value answer (st.sent ++ [r])) ⟨st.bindings, st.sent ++ [r]⟩ := rfl

end

mutual

/-- The value of an expression. -/
def eval (answer : Answer) : Expr → Exec Value
  | .literal s => do pure (.natural (← orStuck (naturalLiteral? s)))
  | .path [.mk x []] false => readVariable x
  | .tuple [] => pure .unit
  | .macroCall ⟨["vec"], false, .square,
      [.word x, .sign '.' _, .word "to_owned", .opening .parenthesis, .closing .parenthesis]⟩ => do
    pure (.list [← readVariable x])
  | .call (.path p false) arguments => do
    orStuck (callFunction (p.map Segment.name) (← evalAll answer arguments))
  | .method e "map_err" [] [.closure false [⟨.name false false x, none⟩] body] => do
    match ← eval answer e with
    | .success v => pure (.success v)
    | .failure t =>
      match ← inScope (do declare x (.trouble t); eval answer body) with
      | .trouble t => pure (.failure t)
      | _ => throw .stuck
    | _ => throw .stuck
  | .method e name [] arguments => do
    let v ← eval answer e
    orStuck (callMethod name v (← evalAll answer arguments))
  | .attempt e => do
    match ← eval answer e with
    | .success v => pure v
    | .failure t => throw (.failed (← orStuck t.returned?))
    | _ => throw .stuck
  | .await e => do
    match ← eval answer e with
    | .sending operation fields => deliver answer ⟨operation, fields⟩
    | _ => throw .stuck
  | .unary "!" e => do
    match ← eval answer e with
    | .truth b => pure (.truth !b)
    | _ => throw .stuck
  | .reference false e => eval answer e
  | .binary "&&" e f => do
    match ← eval answer e with
    | .truth true => eval answer f
    | .truth false => pure (.truth false)
    | _ => throw .stuck
  | .assign (.path [.mk x []] false) e => do
    assign x (← eval answer e)
    pure .unit
  | .ret (some e) => do throw (.returned (← eval answer e))
  | .conditional e yes none => do
    match ← eval answer e with
    | .truth true => inScope (execAll answer yes)
    | .truth false => pure .unit
    | _ => throw .stuck
  | .loop (.name false false x) e body => do
    match ← eval answer e with
    | .list items =>
      items.forM fun v => inScope do
        declare x v
        discard (execAll answer body)
      pure .unit
    | _ => throw .stuck
  | _ => throw .stuck

def evalAll (answer : Answer) : List Expr → Exec (List Value)
  | [] => pure []
  | e :: es => do
    let v ← eval answer e
    pure (v :: (← evalAll answer es))

/-- The value of statements: that of the last one, if it is an expression without
a semicolon. -/
def execAll (answer : Answer) : List Stmt → Exec Value
  | [] => pure .unit
  | .binding ⟨.name false _ x, _⟩ (some e) :: rest => do
    declare x (← eval answer e)
    execAll answer rest
  | .expr e semicolon :: rest => do
    let v ← eval answer e
    if rest.isEmpty && !semicolon then pure v else execAll answer rest
  | _ => throw .stuck

end

@[simp] theorem eval_unit (answer : Answer) : eval answer (.tuple []) = pure .unit := by rw [eval]

@[simp] theorem evalAll_nil (answer : Answer) : evalAll answer [] = pure [] := by rw [evalAll]

@[simp] theorem execAll_nil (answer : Answer) : execAll answer [] = pure .unit := by rw [execAll]

/-- The result of a function, if its value is one. -/
def Value.result? : Value → Option (Except UpdateError Unit)
  | .success .unit => some (.ok ())
  | .failure t => t.returned?.map .error
  | _ => none

/-- What a function that updates tags does: the requests it sends, in their order,
and its result. -/
def runUpdate (answer : Answer) (body : List Stmt) (identifier resourceType : String) (old new : TagSet) :
    Option (List Request × Except UpdateError Unit) :=
  match execAll answer body ⟨[("conn", .client), ("identifier", .text identifier),
      ("resource_type", .text resourceType), ("old_tags", .tags old), ("new_tags", .tags new)], []⟩ with
  | .ok v st | .error (.returned v) st => v.result?.map (st.sent, ·)
  | .error (.failed e) st => some (st.sent, .error e)
  | .error .stuck _ => none

end Retag.Code
