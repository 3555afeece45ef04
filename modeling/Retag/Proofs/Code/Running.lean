/-
Rules for running statements. `Performs` says what a run does: the requests that it
dispatches, whatever the service answers, and what it leaves if none is refused.
Runs one after the other dispatch one after the other (`Performs.bind`), so there is
one rule for each kind of statement, and expressions that send nothing have rules of
their own (`Yields`).
-/
import Retag.Proofs.Code.Execution
import Retag.Proofs.Code.Reading

namespace Retag.Code

/-! ## Dispatches -/

/-- A request, and how a refusal of it is told. -/
structure Dispatch where
  request : Request
  refused : String → UpdateError

/-- Requests sent one after another, up to the first that is refused: those that
the service has got, and the result. -/
def dispatchAll (answer : Answer) (sent : List Request) : List Dispatch → List Request × Except UpdateError Unit
  | [] => (sent, .ok ())
  | d :: ds =>
    match answer (sent ++ [d.request]) with
    | none => dispatchAll answer (sent ++ [d.request]) ds
    | some source => (sent ++ [d.request], .error (d.refused source))

variable {answer : Answer} {sent all : List Request} {ds ds' : List Dispatch}

theorem dispatchAll_append_ok (h : dispatchAll answer sent ds = (all, .ok ())) :
    dispatchAll answer sent (ds ++ ds') = dispatchAll answer all ds' := by
  induction ds generalizing sent with
  | nil => cases h; rfl
  | cons d ds ih =>
    simp only [List.cons_append, dispatchAll] at h ⊢
    cases hd : answer (sent ++ [d.request]) with
    | none =>
      rw [hd] at h
      exact ih h
    | some source =>
      rw [hd] at h
      cases h

theorem dispatchAll_append_error {e : UpdateError} (h : dispatchAll answer sent ds = (all, .error e)) :
    dispatchAll answer sent (ds ++ ds') = (all, .error e) := by
  induction ds generalizing sent with
  | nil => cases h
  | cons d ds ih =>
    simp only [List.cons_append, dispatchAll] at h ⊢
    cases hd : answer (sent ++ [d.request]) with
    | none =>
      rw [hd] at h
      exact ih h
    | some source =>
      rw [hd] at h
      exact h

/-- If the service accepts what it gets, it gets all the requests in their order. -/
theorem dispatchAll_accepted (h : ∀ requests, answer requests = none) (ds : List Dispatch) :
    dispatchAll answer sent ds = (sent ++ ds.map Dispatch.request, .ok ()) := by
  induction ds generalizing sent with
  | nil => rw [List.map_nil, List.append_nil]; rfl
  | cons d ds ih =>
    simp only [dispatchAll, h]
    rw [ih, List.append_assoc]
    rfl

/-! ## Runs -/

variable {α β : Type} {vars mid left : List (String × Value)} {run : Exec α} {u v w : Value} {e f : Expr} {x : String}

/-- A run from variables: its dispatches, and, if none of them is refused, its value
and the variables that it leaves. -/
def Performs (answer : Answer) (run : Exec α) (vars : List (String × Value)) (ds : List Dispatch) (a : α)
    (left : List (String × Value)) : Prop :=
  ∀ sent, match dispatchAll answer sent ds with
    | (all, .ok ()) => run ⟨vars, sent⟩ = .ok a ⟨left, all⟩
    | (all, .error e) => ∃ last, run ⟨vars, sent⟩ = .error (.failed e) ⟨last, all⟩

theorem Performs.pure (a : α) (vars : List (String × Value)) :
    Performs answer (Pure.pure a) vars [] a vars := fun _ => rfl

theorem Performs.bind {a : α} {b : β} {next : α → Exec β} (h : Performs answer run vars ds a mid)
    (hnext : Performs answer (next a) mid ds' b left) : Performs answer (run >>= next) vars (ds ++ ds') b left := by
  intro sent
  have hrun := h sent
  rcases hd : dispatchAll answer sent ds with ⟨all, e | ⟨⟩⟩
  · rw [hd] at hrun
    obtain ⟨last, hrun⟩ := hrun
    rw [dispatchAll_append_error hd]
    refine ⟨last, ?_⟩
    simp only [Bind.bind, EStateM.bind, hrun]
  · rw [hd] at hrun
    rw [dispatchAll_append_ok hd]
    have hrest := hnext all
    have hboth : (run >>= next) ⟨vars, sent⟩ = next a ⟨mid, all⟩ := by
      simp only [Bind.bind, EStateM.bind, hrun]
    rw [hboth]
    exact hrest

theorem Performs.discard {a : α} (h : Performs answer run vars ds a left) :
    Performs answer (discard run) vars ds () left := by
  intro sent
  have hrun := h sent
  rcases hd : dispatchAll answer sent ds with ⟨all, e | ⟨⟩⟩
  · rw [hd] at hrun
    obtain ⟨last, hrun⟩ := hrun
    refine ⟨last, ?_⟩
    simp only [Functor.discard, Functor.mapConst, Function.comp_apply, EStateM.map, hrun]
  · rw [hd] at hrun
    simp only [Functor.discard, Functor.mapConst, Function.comp_apply, EStateM.map, hrun]

theorem Performs.declare (x : String) (v : Value) (vars : List (String × Value)) :
    Performs answer (declare x v) vars [] () ((x, v) :: vars) := fun _ => rfl

/-- What a block declares ends with it. -/
theorem Performs.inScope {a : α} {inner : List (String × Value)} (h : Performs answer run vars ds a (inner ++ left))
    (hlength : left.length = vars.length) : Performs answer (inScope run) vars ds a left := by
  intro sent
  have hrun := h sent
  rcases hd : dispatchAll answer sent ds with ⟨all, e | ⟨⟩⟩
  · rw [hd] at hrun
    obtain ⟨last, hrun⟩ := hrun
    exact ⟨last, inScope_stop hrun⟩
  · rw [hd] at hrun
    have hdrop : (inner ++ left).drop ((inner ++ left).length - vars.length) = left := by
      rw [← hlength, List.length_append, Nat.add_sub_cancel, List.drop_left]
    exact (inScope_run hrun).trans (by rw [hdrop])

/-! ## Expressions that send nothing -/

/-- An expression with a value and no effect. -/
def Yields (answer : Answer) (e : Expr) (vars : List (String × Value)) (v : Value) : Prop :=
  ∀ sent, eval answer e ⟨vars, sent⟩ = .ok v ⟨vars, sent⟩

theorem Yields.performs (h : Yields answer e vars v) : Performs answer (eval answer e) vars [] v vars := h

theorem Yields.name (h : vars.lookup x = some v) : Yields answer (.names [x]) vars v := by
  intro sent
  rw [Expr.names, List.map_cons, List.map_nil, eval]
  exact readVariable_run h

/-- A number written in decimal digits is read back. -/
theorem naturalLiteral?_toString (n : Nat) : naturalLiteral? (toString n) = some n := by
  have hdigits : ∀ c ∈ Nat.toDigits 10 n, c.isDigit = true := fun c hc =>
    Nat.isDigit_of_mem_toDigits (by decide) (by decide) hc
  rw [naturalLiteral?, Nat.toString_eq_ofList_toDigits, String.toList_ofList,
    if_pos ⟨Nat.toDigits_ne_nil, List.all_eq_true.2 hdigits⟩, Nat.ofDigitChars_ten_toDigits]

theorem Yields.literal (n : Nat) : Yields answer (.literal (toString n)) vars (.natural n) := by
  intro sent
  rw [eval, naturalLiteral?_toString]
  rfl

theorem Yields.unit : Yields answer (.tuple []) vars .unit := fun _ => by rw [eval_unit]; rfl

theorem Yields.reference (h : Yields answer e vars v) : Yields answer (.reference false e) vars v := by
  intro sent
  rw [eval]
  exact h sent

/-- A list of one text. -/
theorem Yields.listOf {j : Bool} (h : vars.lookup x = some v) :
    Yields answer (.macroCall ⟨["vec"], false, .square, [.word x, .sign '.' j, .word "to_owned", .opening .parenthesis,
      .closing .parenthesis]⟩) vars (.list [v]) := by
  intro sent
  rw [eval]
  have hx : readVariable x ⟨vars, sent⟩ = .ok v ⟨vars, sent⟩ := readVariable_run h
  simp only [Bind.bind, EStateM.bind, hx]
  rfl

/-- A method without arguments. -/
theorem Yields.invoke (h : Yields answer e vars v) {m : String} (hm : callMethod m v [] = some w) :
    Yields answer (.method e m [] []) vars w := by
  intro sent
  rw [eval]
  · simp only [evalAll, Bind.bind, EStateM.bind, h sent, Pure.pure, EStateM.pure, hm]
    rfl
  · intro x body _ harguments
    cases harguments

/-- A method of one argument. -/
theorem Yields.give (h : Yields answer e vars v) (hf : Yields answer f vars u) {m : String} (hne : m ≠ "map_err")
    (hm : callMethod m v [u] = some w) : Yields answer (.method e m [] [f]) vars w := by
  intro sent
  rw [eval]
  · simp only [evalAll, Bind.bind, EStateM.bind, h sent, hf sent, Pure.pure, EStateM.pure, hm]
    rfl
  · intro x body hmap
    exact absurd hmap hne

/-- Arguments with values and no effect. -/
def YieldsAll (answer : Answer) (es : List Expr) (vars : List (String × Value)) (vs : List Value) : Prop :=
  ∀ sent, evalAll answer es ⟨vars, sent⟩ = .ok vs ⟨vars, sent⟩

theorem YieldsAll.nil : YieldsAll answer [] vars [] := fun _ => by rw [evalAll_nil]; rfl

theorem YieldsAll.cons {es : List Expr} {vs : List Value} (h : Yields answer e vars v)
    (hes : YieldsAll answer es vars vs) :
    YieldsAll answer (e :: es) vars (v :: vs) := by
  intro sent
  rw [evalAll]
  simp only [Bind.bind, EStateM.bind, h sent, hes sent]
  rfl

theorem Yields.call {p : List String} {es : List Expr} {vs : List Value} (hes : YieldsAll answer es vars vs)
    (hp : callFunction p vs = some w) : Yields answer (.call (.names p) es) vars w := by
  intro sent
  have hnames : (p.map fun s => Segment.mk s []).map Segment.name = p := by
    rw [List.map_map]
    exact List.map_id p
  rw [Expr.names, eval]
  simp only [Bind.bind, EStateM.bind, hes sent, hnames, hp]
  rfl

theorem Yields.attempt (h : Yields answer e vars (.success v)) : Yields answer (.attempt e) vars v := by
  intro sent
  rw [eval]
  simp only [Bind.bind, EStateM.bind, h sent]
  rfl

theorem Yields.not {b : Bool} (h : Yields answer e vars (.truth b)) :
    Yields answer (.unary "!" e) vars (.truth !b) := by
  intro sent
  rw [eval]
  simp only [Bind.bind, EStateM.bind, h sent]
  rfl

theorem Yields.and {b c : Bool} (h : Yields answer e vars (.truth b)) (hf : Yields answer f vars (.truth c)) :
    Yields answer (.binary "&&" e f) vars (.truth (b && c)) := by
  intro sent
  rw [eval]
  simp only [Bind.bind, EStateM.bind, h sent]
  cases b with
  | true => exact hf sent
  | false => rfl

/-! ## Expressions that may fail -/

variable {st st' : State} {t : Trouble} {body : Expr}

theorem eval_mapErr_success (h : eval answer e st = .ok (.success v) st') :
    eval answer (.method e "map_err" [] [.closure false [⟨.name false false x, none⟩] body]) st = .ok (.success v) st' := by
  rw [eval]
  simp only [Bind.bind, EStateM.bind, h]
  rfl

/-- A failure is told as the body of the closure says. -/
theorem eval_mapErr_failure {t' : Trouble} (h : eval answer e st = .ok (.failure t) ⟨vars, all⟩)
    (hbody : Yields answer body ((x, .trouble t) :: vars) (.trouble t')) :
    eval answer (.method e "map_err" [] [.closure false [⟨.name false false x, none⟩] body]) st =
      .ok (.failure t') ⟨vars, all⟩ := by
  have hclosure : Performs answer (declare x (.trouble t) >>= fun _ => eval answer body) vars [] (.trouble t')
      ([(x, .trouble t)] ++ vars) := (Performs.declare x _ vars).bind hbody.performs
  have hscope := hclosure.inScope rfl all
  rw [eval]
  simp only [Bind.bind, EStateM.bind, h] at hscope ⊢
  rw [hscope]
  rfl

theorem eval_attempt_success (h : eval answer e st = .ok (.success v) st') :
    eval answer (.attempt e) st = .ok v st' := by
  rw [eval]
  simp only [Bind.bind, EStateM.bind, h]
  rfl

theorem eval_attempt_failure {err : UpdateError} (h : eval answer e st = .ok (.failure t) st')
    (ht : t.returned? = some err) : eval answer (.attempt e) st = .error (.failed err) st' := by
  rw [eval]
  simp only [Bind.bind, EStateM.bind, h, ht]
  rfl

/-- A request is sent where its answer is waited for. -/
theorem eval_await {operation : String} {fields : List (String × Value)}
    (h : Yields answer e vars (.sending operation fields)) (sent : List Request) :
    eval answer (.await e) ⟨vars, sent⟩ =
      .ok (Answer.value answer (sent ++ [⟨operation, fields⟩])) ⟨vars, sent ++ [⟨operation, fields⟩]⟩ := by
  rw [eval]
  simp only [Bind.bind, EStateM.bind, h sent, deliver_run]

/-! ## Statements -/

variable {ss : List Stmt}

theorem performs_nil : Performs answer (execAll answer []) vars [] .unit vars := by
  rw [execAll_nil]
  exact .pure _ _

theorem performs_binding {changes : Bool} {type : Option Ty} (he : Yields answer e vars v)
    (h : Performs answer (execAll answer ss) ((x, v) :: vars) ds w left) :
    Performs answer (execAll answer (.binding ⟨.name false changes x, type⟩ (some e) :: ss)) vars ds w left := by
  rw [execAll]
  exact he.performs.bind ((Performs.declare x v vars).bind h)

theorem performs_expr {semicolon : Bool} (he : Performs answer (eval answer e) vars ds v mid)
    (hlast : ss ≠ [] ∨ semicolon = true) (h : Performs answer (execAll answer ss) mid ds' w left) :
    Performs answer (execAll answer (.expr e semicolon :: ss)) vars (ds ++ ds') w left := by
  rw [execAll]
  refine he.bind ?_
  rw [if_neg]
  · exact h
  · rcases hlast with hss | rfl <;> simp_all

/-- The value of a block is that of its last expression. -/
theorem performs_last (he : Performs answer (eval answer e) vars ds v left) :
    Performs answer (execAll answer [.expr e false]) vars ds v left := by
  rw [execAll]
  rw [← List.append_nil ds]
  exact he.bind (.pure v left)

theorem performs_assign (he : Yields answer e vars v) (hx : assignIn x v vars = some left) :
    Performs answer (eval answer (.assign (.names [x]) e)) vars [] .unit left := by
  intro sent
  rw [Expr.names, List.map_cons, List.map_nil, eval]
  have hassign : assign x v ⟨vars, sent⟩ = .ok () ⟨left, sent⟩ := assign_run hx
  simp only [Bind.bind, EStateM.bind, he sent, hassign]
  rfl

theorem performs_conditional {inner : List (String × Value)} (he : Yields answer e vars (.truth true))
    (h : Performs answer (execAll answer ss) vars ds v (inner ++ left)) (hlength : left.length = vars.length) :
    Performs answer (eval answer (.conditional e ss none)) vars ds v left := by
  rw [eval]
  exact he.performs.bind (h.inScope hlength)

theorem performs_conditional_skip (he : Yields answer e vars (.truth false)) :
    Performs answer (eval answer (.conditional e ss none)) vars [] .unit vars := by
  rw [eval]
  exact he.performs.bind (.pure Value.unit vars)

/-- A loop does what its body does for one item after the other. -/
theorem performs_loop {ι : Type} {items : List ι} {item : ι → Value} {each : ι → List Dispatch}
    (he : Yields answer e vars (.list (items.map item)))
    (h : ∀ i ∈ items, ∃ inner w, Performs answer (execAll answer ss) ((x, item i) :: vars) (each i) w (inner ++ vars)) :
    Performs answer (eval answer (.loop (.name false false x) e ss)) vars (items.flatMap each) .unit vars := by
  rw [eval]
  have hloop : Performs answer (List.forM (items.map item) fun v => inScope do
      declare x v
      discard (execAll answer ss)) vars (items.flatMap each) () vars := by
    clear he
    induction items with
    | nil => exact .pure () vars
    | cons i items ih =>
      obtain ⟨inner, w, hbody⟩ := h i List.mem_cons_self
      have hturn : Performs answer (declare x (item i) >>= fun _ => discard (execAll answer ss)) vars (each i) ()
          (inner ++ vars) := (Performs.declare x (item i) vars).bind hbody.discard
      rw [List.map_cons, List.forM, List.flatMap_cons]
      exact (hturn.inScope rfl).bind (ih fun j hj => h j (List.mem_cons_of_mem _ hj))
  have hall : Performs answer (_ >>= fun _ => pure Value.unit) vars (items.flatMap each ++ []) .unit vars :=
    hloop.bind (.pure Value.unit vars)
  rw [List.append_nil] at hall
  exact he.performs.bind hall

/-! ## Leaving the function -/

/-- A run that leaves the function with a value and sends nothing. -/
def Leaves (run : Exec α) (vars : List (String × Value)) (v : Value) : Prop :=
  ∀ sent, ∃ last, run ⟨vars, sent⟩ = .error (.returned v) ⟨last, sent⟩

theorem Leaves.bind {next : α → Exec β} (h : Leaves run vars v) : Leaves (run >>= next) vars v := by
  intro sent
  obtain ⟨last, hrun⟩ := h sent
  refine ⟨last, ?_⟩
  simp only [Bind.bind, EStateM.bind, hrun]

theorem Leaves.after {a : α} {next : α → Exec β} (h : Performs answer run vars [] a mid)
    (hnext : Leaves (next a) mid v) : Leaves (run >>= next) vars v := by
  intro sent
  obtain ⟨last, hrest⟩ := hnext sent
  have hrun : run ⟨vars, sent⟩ = .ok a ⟨mid, sent⟩ := h sent
  refine ⟨last, ?_⟩
  simp only [Bind.bind, EStateM.bind, hrun, hrest]

theorem Leaves.inScope (h : Leaves run vars v) : Leaves (inScope run) vars v := by
  intro sent
  obtain ⟨last, hrun⟩ := h sent
  exact ⟨last, inScope_stop hrun⟩

theorem leaves_ret (he : Yields answer e vars v) : Leaves (eval answer (.ret (some e))) vars v := by
  intro sent
  refine ⟨vars, ?_⟩
  rw [eval]
  simp only [Bind.bind, EStateM.bind, he sent]
  rfl

theorem leaves_expr {semicolon : Bool} (he : Leaves (eval answer e) vars v) :
    Leaves (execAll answer (.expr e semicolon :: ss)) vars v := by
  rw [execAll]
  exact he.bind

theorem leaves_binding {changes : Bool} {type : Option Ty} (he : Yields answer e vars w)
    (h : Leaves (execAll answer ss) ((x, w) :: vars) v) :
    Leaves (execAll answer (.binding ⟨.name false changes x, type⟩ (some e) :: ss)) vars v := by
  rw [execAll]
  have hvalue : Performs answer (eval answer e) vars [] w vars := he.performs
  have hdeclared : Performs answer (declare x w) vars [] () ((x, w) :: vars) := .declare x w vars
  exact .after hvalue (.after hdeclared h)

theorem leaves_conditional (he : Yields answer e vars (.truth true)) (h : Leaves (execAll answer ss) vars v) :
    Leaves (eval answer (.conditional e ss none)) vars v := by
  rw [eval]
  exact .after he.performs h.inScope

/-! ## The function -/

/-- The variables with the arguments of the function. -/
def arguments (identifier resourceType : String) (old new : TagSet) : List (String × Value) :=
  [("conn", .client), ("identifier", .text identifier), ("resource_type", .text resourceType), ("old_tags", .tags old),
    ("new_tags", .tags new)]

variable {identifier resourceType : String} {old new : TagSet}

/-- A body that ends with a success sends its dispatches up to the first that is
refused. -/
theorem runUpdate_of_performs
    (h : Performs answer (execAll answer ss) (arguments identifier resourceType old new) ds (.success .unit) left) :
    runUpdate answer ss identifier resourceType old new = some (dispatchAll answer [] ds) := by
  have hrun := h []
  unfold runUpdate
  unfold arguments at hrun
  rcases hd : dispatchAll answer [] ds with ⟨all, e | ⟨⟩⟩
  · rw [hd] at hrun
    obtain ⟨last, hrun⟩ := hrun
    rw [hrun]
  · rw [hd] at hrun
    rw [hrun]
    rfl

theorem runUpdate_of_leaves
    (h : Leaves (execAll answer ss) (arguments identifier resourceType old new) (.success .unit)) :
    runUpdate answer ss identifier resourceType old new = some ([], .ok ()) := by
  obtain ⟨last, hrun⟩ := h []
  unfold runUpdate
  unfold arguments at hrun
  rw [hrun]
  rfl

end Retag.Code
