/-
Where a program fails on a batch size. The error of a batch size of zero comes
from cutting a set into batches and from nowhere else, and from there it can
travel: in a value, in a variable, through a question mark. So a program that
cuts sets only into batches of a number that is not zero never returns it
(`runUpdate_ne_tags`). The invariant is that no value at hand carries that error
(`Guarded`), and the induction is on what is run (`guarded_program`).
-/
import Retag.Proofs.Code.Execution

namespace Retag.Code

/-! ## Errors of a batch size -/

/-- The error of a batch size, as it is found or as a function returns it. -/
def Trouble.AboutSize : Trouble → Prop
  | .chunkSize _ | .update (.tags _) => True
  | .refusal _ | .update _ => False

/-- A value from which the error of a batch size can be got. -/
inductive Value.CarriesSize : Value → Prop
  | failure {t : Trouble} (h : t.AboutSize) : CarriesSize (.failure t)
  | trouble {t : Trouble} (h : t.AboutSize) : CarriesSize (.trouble t)
  | success {v : Value} (h : CarriesSize v) : CarriesSize (.success v)
  | item {items : List Value} {v : Value} (hv : v ∈ items) (h : CarriesSize v) : CarriesSize (.list items)

/-- A program that stops with the error of a batch size. -/
def Stop.AboutSize : Stop → Prop
  | .returned v => v.CarriesSize
  | .failed e => (Trouble.update e).AboutSize
  | .stuck => False

/-- No variable carries the error of a batch size. -/
def State.Clean (st : State) : Prop := ∀ p ∈ st.bindings, ¬ p.2.CarriesSize

theorem not_carriesSize_success {v : Value} (h : ¬ v.CarriesSize) : ¬ (Value.success v).CarriesSize :=
  fun hs => by cases hs with | success hv => exact h hv

theorem not_carriesSize_failure {t : Trouble} (h : ¬ t.AboutSize) : ¬ (Value.failure t).CarriesSize :=
  fun hs => by cases hs with | failure ht => exact h ht

theorem not_carriesSize_trouble {t : Trouble} (h : ¬ t.AboutSize) : ¬ (Value.trouble t).CarriesSize :=
  fun hs => by cases hs with | trouble ht => exact h ht

theorem not_carriesSize_list {items : List Value} (h : ∀ v ∈ items, ¬ v.CarriesSize) :
    ¬ (Value.list items).CarriesSize :=
  fun hs => by cases hs with | item hv hc => exact h _ hv hc

theorem not_carriesSize_unit : ¬ Value.unit.CarriesSize := by rintro ⟨⟩

theorem not_carriesSize_truth (b : Bool) : ¬ (Value.truth b).CarriesSize := by rintro ⟨⟩

theorem not_carriesSize_natural (n : Nat) : ¬ (Value.natural n).CarriesSize := by rintro ⟨⟩

/-! ## Runs without them -/

variable {α β : Type} {P : α → Prop} {Q : β → Prop} {run : Exec α} {answer : Answer}

/-- A run that, from variables without the error of a batch size, leaves such
variables and a value with `P`, and does not stop with that error. -/
def Guarded (P : α → Prop) (run : Exec α) : Prop :=
  ∀ st, st.Clean → match run st with
    | .ok a st' => P a ∧ st'.Clean
    | .error stop _ => ¬ stop.AboutSize

namespace Guarded

theorem pure {a : α} (h : P a) : Guarded P (Pure.pure a) := fun _ hst => ⟨h, hst⟩

theorem throw {stop : Stop} (h : ¬ stop.AboutSize) : Guarded P (MonadExcept.throw stop) := fun _ _ => h

theorem stuck : Guarded P (MonadExcept.throw Stop.stuck) := throw id

theorem bind {next : α → Exec β} (h : Guarded P run) (hnext : ∀ a, P a → Guarded Q (next a)) :
    Guarded Q (run >>= next) := by
  intro st hst
  have hrun := h st hst
  simp only [Bind.bind, EStateM.bind]
  cases hr : run st with
  | ok a st' =>
    rw [hr] at hrun
    exact hnext a hrun.1 st' hrun.2
  | error stop st' =>
    rw [hr] at hrun
    exact hrun

theorem and {Q : α → Prop} (h : Guarded P run) (hQ : ∀ {st a st'}, run st = .ok a st' → Q a) :
    Guarded (fun a => P a ∧ Q a) run := by
  intro st hst
  have hrun := h st hst
  cases hr : run st with
  | ok a st' =>
    rw [hr] at hrun
    exact ⟨⟨hrun.1, hQ hr⟩, hrun.2⟩
  | error stop st' =>
    rw [hr] at hrun
    exact hrun

theorem orStuck {v : Option α} (h : ∀ a, v = some a → P a) : Guarded P (orStuck v) := by
  cases v with
  | none => exact stuck
  | some a => exact pure (h a rfl)

/-- Without what a block declares, its variables stay clean. -/
theorem inScope (h : Guarded P run) : Guarded P (inScope run) := by
  intro st hst
  have hrun := h st hst
  cases hr : run st with
  | ok a st' =>
    rw [hr] at hrun
    rw [inScope_run hr]
    exact ⟨hrun.1, fun p hp => hrun.2 p (List.mem_of_mem_drop hp)⟩
  | error stop st' =>
    rw [hr] at hrun
    rw [inScope_stop hr]
    exact hrun

theorem declare (x : String) {v : Value} (hv : ¬ v.CarriesSize) : Guarded (fun _ => True) (declare x v) := by
  intro st hst
  refine ⟨trivial, fun p hp => ?_⟩
  rcases List.mem_cons.1 hp with rfl | hp
  · exact hv
  · exact hst p hp

theorem readVariable (x : String) : Guarded (fun v => ¬ v.CarriesSize) (readVariable x) := by
  intro st hst
  have hread : Retag.Code.readVariable x st = Retag.Code.orStuck (st.bindings.lookup x) st := rfl
  rw [hread]
  cases hx : st.bindings.lookup x with
  | none => exact id
  | some v =>
    obtain ⟨earlier, later, hl, -⟩ := List.lookup_eq_some_iff.1 hx
    exact ⟨hst (x, v) (by simp [hl]), hst⟩

theorem mem_assignIn {x : String} {v : Value} : ∀ {vars left : List (String × Value)},
    assignIn x v vars = some left → ∀ p ∈ left, p ∈ vars ∨ p.2 = v
  | [], _, h => by cases h
  | (y, w) :: vars, left, h => by
    rw [assignIn] at h
    split at h
    · obtain rfl := Option.some.inj h
      intro p hp
      rcases List.mem_cons.1 hp with rfl | hp
      · exact .inr rfl
      · exact .inl (List.mem_cons_of_mem _ hp)
    · obtain ⟨rest, hrest, rfl⟩ := Option.map_eq_some_iff.1 h
      intro p hp
      rcases List.mem_cons.1 hp with rfl | hp
      · exact .inl List.mem_cons_self
      · exact (mem_assignIn hrest p hp).imp (List.mem_cons_of_mem _) id

theorem assign (x : String) {v : Value} (hv : ¬ v.CarriesSize) : Guarded (fun _ => True) (assign x v) := by
  intro st hst
  cases hx : assignIn x v st.bindings with
  | none =>
    have hassign : Retag.Code.assign x v st = .error .stuck st := by
      change EStateM.bind (Retag.Code.orStuck (assignIn x v st.bindings)) _ st = _
      rw [hx]
      rfl
    rw [hassign]
    exact id
  | some left =>
    rw [assign_run hx]
    refine ⟨trivial, fun p hp => ?_⟩
    rcases mem_assignIn hx p hp with hp | rfl
    · exact hst p hp
    · exact hv

theorem deliver (r : Request) : Guarded (fun v => ¬ v.CarriesSize) (deliver answer r) := by
  intro st hst
  rw [deliver_run]
  refine ⟨?_, hst⟩
  unfold Answer.value
  split
  · exact not_carriesSize_success nofun
  · exact not_carriesSize_failure id

theorem forM {items : List Value} {body : Value → Exec Unit}
    (h : ∀ v ∈ items, Guarded (fun _ => True) (body v)) : Guarded (fun _ => True) (items.forM body) := by
  induction items with
  | nil => exact pure trivial
  | cons v items ih =>
    rw [List.forM]
    exact (h v List.mem_cons_self).bind fun _ _ => ih fun w hw => h w (List.mem_cons_of_mem _ hw)

theorem discard (h : Guarded P run) : Guarded (fun _ => True) (discard run) := by
  intro st hst
  have hrun := h st hst
  simp only [Functor.discard, Functor.mapConst, Function.comp_apply, EStateM.map]
  cases hr : run st with
  | ok a st' =>
    rw [hr] at hrun
    exact ⟨trivial, hrun.2⟩
  | error stop st' =>
    rw [hr] at hrun
    exact hrun

end Guarded

/-! ## Functions and methods -/

theorem not_aboutSize_returned {t : Trouble} (h : ¬ t.AboutSize) {e : UpdateError} (he : t.returned? = some e) :
    ¬ (Trouble.update e).AboutSize := by
  cases t with
  | chunkSize e => exact absurd trivial h
  | refusal source => cases he
  | update e =>
    cases he
    exact h

theorem not_carriesSize_tagsMethod (name : String) (t : TagSet) : ¬ (tagsMethod name t).CarriesSize := by
  unfold tagsMethod
  split
  · nofun
  split
  · nofun
  split
  · nofun
  · nofun

theorem not_carriesSize_batchesOf {n : Nat} (hn : n ≠ 0) (t : TagSet) : ¬ (batchesOf t n).CarriesSize := by
  rw [batchesOf, TagSet.chunks, dif_pos (Nat.pos_of_ne_zero hn)]
  refine not_carriesSize_success (not_carriesSize_list fun v hv => ?_)
  obtain ⟨b, -, rfl⟩ := List.mem_map.1 hv
  nofun

theorem not_carriesSize_build (type : List String) (fields : List (String × Value)) :
    ¬ (build type fields).CarriesSize := by
  unfold build
  split
  · exact not_carriesSize_success nofun
  · nofun

/-- A method gives the error of a batch size only where a set is cut into batches
of zero. -/
theorem not_carriesSize_callMethod {name : String} {v w : Value} {vs : List Value}
    (h : callMethod name v vs = some w) (hcut : name = "chunks" → vs ≠ [.natural 0]) : ¬ w.CarriesSize := by
  unfold callMethod at h
  split at h
  case h_2 t =>
    obtain rfl := Option.some.inj h
    exact not_carriesSize_tagsMethod name t
  case h_4 t n =>
    split at h
    next hname =>
      obtain rfl := Option.some.inj h
      exact not_carriesSize_batchesOf (fun hn => hcut hname (by rw [hn])) t
    next => cases h
  case h_8 type fields =>
    split at h
    · obtain rfl := Option.some.inj h
      exact not_carriesSize_build type fields
    · cases h
  all_goals
    repeat' split at h
    all_goals
      cases h
      try nofun

theorem not_carriesSize_callFunction {p : List String} {vs : List Value} {w : Value}
    (h : callFunction p vs = some w) (hvs : ∀ v ∈ vs, ¬ v.CarriesSize) : ¬ w.CarriesSize := by
  unfold callFunction at h
  split at h
  case h_2 v =>
    obtain rfl := Option.some.inj h
    exact not_carriesSize_success (hvs v List.mem_cons_self)
  case h_3 | h_4 =>
    obtain rfl := Option.some.inj h
    exact not_carriesSize_trouble id
  all_goals
    repeat' split at h
    all_goals
      cases h
      try nofun

/-! ## Programs that cut sets into batches of some size -/

/-- Whether these are no arguments for cutting a set into batches, or a number that
is not zero. -/
def sizesBatches : List Expr → Bool
  | [.literal s] => naturalLiteral? s != some 0
  | [_] => false
  | _ => true

mutual

/-- Whether an expression cuts sets only into batches of a number that is not zero,
wherever it is run. -/
def Expr.cutsSoundly : Expr → Bool
  | .call _ arguments => argumentsCutSoundly arguments
  | .method e name _ arguments =>
    (name != "chunks" || sizesBatches arguments) && e.cutsSoundly && argumentsCutSoundly arguments
  | .closure _ _ body => body.cutsSoundly
  | .attempt e | .await e | .unary _ e | .reference _ e | .assign _ e | .ret (some e) => e.cutsSoundly
  | .binary _ e f => e.cutsSoundly && f.cutsSoundly
  | .conditional e yes none => e.cutsSoundly && statementsCutSoundly yes
  | .loop _ e body => e.cutsSoundly && statementsCutSoundly body
  | _ => true

def argumentsCutSoundly : List Expr → Bool
  | [] => true
  | e :: es => e.cutsSoundly && argumentsCutSoundly es

def statementsCutSoundly : List Stmt → Bool
  | [] => true
  | .binding _ (some e) :: rest | .expr e _ :: rest => e.cutsSoundly && statementsCutSoundly rest
  | _ => true

end

theorem bind_eq_ok {next : α → Exec β} {st st' : State} {b : β} (h : (run >>= next) st = .ok b st') :
    ∃ a mid, run st = .ok a mid ∧ next a mid = .ok b st' := by
  simp only [Bind.bind, EStateM.bind] at h
  cases hr : run st with
  | error stop mid => rw [hr] at h; cases h
  | ok a mid =>
    rw [hr] at h
    exact ⟨a, mid, rfl, h⟩

/-- Where arguments have values, these are the value of the first and those of the
others. -/
theorem evalAll_cons_ok {e : Expr} {es : List Expr} {st st' : State} {vs : List Value}
    (h : evalAll answer (e :: es) st = .ok vs st') :
    ∃ v rest mid, vs = v :: rest ∧ eval answer e st = .ok v mid ∧ evalAll answer es mid = .ok rest st' := by
  rw [evalAll] at h
  obtain ⟨v, mid, he, h⟩ := bind_eq_ok h
  obtain ⟨rest, last, hes, h⟩ := bind_eq_ok h
  cases h
  exact ⟨v, rest, mid, rfl, he, hes⟩

theorem ne_zero_of_sizesBatches {es : List Expr} (h : sizesBatches es = true) {st st' : State} {vs : List Value}
    (hvs : evalAll answer es st = .ok vs st') : vs ≠ [.natural 0] := by
  cases es with
  | nil =>
    rw [evalAll_nil] at hvs
    cases hvs
    simp
  | cons e es =>
    obtain ⟨v, rest, mid, rfl, he, hes⟩ := evalAll_cons_ok hvs
    cases es with
    | cons f es =>
      obtain ⟨u, rest, mid, rfl, -, -⟩ := evalAll_cons_ok hes
      simp
    | nil =>
      unfold sizesBatches at h
      split at h
      next s hs =>
        obtain ⟨rfl, -⟩ := List.cons.inj hs
        rw [eval] at he
        obtain ⟨n, mid, hn, he⟩ := bind_eq_ok he
        cases he
        rintro h0
        obtain ⟨h0, -⟩ := List.cons.inj h0
        cases h0
        cases hs : naturalLiteral? s with
        | none => rw [hs] at hn; cases hn
        | some m =>
          rw [hs] at hn h
          cases hn
          cases h
      next => cases h
      next hone => exact absurd rfl (hone e)

/-- **A program that cuts soundly is guarded.** -/
theorem guarded_program (answer : Answer) :
    (∀ e : Expr, e.cutsSoundly = true → Guarded (fun v => ¬ v.CarriesSize) (eval answer e)) ∧
      (∀ ss : List Stmt, statementsCutSoundly ss = true → Guarded (fun v => ¬ v.CarriesSize) (execAll answer ss)) ∧
      ∀ es : List Expr, argumentsCutSoundly es = true →
        Guarded (fun vs => ∀ v ∈ vs, ¬ v.CarriesSize) (evalAll answer es) := by
  refine eval.mutual_induct _ _ _ ?literal ?name ?unit ?list ?call ?mapErr ?method ?attempt ?await ?not ?reference
    ?and ?assign ?ret ?conditional ?loop ?other ?noArguments ?arguments ?noStatements ?binding ?expr ?otherStatements
  case literal =>
    intro s _
    rw [eval]
    exact (Guarded.orStuck fun _ _ => trivial).bind fun n _ => .pure (not_carriesSize_natural n)
  case name =>
    intro x _
    rw [eval]
    exact .readVariable x
  case unit =>
    intro _
    rw [eval_unit]
    exact .pure not_carriesSize_unit
  case list =>
    intro x joint _
    rw [eval]
    exact (Guarded.readVariable x).bind fun v hv => .pure (not_carriesSize_list fun w hw => by
      rw [List.mem_singleton.1 hw]
      exact hv)
  case call =>
    intro p arguments ih h
    rw [eval]
    rw [Expr.cutsSoundly] at h
    exact (ih h).bind fun vs hvs => .orStuck fun w hw => not_carriesSize_callFunction hw hvs
  case mapErr =>
    intro e x body ihe ihbody h
    rw [Expr.cutsSoundly, Bool.and_eq_true, Bool.and_eq_true, argumentsCutSoundly, Bool.and_eq_true, Expr.cutsSoundly] at h
    rw [eval]
    refine (ihe h.1.2).bind fun v hv => ?_
    split
    next v => exact .pure hv
    next t =>
      have ht : ¬ t.AboutSize := fun ht => hv (.failure ht)
      have hbody := (Guarded.declare x (not_carriesSize_trouble ht)).bind fun _ _ => ihbody h.2.1
      refine hbody.inScope.bind fun w hw => ?_
      split
      next t' => exact .pure (not_carriesSize_failure fun ht' => hw (.trouble ht'))
      next => exact .stuck
    next => exact .stuck
  case method =>
    intro e name arguments hname ihe ihes h
    rw [Expr.cutsSoundly, Bool.and_eq_true, Bool.and_eq_true] at h
    have hcut : name = "chunks" → sizesBatches arguments = true := by
      rintro rfl
      simpa using h.1.1
    rw [eval]
    · refine (ihe h.1.2).bind fun v _ => ?_
      refine ((ihes h.2).and fun hvs hname => ne_zero_of_sizesBatches (hcut hname) hvs).bind fun vs hvs => ?_
      exact .orStuck fun w hw => not_carriesSize_callMethod hw hvs.2
    · exact hname
  case attempt =>
    intro e ih h
    rw [Expr.cutsSoundly] at h
    rw [eval]
    refine (ih h).bind fun v hv => ?_
    split
    next v => exact .pure fun hc => hv (.success hc)
    next t =>
      have ht : ¬ t.AboutSize := fun ht => hv (.failure ht)
      exact (Guarded.orStuck fun _ => not_aboutSize_returned ht).bind fun err herr => .throw herr
    next => exact .stuck
  case await =>
    intro e ih h
    rw [Expr.cutsSoundly] at h
    rw [eval]
    refine (ih h).bind fun v _ => ?_
    split
    next => exact .deliver _
    next => exact .stuck
  case not =>
    intro e ih h
    rw [Expr.cutsSoundly] at h
    rw [eval]
    refine (ih h).bind fun v _ => ?_
    split
    next => exact .pure (not_carriesSize_truth _)
    next => exact .stuck
  case reference =>
    intro e ih h
    rw [Expr.cutsSoundly] at h
    rw [eval]
    exact ih h
  case and =>
    intro e f ihe ihf h
    rw [Expr.cutsSoundly, Bool.and_eq_true] at h
    rw [eval]
    refine (ihe h.1).bind fun v _ => ?_
    split
    next => exact ihf h.2
    next => exact .pure (not_carriesSize_truth _)
    next => exact .stuck
  case assign =>
    intro x e ih h
    rw [Expr.cutsSoundly] at h
    rw [eval]
    exact (ih h).bind fun v hv => (Guarded.assign x hv).bind fun _ _ => .pure not_carriesSize_unit
  case ret =>
    intro e ih h
    rw [Expr.cutsSoundly] at h
    rw [eval]
    exact (ih h).bind fun v hv => .throw hv
  case conditional =>
    intro e yes ihe ihyes h
    rw [Expr.cutsSoundly, Bool.and_eq_true] at h
    rw [eval]
    refine (ihe h.1).bind fun v _ => ?_
    split
    next => exact (ihyes h.2).inScope
    next => exact .pure not_carriesSize_unit
    next => exact .stuck
  case loop =>
    intro x e body ihe ihbody h
    rw [Expr.cutsSoundly, Bool.and_eq_true] at h
    rw [eval]
    refine (ihe h.1).bind fun v hv => ?_
    split
    next items =>
      refine (Guarded.forM fun w hw => ?_).bind fun _ _ => .pure not_carriesSize_unit
      have hw : ¬ w.CarriesSize := fun hc => hv (.item hw hc)
      exact ((Guarded.declare x hw).bind fun _ _ => (ihbody h.2).discard).inScope
    next => exact .stuck
  case noArguments =>
    intro _
    rw [evalAll_nil]
    exact .pure (by simp)
  case arguments =>
    intro e es ihe ihes h
    rw [argumentsCutSoundly, Bool.and_eq_true] at h
    rw [evalAll]
    refine (ihe h.1).bind fun v hv => (ihes h.2).bind fun vs hvs => .pure ?_
    exact List.forall_mem_cons.2 ⟨hv, hvs⟩
  case noStatements =>
    intro _
    rw [execAll_nil]
    exact .pure not_carriesSize_unit
  case binding =>
    intro changes x ty e rest ihe ihrest h
    rw [statementsCutSoundly, Bool.and_eq_true] at h
    rw [execAll]
    exact (ihe h.1).bind fun v hv => (Guarded.declare x hv).bind fun _ _ => ihrest h.2
  case expr =>
    intro e semicolon rest ihe ihrest h
    rw [statementsCutSoundly, Bool.and_eq_true] at h
    rw [execAll]
    refine (ihe h.1).bind fun v hv => ?_
    split
    · exact .pure hv
    · exact ihrest h.2
  -- What has no meaning is stuck at once.
  case other =>
    intros
    rw [eval]
    all_goals first | assumption | exact .stuck
  case otherStatements =>
    intros
    rw [execAll]
    all_goals first | assumption | exact .stuck

theorem carriesSize_of_result {v : Value} {e : InvalidChunkSize} (h : v.result? = some (.error (.tags e))) :
    v.CarriesSize := by
  unfold Value.result? at h
  split at h
  next => cases h
  next t =>
    obtain ⟨err, ht, he⟩ := Option.map_eq_some_iff.1 h
    obtain rfl := Except.error.inj he
    cases t with
    | chunkSize size => exact .failure trivial
    | refusal source => cases ht
    | update err =>
      cases ht
      exact .failure trivial
  next => cases h

/-- **No batch size fails in a program that cuts sets only into batches of some
size.** -/
theorem runUpdate_ne_tags {stmts : List Stmt} (h : statementsCutSoundly stmts = true) (answer : Answer)
    (identifier resourceType : String) (old new : TagSet) (sent : List Request) (e : InvalidChunkSize) :
    runUpdate answer stmts identifier resourceType old new ≠ some (sent, .error (.tags e)) := by
  have hclean : State.Clean ⟨[("conn", .client), ("identifier", .text identifier),
      ("resource_type", .text resourceType), ("old_tags", .tags old), ("new_tags", .tags new)], []⟩ := by
    simp only [State.Clean, List.forall_mem_cons]
    exact ⟨nofun, nofun, nofun, nofun, nofun, nofun⟩
  have hrun := (guarded_program answer).2.1 stmts h _ hclean
  have hresult : ∀ {v : Value} {st : State}, ¬ v.CarriesSize →
      v.result?.map (st.sent, ·) ≠ some (sent, .error (.tags e)) := by
    intro v st hv he
    obtain ⟨r, hr, heq⟩ := Option.map_eq_some_iff.1 he
    obtain ⟨-, rfl⟩ := Prod.mk.inj heq
    exact hv (carriesSize_of_result hr)
  unfold runUpdate
  split
  next v st hok =>
    rw [hok] at hrun
    exact hresult hrun.1
  next v st hreturned =>
    rw [hreturned] at hrun
    exact hresult hrun
  next err st hfailed =>
    rw [hfailed] at hrun
    intro he
    obtain ⟨-, herr⟩ := Prod.mk.inj (Option.some.inj he)
    obtain rfl := Except.error.inj herr
    exact hrun trivial
  next => nofun

end Retag.Code
