/-
Functions whose operations are no methods. In snake case the name of an operation may be
nothing, a reserved word or a number that is no position. Then no member follows the dot
behind the connection, so the statement that makes the request is not read, and neither is
the function it stands in (`function_no_method`). Whether it is the request of the first
direction or of the second does not matter: what comes before it is read first.
-/
import Retag.Proofs.Code.Failing
import Retag.Proofs.SourceUnit.Parts

namespace Retag.SourceUnit

open Code

variable {service : Service} {operation tagsField failure tags : String} {tagExpr untagExpr : Expr} {t : Ty}
  {ts value request client tagTokens untagTokens : List Token}

/-- The name of an operation that is no member. -/
def Memberless (operation : String) : Prop := ∀ rest, NoMember (operationTokens operation ++ .opening .parenthesis :: rest)

/-- What comes first of the two operations that is no member. -/
inductive LacksMethod (service : Service) : Prop
  | untag (h : Memberless service.untagOperation)
  | tag {call : Expr} (huntag : ReadsCall service.untagOperation call) (h : Memberless service.tagOperation)

/-! ## Statements -/

theorem operation_fails (h : Memberless operation) (rest : List Token) : Fails readExpr 0
    (.word "conn" :: .sign '.' false :: (operationTokens operation ++ .opening .parenthesis :: rest)) :=
  .chain (.path (.name rfl rfl) rfl) (h rest)

theorem request_fails (h : Memberless operation) (rest : List Token) :
    Fails readStmt 3 (requestTokens service operation tagsField value failure ++ rest) := by
  unfold requestTokens
  simp only [List.append_assoc, List.cons_append, List.nil_append]
  exact .expr (operation_fails h _) (by decide) rfl rfl

theorem declare_fails (h : Memberless service.tagOperation) (rest : List Token) :
    Fails readStmt 3 (declareTokens service ++ rest) := by
  unfold declareTokens
  simp only [List.append_assoc, List.cons_append, List.nil_append]
  exact .binding (.mutable rfl rfl) (operation_fails h _)

theorem unlessEmpty_fails (htags : isName tags = true) (h : Fails readStmts 4 ts) :
    Fails readStmt 3 (unlessTokens tags ++ ts) := by
  unfold unlessTokens
  simp only [List.append_assoc, List.cons_append, List.nil_append]
  exact .when (reads_isEmpty htags _) (.block h)

theorem direction_fails (htags : isName tags = true) (hbegins : ∀ rest, closing .brace (request ++ rest) = none)
    (h : ∀ rest, Fails readStmt 3 (request ++ rest)) (rest : List Token) :
    Fails readStmt 3 (directionTokens service tags request ++ rest) := by
  unfold directionTokens
  cases limit? service with
  | none =>
    simp only [List.append_assoc]
    exact unlessEmpty_fails htags (.first (hbegins _) (h _))
  | some n =>
    simp only [loopTokens, List.append_assoc, List.cons_append, List.nil_append]
    exact unlessEmpty_fails htags (.first rfl (.loop htags (reads_chunks htags n _) (.block (.first (hbegins _) (h _)))))

/-! ## Bodies -/

theorem separate_fails (h : LacksMethod service) (hvalues : Valued service tagTokens untagTokens tagExpr untagExpr)
    (rest : List Token) : Fails readStmts 4 (separateTokens service tagTokens untagTokens ++ rest) := by
  unfold separateTokens
  simp only [List.append_assoc]
  refine .later (reads_difference rfl rfl _) ?_
  cases h with
  | untag h => exact .first rfl (direction_fails rfl (fun _ => rfl) (request_fails h) _)
  | tag huntag h =>
    refine .later (reads_direction rfl (fun _ => reads_request huntag hvalues.untag rfl) (endsBlock_word (by decide) _)) ?_
    refine .later (reads_difference rfl rfl _) ?_
    exact .first rfl (direction_fails rfl (fun _ => rfl) (request_fails h) _)

theorem combined_fails (h : Memberless service.tagOperation) (rest : List Token) :
    Fails readStmts 4 (combinedTokens service tagTokens untagTokens ++ rest) := by
  unfold combinedTokens
  simp only [List.append_assoc]
  refine .later (reads_difference rfl rfl _) ?_
  refine .later (reads_difference rfl rfl _) ?_
  refine .later (reads_stop (endsBlock_word (by decide) _)) ?_
  exact .first rfl (declare_fails h _)

theorem body_fails (h : LacksMethod service) (hvalues : Valued service tagTokens untagTokens tagExpr untagExpr)
    (rest : List Token) : Fails readBlock 0 (bodyTokens service tagTokens untagTokens ++ rest) := by
  unfold bodyTokens
  simp only [List.append_assoc, List.cons_append]
  refine .block (.later (reads_convert rfl _) (.later (reads_convert rfl _) ?_))
  cases hsingle : service.usesSingleEndpoint with
  | true =>
    have htag : Memberless service.tagOperation := by
      cases h with
      | untag h => rwa [beq_iff_eq.1 hsingle]
      | tag _ h => exact h
    exact combined_fails htag _
  | false => exact separate_fails h hvalues _

/-! ## Functions -/

theorem function_no_method (hclient : ReadsClient client t) (h : LacksMethod service)
    (hvalues : Valued service tagTokens untagTokens tagExpr untagExpr) (rest : List Token) :
    Refused (functionTokens service client tagTokens untagTokens ++ rest) := by
  unfold functionTokens
  simp only [List.append_assoc, List.cons_append]
  exact .function fun fuel hfuel =>
    readFunction_no_body (isName_function _) rfl (reads_signature hclient _) (reads_result _) (body_fails h hvalues rest) (by omega)

end Retag.SourceUnit
