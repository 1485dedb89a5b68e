import QueryText.Proofs.Coupling.Select
import QueryText.Proofs.Substitution

namespace QueryText.Render

/-- One coupling for each stack of values in scope, under which the replaced leaves are written alike. -/
structure Couplings (σ : Substitution) (good : Node → Prop) where
  at_ : List ParamMap → Coupling
  queries (scopes : List ParamMap) : (at_ scopes).WritesQueries
  constant (scopes : List ParamMap) (v : Value) (h : good ⟨scopes, .constant v⟩) :
    (at_ scopes).CoupledOperand (.constant v) (.constant (σ.constant v))
  param (scopes : List ParamMap) (p : Param) (h : good ⟨scopes, .param p⟩) :
    (at_ scopes).CoupledOperand (.param p) (σ.leaf scopes p).operand
  operation (scopes : List ParamMap) (op : Operator) (args : List Expr)
    (h : good ⟨scopes, .operation op args⟩) : (at_ scopes).wildcards ∨ (at_ scopes).BareOperator op
  custom (scopes : List ParamMap) (f : Fragment) (args : List Expr)
    (h : good ⟨scopes, .custom f args⟩) : (at_ scopes).wildcards ∨ f.pattern.Bare
  inside (scopes : List ParamMap) (params : ParamMap) (c d : Context)
    (h : (at_ scopes).contexts c d) :
    (at_ (params :: scopes)).contexts (c.inside params) (d.inside (σ.bound params))
  outside (scopes : List ParamMap) (params : ParamMap) (x y : Except QueryError (List Chunk))
    (h : (at_ (params :: scopes)).results x y) : (at_ scopes).results x y

namespace Couplings

variable {σ : Substitution} {good : Node → Prop} (K : Couplings σ good)

open Coupling

theorem params_selectOperands (q : Select Expr) : (Expr.selectOperands q).params = q.params := by
  cases q
  rfl

theorem params_substituteSelect (scopes : List ParamMap) (q : Select Expr) :
    (Expr.substituteSelect σ scopes q).params = σ.bound q.params := by
  cases q
  rfl

theorem subQuery_coupled (scopes : List ParamMap) (q : Select Expr)
    (h : (K.at_ (q.params :: scopes)).CoupledSelect (Expr.selectOperands q)
      (Expr.selectOperands (Expr.substituteSelect σ scopes q))) :
    (K.at_ scopes).CoupledOperand (Expr.subQuery q).operand
      ((Expr.subQuery q).substitute σ scopes).operand := by
  refine .intro rfl ?_ (fun _ _ _ => rfl) (fun _ _ _ _ => ?_) .nil
  · intro c d hc
    apply K.outside scopes q.params
    have hin := K.inside scopes q.params c d hc
    rw [← params_substituteSelect scopes] at hin
    have hw := Coupled.parenthesized (write_coupled (K.queries _) .rows h) _ _ hin
    simpa only [Expr.operand, Expr.substitute, Operand.subQuery, params_selectOperands] using hw
  · simp [KnownAlike, Operand.knownText?, Expr.operand, Expr.substitute, Operand.subQuery]

mutual

theorem operand_coupled (scopes : List ParamMap) :
    (e : Expr) → (∀ n ∈ e.nodes scopes, good n) →
      (K.at_ scopes).CoupledOperand e.operand (e.substitute σ scopes).operand
  | .path p, _ => path_coupled p
  | .constant v, h => K.constant scopes v (h _ (by simp [Expr.nodes]))
  | .param p, h => K.param scopes p (h _ (by simp [Expr.nodes]))
  | .operation op args, h =>
    operation_coupled op (K.operation scopes op args (h _ (by simp [Expr.nodes])))
      (operands_coupled scopes args fun n hn => h n (by simp [Expr.nodes, hn]))
  | .custom f args, h =>
    custom_coupled f (K.custom scopes f args (h _ (by simp [Expr.nodes])))
      (operands_coupled scopes args fun n hn => h n (by simp [Expr.nodes, hn]))
  | .subQuery q, h =>
    K.subQuery_coupled scopes q
      (selectOperands_coupled scopes q fun n hn => h n (by simp [Expr.nodes, hn]))

theorem operands_coupled (scopes : List ParamMap) :
    (es : List Expr) → (∀ n ∈ Expr.nodesOfAll scopes es, good n) →
      List.Forall₂ (K.at_ scopes).CoupledOperand (Expr.operands es)
        (Expr.operands (Expr.substituteAll σ scopes es))
  | [], _ => .nil
  | e :: es, h =>
    .cons (operand_coupled scopes e fun n hn => h n (by simp [Expr.nodesOfAll, hn]))
      (operands_coupled scopes es fun n hn => h n (by simp [Expr.nodesOfAll, hn]))

theorem optionOperand_coupled (scopes : List ParamMap) :
    (o : Option Expr) → (∀ n ∈ Expr.nodesOfOption scopes o, good n) →
      Option.Rel (K.at_ scopes).CoupledOperand (Expr.optionOperand o)
        (Expr.optionOperand (Expr.substituteOption σ scopes o))
  | none, _ => .none
  | some e, h => .some (operand_coupled scopes e fun n hn => h n (by simp [Expr.nodesOfOption, hn]))

theorem joinOperands_coupled (scopes : List ParamMap) :
    (js : List (Join Expr)) → (∀ n ∈ Expr.nodesOfJoins scopes js, good n) →
      List.Forall₂ (K.at_ scopes).CoupledJoin (Expr.joinOperands js)
        (Expr.joinOperands (Expr.substituteJoins σ scopes js))
  | [], _ => .nil
  | ⟨_, target, condition, _⟩ :: js, h =>
    .cons
      ⟨rfl, operand_coupled scopes target fun n hn => h n (by simp [Expr.nodesOfJoins, hn]),
        optionOperand_coupled scopes condition fun n hn => h n (by simp [Expr.nodesOfJoins, hn]), rfl⟩
      (joinOperands_coupled scopes js fun n hn => h n (by simp [Expr.nodesOfJoins, hn]))

theorem orderOperands_coupled (scopes : List ParamMap) :
    (os : List (Order Expr)) → (∀ n ∈ Expr.nodesOfOrders scopes os, good n) →
      List.Forall₂ (K.at_ scopes).CoupledOrder (Expr.orderOperands os)
        (Expr.orderOperands (Expr.substituteOrders σ scopes os))
  | [], _ => .nil
  | ⟨target, _, _⟩ :: os, h =>
    .cons ⟨operand_coupled scopes target fun n hn => h n (by simp [Expr.nodesOfOrders, hn]), rfl, rfl⟩
      (orderOperands_coupled scopes os fun n hn => h n (by simp [Expr.nodesOfOrders, hn]))

theorem selectOperands_coupled (scopes : List ParamMap) :
    (q : Select Expr) → (∀ n ∈ Expr.nodesOfSelect scopes q, good n) →
      (K.at_ (q.params :: scopes)).CoupledSelect (Expr.selectOperands q)
        (Expr.selectOperands (Expr.substituteSelect σ scopes q))
  | ⟨joins, current, filter, having, groupBy, orderBy, projection, distinct, unique, window, params⟩, h =>
    { joins := joinOperands_coupled _ joins fun n hn => h n (by simp [Expr.nodesOfSelect, hn])
      filter := optionOperand_coupled _ filter fun n hn => h n (by simp [Expr.nodesOfSelect, hn])
      having := optionOperand_coupled _ having fun n hn => h n (by simp [Expr.nodesOfSelect, hn])
      groupBy := operands_coupled _ groupBy fun n hn => h n (by simp [Expr.nodesOfSelect, hn])
      orderBy := orderOperands_coupled _ orderBy fun n hn => h n (by simp [Expr.nodesOfSelect, hn])
      projection := operands_coupled _ projection fun n hn => h n (by simp [Expr.nodesOfSelect, hn])
      distinct := rfl
      unique := rfl
      window := rfl }

end

end Couplings

end QueryText.Render
