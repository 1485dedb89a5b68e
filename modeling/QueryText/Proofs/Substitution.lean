import QueryText.Expr.Basic

namespace QueryText

/-- How values are replaced: those of constants, those of parameters that are in scope, and those
that queries bind. A parameter without a replacement stays. -/
structure Substitution where
  constant : Value → Value
  param : List ParamMap → Param → Option Value
  bound : ParamMap → ParamMap

namespace Substitution

def leaf (σ : Substitution) (scopes : List ParamMap) (p : Param) : Expr :=
  match σ.param scopes p with
  | some v => .constant v
  | none => .param p

theorem leaf_of_none (σ : Substitution) {scopes : List ParamMap} {p : Param} (h : σ.param scopes p = none) :
    σ.leaf scopes p = .param p := by
  rw [leaf, h]

theorem leaf_of_some (σ : Substitution) {scopes : List ParamMap} {p : Param} {v : Value}
    (h : σ.param scopes p = some v) : σ.leaf scopes p = .constant v := by
  rw [leaf, h]

def identity : Substitution :=
  ⟨id, fun _ _ => none, id⟩

end Substitution

/-- An expression inside another one, and the values in scope there, the innermost first. -/
structure Node where
  scopes : List ParamMap
  expr : Expr

namespace Expr

mutual

/-- Every expression inside the expression, itself included. -/
def nodes (scopes : List ParamMap) : Expr → List Node
  | path p => [⟨scopes, path p⟩]
  | operation op args => ⟨scopes, operation op args⟩ :: nodesOfAll scopes args
  | constant v => [⟨scopes, constant v⟩]
  | param p => [⟨scopes, param p⟩]
  | custom f args => ⟨scopes, custom f args⟩ :: nodesOfAll scopes args
  | subQuery q => ⟨scopes, subQuery q⟩ :: nodesOfSelect scopes q

def nodesOfAll (scopes : List ParamMap) : List Expr → List Node
  | [] => []
  | e :: es => e.nodes scopes ++ nodesOfAll scopes es

def nodesOfOption (scopes : List ParamMap) : Option Expr → List Node
  | none => []
  | some e => e.nodes scopes

def nodesOfJoins (scopes : List ParamMap) : List (Join Expr) → List Node
  | [] => []
  | ⟨_, target, condition, _⟩ :: js =>
    target.nodes scopes ++ nodesOfOption scopes condition ++ nodesOfJoins scopes js

def nodesOfOrders (scopes : List ParamMap) : List (Order Expr) → List Node
  | [] => []
  | ⟨target, _, _⟩ :: os => target.nodes scopes ++ nodesOfOrders scopes os

def nodesOfSelect (scopes : List ParamMap) : Select Expr → List Node
  | ⟨joins, _, filter, having, groupBy, orderBy, projection, _, _, _, params⟩ =>
    nodesOfJoins (params :: scopes) joins ++ nodesOfOption (params :: scopes) filter ++
      nodesOfOption (params :: scopes) having ++ nodesOfAll (params :: scopes) groupBy ++
      nodesOfOrders (params :: scopes) orderBy ++ nodesOfAll (params :: scopes) projection

end

mutual

def substitute (σ : Substitution) (scopes : List ParamMap) : Expr → Expr
  | path p => path p
  | operation op args => operation op (substituteAll σ scopes args)
  | constant v => constant (σ.constant v)
  | param p => σ.leaf scopes p
  | custom f args => custom f (substituteAll σ scopes args)
  | subQuery q => subQuery (substituteSelect σ scopes q)

def substituteAll (σ : Substitution) (scopes : List ParamMap) : List Expr → List Expr
  | [] => []
  | e :: es => e.substitute σ scopes :: substituteAll σ scopes es

def substituteOption (σ : Substitution) (scopes : List ParamMap) : Option Expr → Option Expr
  | none => none
  | some e => some (e.substitute σ scopes)

def substituteJoins (σ : Substitution) (scopes : List ParamMap) : List (Join Expr) → List (Join Expr)
  | [] => []
  | ⟨kind, target, condition, flags⟩ :: js =>
    ⟨kind, target.substitute σ scopes, substituteOption σ scopes condition, flags⟩ ::
      substituteJoins σ scopes js

def substituteOrders (σ : Substitution) (scopes : List ParamMap) :
    List (Order Expr) → List (Order Expr)
  | [] => []
  | ⟨target, direction, nulls⟩ :: os =>
    ⟨target.substitute σ scopes, direction, nulls⟩ :: substituteOrders σ scopes os

def substituteSelect (σ : Substitution) (scopes : List ParamMap) : Select Expr → Select Expr
  | ⟨joins, current, filter, having, groupBy, orderBy, projection, distinct, unique, window, params⟩ =>
    ⟨substituteJoins σ (params :: scopes) joins, current,
      substituteOption σ (params :: scopes) filter, substituteOption σ (params :: scopes) having,
      substituteAll σ (params :: scopes) groupBy, substituteOrders σ (params :: scopes) orderBy,
      substituteAll σ (params :: scopes) projection, distinct, unique, window, σ.bound params⟩

end

theorem window_substituteSelect (σ : Substitution) (scopes : List ParamMap) (q : Select Expr) :
    (substituteSelect σ scopes q).window = q.window := by
  cases q
  rfl

mutual

theorem substitute_identity (scopes : List ParamMap) : (e : Expr) → e.substitute .identity scopes = e
  | path _ | constant _ | param _ => rfl
  | operation op args => congrArg (operation op) (substituteAll_identity scopes args)
  | custom f args => congrArg (custom f) (substituteAll_identity scopes args)
  | subQuery q => congrArg subQuery (substituteSelect_identity scopes q)

theorem substituteAll_identity (scopes : List ParamMap) :
    (es : List Expr) → substituteAll .identity scopes es = es
  | [] => rfl
  | e :: es => by rw [substituteAll, substitute_identity scopes e, substituteAll_identity scopes es]

theorem substituteOption_identity (scopes : List ParamMap) :
    (o : Option Expr) → substituteOption .identity scopes o = o
  | none => rfl
  | some e => congrArg some (substitute_identity scopes e)

theorem substituteJoins_identity (scopes : List ParamMap) :
    (js : List (Join Expr)) → substituteJoins .identity scopes js = js
  | [] => rfl
  | ⟨kind, target, condition, flags⟩ :: js => by
    rw [substituteJoins, substitute_identity scopes target, substituteOption_identity scopes condition,
      substituteJoins_identity scopes js]

theorem substituteOrders_identity (scopes : List ParamMap) :
    (os : List (Order Expr)) → substituteOrders .identity scopes os = os
  | [] => rfl
  | ⟨target, direction, nulls⟩ :: os => by
    rw [substituteOrders, substitute_identity scopes target, substituteOrders_identity scopes os]

theorem substituteSelect_identity (scopes : List ParamMap) :
    (q : Select Expr) → substituteSelect .identity scopes q = q
  | ⟨joins, current, filter, having, groupBy, orderBy, projection, distinct, unique, window, params⟩ => by
    rw [substituteSelect, substituteJoins_identity _ joins, substituteOption_identity _ filter,
      substituteOption_identity _ having, substituteAll_identity _ groupBy,
      substituteOrders_identity _ orderBy, substituteAll_identity _ projection]
    rfl

end

end Expr

end QueryText
