import QueryText.Render.Expr

namespace QueryText

variable {α β : Type}

def Join.map (f : α → β) (j : Join α) : Join β :=
  ⟨j.kind, f j.target, j.condition.map f, j.flags⟩

def Order.map (f : α → β) (o : Order α) : Order β :=
  ⟨f o.target, o.direction, o.nulls⟩

def Select.map (f : α → β) (q : Select α) : Select β :=
  { joins := q.joins.map (Join.map f)
    current := q.current
    filter := q.filter.map f
    having := q.having.map f
    groupBy := q.groupBy.map f
    orderBy := q.orderBy.map (Order.map f)
    projection := q.projection.map f
    distinct := q.distinct
    unique := q.unique
    window := q.window
    params := q.params }

theorem Select.joins_map {f : α → β} {q : Select α} {first : Join α} {rest : List (Join α)}
    (h : q.joins = first :: rest) : (q.map f).joins = first.map f :: rest.map (Join.map f) := by
  rw [map, h, List.map_cons]

namespace Expr

mutual

theorem expr_operand : (e : Expr) → e.operand.expr = e
  | path _ | constant _ | param _ | subQuery _ => rfl
  | operation op args => congrArg (operation op) (map_expr_operands args)
  | custom f args => congrArg (custom f) (map_expr_operands args)

theorem map_expr_operands : (es : List Expr) → (operands es).map (·.expr) = es
  | [] => rfl
  | e :: es => by rw [operands, List.map_cons, expr_operand e, map_expr_operands es]

end

theorem operands_eq_map (es : List Expr) : operands es = es.map operand := by
  induction es with
  | nil => rfl
  | cons e es ih => rw [operands, List.map_cons, ih]

theorem optionOperand_eq_map (o : Option Expr) : optionOperand o = o.map operand := by
  cases o <;> rfl

theorem joinOperands_eq_map (js : List (Join Expr)) : joinOperands js = js.map (Join.map operand) := by
  induction js with
  | nil => rfl
  | cons j js ih => rw [joinOperands, List.map_cons, Join.map, ih, optionOperand_eq_map]

theorem orderOperands_eq_map (os : List (Order Expr)) :
    orderOperands os = os.map (Order.map operand) := by
  induction os with
  | nil => rfl
  | cons o os ih => rw [orderOperands, List.map_cons, Order.map, ih]

theorem selectOperands_eq_map (q : Select Expr) : selectOperands q = q.map operand := by
  cases q
  simp only [selectOperands, Select.map, joinOperands_eq_map, optionOperand_eq_map, operands_eq_map,
    orderOperands_eq_map]

end Expr

theorem Select.write_eq (form : Render.Form) (q : Select Expr) :
    q.write form = Render.Query.write form (q.map Expr.operand) := by
  rw [Select.write, Expr.selectOperands_eq_map]

end QueryText
