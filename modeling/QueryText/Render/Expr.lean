import QueryText.Render.Select

namespace QueryText

namespace Expr

open Render

mutual

def operand : Expr → Operand
  | path p => .path p
  | operation op args => .operation op (operands args)
  | constant v => .constant v
  | param p => .param p
  | custom f args => .custom f (operands args)
  | subQuery q => .subQuery (subQuery q) (selectOperands q)

def operands : List Expr → List Operand
  | [] => []
  | e :: es => e.operand :: operands es

def optionOperand : Option Expr → Option Operand
  | none => none
  | some e => some e.operand

def joinOperands : List (Join Expr) → List (Join Operand)
  | [] => []
  | ⟨kind, target, condition, flags⟩ :: js =>
    ⟨kind, target.operand, optionOperand condition, flags⟩ :: joinOperands js

def orderOperands : List (Order Expr) → List (Order Operand)
  | [] => []
  | ⟨target, direction, nulls⟩ :: os => ⟨target.operand, direction, nulls⟩ :: orderOperands os

def selectOperands : Select Expr → Select Operand
  | ⟨joins, current, filter, having, groupBy, orderBy, projection, distinct, unique, window, params⟩ =>
    ⟨joinOperands joins, current, optionOperand filter, optionOperand having, operands groupBy,
      orderOperands orderBy, operands projection, distinct, unique, window, params⟩

end

def write (e : Expr) : Writer :=
  e.operand.write

end Expr

namespace Select

open Render

def write (form : Form) (q : Select Expr) : Writer :=
  Query.write form (Expr.selectOperands q)

end Select

end QueryText
