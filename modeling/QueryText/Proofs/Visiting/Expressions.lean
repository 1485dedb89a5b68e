import QueryText.Proofs.Visiting.Queries
import QueryText.Statement.Written

namespace QueryText

open Render

namespace Render.Part

/-- A query in parentheses. Its own values are in scope, and the candidate around it is not. -/
def subQuery (e : Expr) (q : Select Part) : Part :=
  ⟨e, .parenthesized (.inside q.params (.query .rows q)), []⟩

theorem Carries.subQuery (e : Expr) {q : Select Part} {q' : Select Operand} (h : CarriesSelect q q') :
    Carries (.subQuery e q) (.subQuery e q') := by
  have hwrite : (Operand.subQuery e q').write = .parenthesized fun c => Query.write .rows q' (c.inside q'.params) := by
    funext c
    simp only [Operand.subQuery, Writer.parenthesized, append_apply]
    rfl
  refine .intro rfl ?_ .nil
  rw [hwrite, ← h.params]
  exact ((Visitor.CarriesOutQuery.query .rows h).inside q.params).parenthesized

end Render.Part

namespace Expr

mutual

/-- The expression together with the way it is visited. -/
def part : Expr → Part
  | path p => .path p
  | operation op args => .operation op (parts args)
  | constant v => .constant v
  | param p => .param p
  | custom f args => .custom f (parts args)
  | subQuery q => .subQuery (subQuery q) (selectParts q)

def parts : List Expr → List Part
  | [] => []
  | e :: es => e.part :: parts es

def optionPart : Option Expr → Option Part
  | none => none
  | some e => some e.part

def joinParts : List (Join Expr) → List (Join Part)
  | [] => []
  | ⟨kind, target, condition, flags⟩ :: js => ⟨kind, target.part, optionPart condition, flags⟩ :: joinParts js

def orderParts : List (Order Expr) → List (Order Part)
  | [] => []
  | ⟨target, direction, nulls⟩ :: os => ⟨target.part, direction, nulls⟩ :: orderParts os

def selectParts : Select Expr → Select Part
  | ⟨joins, current, filter, having, groupBy, orderBy, projection, distinct, unique, window, params⟩ =>
    ⟨joinParts joins, current, optionPart filter, optionPart having, parts groupBy, orderParts orderBy,
      parts projection, distinct, unique, window, params⟩

end

mutual

theorem part_carries : (e : Expr) → e.part.Carries e.operand
  | path p => .path p
  | operation op args => .operation op (parts_carries args)
  | constant v => .constant v
  | param p => .param p
  | custom f args => .custom f (parts_carries args)
  | subQuery q => .subQuery _ (selectParts_carries q)

theorem parts_carries : (es : List Expr) → List.Forall₂ Part.Carries (parts es) (operands es)
  | [] => .nil
  | e :: es => .cons (part_carries e) (parts_carries es)

theorem optionPart_carries : (o : Option Expr) → Option.Rel Part.Carries (optionPart o) (optionOperand o)
  | none => .none
  | some e => .some (part_carries e)

theorem joinParts_carries : (js : List (Join Expr)) → List.Forall₂ Part.CarriesJoin (joinParts js) (joinOperands js)
  | [] => .nil
  | ⟨_, target, condition, _⟩ :: js =>
    .cons ⟨rfl, part_carries target, optionPart_carries condition, rfl⟩ (joinParts_carries js)

theorem orderParts_carries :
    (os : List (Order Expr)) → List.Forall₂ Part.CarriesOrder (orderParts os) (orderOperands os)
  | [] => .nil
  | ⟨target, _, _⟩ :: os => .cons ⟨part_carries target, rfl, rfl⟩ (orderParts_carries os)

theorem selectParts_carries : (q : Select Expr) → Part.CarriesSelect (selectParts q) (selectOperands q)
  | ⟨joins, _, filter, having, groupBy, orderBy, projection, _, _, _, _⟩ =>
    { joins := joinParts_carries joins
      filter := optionPart_carries filter
      having := optionPart_carries having
      groupBy := parts_carries groupBy
      orderBy := orderParts_carries orderBy
      projection := parts_carries projection
      distinct := rfl
      unique := rfl
      window := rfl
      params := rfl }

end

/-- Writes the expression in place. -/
def visit (e : Expr) : Visitor :=
  e.part.visit

end Expr

namespace Render.Session

/-- The same surroundings, and everything that was written, followed by more. -/
structure Extends (s t : Session) : Prop where
  rules : t.rules = s.rules
  mode : t.mode = s.mode
  inlining : t.inlining = s.inlining
  scopes : t.scopes = s.scopes
  compared : t.compared = s.compared
  candidate : t.candidate = s.candidate
  bareColumns : t.bareColumns = s.bareColumns
  depth : t.depth = s.depth
  text : ∃ more, t.text = s.text ++ more
  bindings : s.bindings <+: t.bindings
  paths : s.paths <+: t.paths

theorem extends_add (s : Session) (cs : List Chunk) : s.Extends (s.add cs) where
  rules := rfl
  mode := rfl
  inlining := rfl
  scopes := rfl
  compared := rfl
  candidate := rfl
  bareColumns := rfl
  depth := rfl
  text := ⟨_, rfl⟩
  bindings := List.prefix_append _ _
  paths := List.prefix_append _ _

end Render.Session

/-- A visit ends as the expression is written there, and whatever its end, the surroundings are those from before and
nothing written before is lost. -/
theorem Expr.visit_neutral (e : Expr) (s : Session) :
    ∃ t, s.Extends t ∧
      match e.write s.context with
      | .ok cs => e.visit s = .ok () t ∧ t = s.add cs
      | .error err => e.visit s = .error err t := by
  have hvisit := (part_carries e).visit s
  change s.Reaches (e.write s.context) (e.visit s) at hvisit
  cases hw : e.write s.context with
  | ok cs =>
    rw [hw] at hvisit
    exact ⟨s.add cs, s.extends_add cs, hvisit, rfl⟩
  | error err =>
    rw [hw] at hvisit
    obtain ⟨cs, hvisit⟩ := hvisit
    exact ⟨s.add cs, s.extends_add cs, hvisit⟩

namespace Select

end Select

end QueryText
