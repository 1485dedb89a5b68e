import QueryText.Proofs.Building.Call
import QueryText.Proofs.Counting.Selection

namespace QueryText

open Render

def Pattern.Element.slot? : Pattern.Element → Option Pattern.Slot
  | .text _ => none
  | .slot s _ => some s

namespace Expr

open Operand

def withWildcards (a : Affix) (e : Expr) : Expr :=
  let percent := constant (.text "%")
  match a with
  | .bare => e
  | .leading => operation .concat [percent, e]
  | .trailing => operation .concat [e, percent]
  | .both => operation .concat [operation .concat [percent, e], percent]

/-- What is written for an argument in that slot; a known text gets its wildcards beforehand. -/
def inSlot? (c : Context) (args : List Expr) (s : Pattern.Slot) : Option Expr :=
  (args[s.index]?).bind fun e =>
    if s.affix = .bare then some e
    else if (knownText? c e).isSome then none
    else some (e.withWildcards s.affix)

def source? (e : Expr) : Option (String × Entity) :=
  Query.source? e.operand

end Expr

namespace Select

variable (form : Form) (r : Rules) (q : Select Expr)

def targetParts (j : Join Expr) : List Expr :=
  match j.target.source? with
  | some _ => []
  | none => [j.target]

def laterParts (j : Join Expr) : List Expr :=
  targetParts j ++ if j.kind = .plain then [] else j.condition.toList

def projectedParts (e : Expr) : List Expr :=
  match r.grammar, e.source? with
  | .sql, some _ => []
  | _, _ => [e]

def countParts (first : Join Expr) : List Expr :=
  if q.distinct then
    match q.projection with
    | [] => [first.target]
    | [e] => [e]
    | _ => []
  else if r.keywords.countAll.isSome then [] else [first.target]

def rowsParts (first : Join Expr) : List Expr :=
  if q.projection.isEmpty then if r.grammar = .sql ∨ q.distinct = false then [] else [first.target]
  else q.projection.flatMap (projectedParts r)

def tailParts : List Expr :=
  q.groupBy ++ q.having.toList ++ if form = .rows then q.orderBy.map (·.target) else []

def statementParts : List Expr :=
  match q.joins with
  | [] => []
  | first :: rest =>
    (if form = .count then q.countParts r first else q.rowsParts r first) ++
      (targetParts first ++ rest.flatMap laterParts) ++
      (Expr.conjunction? q.conditions).toList ++ q.tailParts form

def countsAround : Bool :=
  form = .count && r.grammar = .sql && q.distinct && q.projection.length != 1 && !q.joins.isEmpty

def relationalParts : List Expr :=
  if q.countsAround form r then q.statementParts .countedRows r else q.statementParts form r

/-- The variable that a later join declares, and the condition that ties it to its collection. -/
def declared (j : Join Expr) : Except Construct (Path × List Expr) :=
  match j.target with
  | .operation .asAlias (collection :: .path v :: _) =>
    .ok (v, [.operation .isIn [.path v, collection]])
  | .operation .asAlias _ => .error .aliasWithoutVariable
  | .path p => if j.kind = .plain && p.isRoot then .ok (p, []) else .error (.undeclaringJoin j.kind)
  | _ => .error (.undeclaringJoin j.kind)

def declarations : List (Join Expr) → Except Construct (List Path × List Expr)
  | [] => .ok ([], [])
  | j :: js =>
    match declared j with
    | .error k => .error k
    | .ok (v, ties) =>
      match declarations js with
      | .error k => .error k
      | .ok (vs, conditions) => .ok (v :: vs, ties ++ j.condition.toList ++ conditions)

def objectHeadParts : List Expr :=
  if form = .count then
    if q.distinct then
      match q.projection with
      | [e] => [e]
      | _ => []
    else []
  else q.projection.flatMap (projectedParts r)

def objectParts : List Expr :=
  match q.joins with
  | [] => []
  | first :: rest =>
    q.objectHeadParts form r ++
      (match declarations rest with
        | .error _ => []
        | .ok (_, conditions) =>
          (Expr.conjunction? (first.condition.toList ++ conditions ++ q.filter.toList)).toList) ++
      q.tailParts form

/-- The expressions that are written of a query. Its conditions are one expression. -/
def parts : List Expr :=
  match r.grammar with
  | .jdoql => q.objectParts form r
  | .sql | .jpql => q.relationalParts form r

/-- The context of those expressions. The outermost object query writes its first source as `this`. -/
def ownContext (c : Context) : Context :=
  match c.rules.grammar, q.joins with
  | .jdoql, first :: _ => if c.nested then c else { c with candidate := first.target.path? }
  | _, _ => c

end Select

namespace Expr

open Operand

/-- The expression that is written in the place with that number, and its context: the numbers count
the elements of a pattern, or the expressions of a sub-query. -/
def part? (c : Context) (i : Nat) : Expr → Option (Expr × Context)
  | operation op args =>
    let d := comparing (operands args) c
    if (emptyMembership? c op (operands args)).isSome then none
    else
      (c.rules.operators op).bind fun rule =>
        ((rule.pattern.elements[i]?).bind (·.slot?)).bind fun s =>
          if op = .instanceOf ∧ s.index = 1 then none else (inSlot? d args s).map (·, d)
  | custom f args =>
    if f.supports c.rules.dialect then
      ((f.pattern.elements[i]?).bind (·.slot?)).bind fun s => (inSlot? c args s).map (·, c)
    else none
  | subQuery q => ((q.parts .rows c.rules)[i]?).map (·, c.inside q.params)
  | path _ | constant _ | param _ => none

def query? : Expr → Option (Select Expr)
  | subQuery q => some q
  | _ => none

end Expr

/-- Something that is written: an expression, in that context, inside those sub-queries, the innermost
one first. -/
structure Spot where
  expr : Expr
  context : Context
  around : List (Select Expr)

/-- What stands at that address. -/
def Expr.spot? : List Nat → Context → Expr → Option Spot
  | [], c, e => some ⟨e, c, []⟩
  | i :: is, c, e =>
    (e.part? c i).bind fun (a, d) =>
      (a.spot? is d).map fun s => { s with around := s.around ++ e.query?.toList }

def Select.spot? (form : Form) (c : Context) (q : Select Expr) : List Nat → Option Spot
  | [] => none
  | i :: is => ((q.parts form c.rules)[i]?).bind fun a => a.spot? is (q.ownContext c)

/-- How the context inside those queries, the innermost one first, follows from that around them. -/
structure Render.Context.Leads (c d : Context) (around : List (Select Expr)) : Prop where
  rules : d.rules = c.rules
  mode : d.mode = c.mode
  inlining : d.inlining = c.inlining
  bareColumns : d.bareColumns = c.bareColumns
  scopes : d.scopes = around.map (·.params) ++ c.scopes
  candidate : d.candidate = if around = [] then c.candidate else none
  nested : d.nested = (c.nested || decide (around ≠ []))

namespace Render.Context.Leads

variable {c d d' : Context} {around around' : List (Select Expr)}

theorem refl (c : Context) : c.Leads c [] :=
  ⟨rfl, rfl, rfl, rfl, rfl, rfl, by simp⟩

theorem trans (h : c.Leads d around) (h' : d.Leads d' around') : c.Leads d' (around' ++ around) where
  rules := h'.rules.trans h.rules
  mode := h'.mode.trans h.mode
  inlining := h'.inlining.trans h.inlining
  bareColumns := h'.bareColumns.trans h.bareColumns
  scopes := by rw [h'.scopes, h.scopes, List.map_append, List.append_assoc]
  candidate := by
    rw [h'.candidate, h.candidate]
    cases around' <;> simp
  nested := by
    rw [h'.nested, h.nested]
    cases around' <;> cases around <;> simp

theorem comparing (args : List Operand) : c.Leads (Operand.comparing args c) [] := by
  obtain ⟨p, hp⟩ := Operand.comparing_eq args c
  rw [hp]
  exact ⟨rfl, rfl, rfl, rfl, rfl, rfl, by simp⟩

theorem inside (q : Select Expr) : c.Leads (c.inside q.params) [q] :=
  ⟨rfl, rfl, rfl, rfl, rfl, rfl, by simp [Context.inside]⟩

end Render.Context.Leads

namespace Expr

theorem leads_of_part? {e a : Expr} {i : Nat} {c d : Context} (h : e.part? c i = some (a, d)) :
    c.Leads d e.query?.toList := by
  cases e with
  | operation op args =>
    simp only [part?, Option.ite_none_left_eq_some, Option.bind_eq_some_iff, Option.map_eq_some_iff,
      Prod.mk.injEq] at h
    obtain ⟨-, rule, -, s, -, -, _, -, -, rfl⟩ := h
    exact .comparing _
  | custom f args =>
    simp only [part?, Option.ite_none_right_eq_some, Option.bind_eq_some_iff, Option.map_eq_some_iff,
      Prod.mk.injEq] at h
    obtain ⟨-, s, -, _, -, -, rfl⟩ := h
    exact .refl _
  | subQuery q =>
    simp only [part?, Option.map_eq_some_iff, Prod.mk.injEq] at h
    obtain ⟨_, -, -, rfl⟩ := h
    exact .inside q
  | path _ | constant _ | param _ => cases h

theorem leads_of_spot? {e : Expr} {is : List Nat} {c : Context} {s : Spot} (h : e.spot? is c = some s) :
    c.Leads s.context s.around := by
  induction is generalizing e c s with
  | nil =>
    obtain rfl := Option.some.inj h
    exact .refl c
  | cons i is ih =>
    obtain ⟨⟨a, d⟩, hpart, h⟩ := Option.bind_eq_some_iff.mp h
    obtain ⟨t, ht, rfl⟩ := Option.map_eq_some_iff.mp h
    exact (leads_of_part? hpart).trans (ih ht)

end Expr

theorem Select.leads_of_spot? {form : Form} {q : Select Expr} {c : Context} {is : List Nat} {s : Spot}
    (h : q.spot? form c is = some s) : (q.ownContext c).Leads s.context s.around := by
  match is, h with
  | i :: is, h =>
    obtain ⟨a, -, h⟩ := Option.bind_eq_some_iff.mp h
    exact Expr.leads_of_spot? h

end QueryText
