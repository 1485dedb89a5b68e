import QueryText.Proofs.Coupling.Expr
import QueryText.Proofs.Paging.Tail

namespace QueryText

variable {α : Type}

inductive Join.Rel (R : α → α → Prop) : Join α → Join α → Prop where
  | intro (kind : JoinKind) {t t' : α} (target : R t t') {c c' : Option α}
      (condition : Option.Rel R c c') (flags : List JoinFlag) :
      Rel R ⟨kind, t, c, flags⟩ ⟨kind, t', c', flags⟩

inductive Order.Rel (R : α → α → Prop) : Order α → Order α → Prop where
  | intro {t t' : α} (target : R t t') (direction : Direction) (nulls : NullOrder) :
      Rel R ⟨t, direction, nulls⟩ ⟨t', direction, nulls⟩

/-- Queries over related expressions, with related windows, that agree in all else. -/
inductive Select.Rel (R : α → α → Prop) (W : Window → Window → Prop) : Select α → Select α → Prop where
  | intro {joins joins' : List (Join α)} (hj : List.Forall₂ (Join.Rel R) joins joins')
      (current : Option Nat)
      {filter filter' : Option α} (hf : Option.Rel R filter filter')
      {having having' : Option α} (hh : Option.Rel R having having')
      {groupBy groupBy' : List α} (hg : List.Forall₂ R groupBy groupBy')
      {orderBy orderBy' : List (Order α)} (ho : List.Forall₂ (Order.Rel R) orderBy orderBy')
      {projection projection' : List α} (hp : List.Forall₂ R projection projection')
      (distinct unique : Bool) {window window' : Window} (hw : W window window') (params : ParamMap) :
      Rel R W
        ⟨joins, current, filter, having, groupBy, orderBy, projection, distinct, unique, window, params⟩
        ⟨joins', current, filter', having', groupBy', orderBy', projection', distinct, unique, window',
          params⟩

namespace Select.Rel

variable {R : α → α → Prop} {W : Window → Window → Prop} {q q' : Select α}

theorem windows (h : Select.Rel R W q q') : W q.window q'.window := by
  cases h with
  | intro _ _ _ _ _ _ _ _ _ hw _ => exact hw

theorem params (h : Select.Rel R W q q') : q.params = q'.params := by
  cases h
  rfl

theorem distinct (h : Select.Rel R W q q') : q.distinct = q'.distinct := by
  cases h
  rfl

theorem unique (h : Select.Rel R W q q') : q.unique = q'.unique := by
  cases h
  rfl

theorem joins (h : Select.Rel R W q q') : List.Forall₂ (Join.Rel R) q.joins q'.joins := by
  cases h with
  | intro hj _ _ _ _ _ _ _ _ _ _ => exact hj

theorem filter (h : Select.Rel R W q q') : Option.Rel R q.filter q'.filter := by
  cases h with
  | intro _ _ hf _ _ _ _ _ _ _ _ => exact hf

theorem having (h : Select.Rel R W q q') : Option.Rel R q.having q'.having := by
  cases h with
  | intro _ _ _ hh _ _ _ _ _ _ _ => exact hh

theorem groupBy (h : Select.Rel R W q q') : List.Forall₂ R q.groupBy q'.groupBy := by
  cases h with
  | intro _ _ _ _ hg _ _ _ _ _ _ => exact hg

theorem orderBy (h : Select.Rel R W q q') : List.Forall₂ (Order.Rel R) q.orderBy q'.orderBy := by
  cases h with
  | intro _ _ _ _ _ ho _ _ _ _ _ => exact ho

theorem projection (h : Select.Rel R W q q') : List.Forall₂ R q.projection q'.projection := by
  cases h with
  | intro _ _ _ _ _ _ hp _ _ _ _ => exact hp

end Select.Rel

inductive Expr.SameButWindows (W : Window → Window → Prop) : Expr → Expr → Prop where
  | path (p : Path) : SameButWindows W (.path p) (.path p)
  | operation (op : Operator) {args args' : List Expr} (h : List.Forall₂ (SameButWindows W) args args') :
      SameButWindows W (.operation op args) (.operation op args')
  | constant (v : Value) : SameButWindows W (.constant v) (.constant v)
  | param (p : Param) : SameButWindows W (.param p) (.param p)
  | custom (f : Fragment) {args args' : List Expr} (h : List.Forall₂ (SameButWindows W) args args') :
      SameButWindows W (.custom f args) (.custom f args')
  | subQuery {q q' : Select Expr} (h : Select.Rel (SameButWindows W) W q q') :
      SameButWindows W (.subQuery q) (.subQuery q')

namespace Expr.SameButWindows

variable {W : Window → Window → Prop} {e e' : Expr}

theorem head_eq (h : e.SameButWindows W e') : e.head = e'.head := by
  cases h <;> rfl

mutual

theorem refl (hW : ∀ w, W w w) : (e : Expr) → e.SameButWindows W e
  | .path p => .path p
  | .operation op args => .operation op (refl_list hW args)
  | .constant v => .constant v
  | .param p => .param p
  | .custom f args => .custom f (refl_list hW args)
  | .subQuery q => .subQuery (refl_select hW q)

theorem refl_list (hW : ∀ w, W w w) : (es : List Expr) → List.Forall₂ (Expr.SameButWindows W) es es
  | [] => .nil
  | e :: es => .cons (refl hW e) (refl_list hW es)

theorem refl_option (hW : ∀ w, W w w) : (o : Option Expr) → Option.Rel (Expr.SameButWindows W) o o
  | none => .none
  | some e => .some (refl hW e)

theorem refl_joins (hW : ∀ w, W w w) : (js : List (Join Expr)) → List.Forall₂ (Join.Rel (Expr.SameButWindows W)) js js
  | [] => .nil
  | ⟨kind, target, condition, flags⟩ :: js =>
    .cons (.intro kind (refl hW target) (refl_option hW condition) flags) (refl_joins hW js)

theorem refl_orders (hW : ∀ w, W w w) : (os : List (Order Expr)) → List.Forall₂ (Order.Rel (Expr.SameButWindows W)) os os
  | [] => .nil
  | ⟨target, direction, nulls⟩ :: os => .cons (.intro (refl hW target) direction nulls) (refl_orders hW os)

theorem refl_select (hW : ∀ w, W w w) : (q : Select Expr) → Select.Rel (Expr.SameButWindows W) W q q
  | ⟨joins, current, filter, having, groupBy, orderBy, projection, distinct, unique, window, params⟩ =>
    .intro (refl_joins hW joins) current (refl_option hW filter) (refl_option hW having) (refl_list hW groupBy)
      (refl_orders hW orderBy) (refl_list hW projection) distinct unique (hW window) params

end

end Expr.SameButWindows

namespace Expr

mutual

def dropWindows : Expr → Expr
  | path p => path p
  | operation op args => operation op (dropWindowsList args)
  | constant v => constant v
  | param p => param p
  | custom f args => custom f (dropWindowsList args)
  | subQuery q => subQuery (dropWindowsSelect q)

def dropWindowsList : List Expr → List Expr
  | [] => []
  | e :: es => e.dropWindows :: dropWindowsList es

def dropWindowsOption : Option Expr → Option Expr
  | none => none
  | some e => some e.dropWindows

def dropWindowsJoins : List (Join Expr) → List (Join Expr)
  | [] => []
  | ⟨kind, target, condition, flags⟩ :: js =>
    ⟨kind, target.dropWindows, dropWindowsOption condition, flags⟩ :: dropWindowsJoins js

def dropWindowsOrders : List (Order Expr) → List (Order Expr)
  | [] => []
  | ⟨target, direction, nulls⟩ :: os => ⟨target.dropWindows, direction, nulls⟩ :: dropWindowsOrders os

def dropWindowsSelect : Select Expr → Select Expr
  | ⟨joins, current, filter, having, groupBy, orderBy, projection, distinct, unique, _, params⟩ =>
    ⟨dropWindowsJoins joins, current, dropWindowsOption filter, dropWindowsOption having,
      dropWindowsList groupBy, dropWindowsOrders orderBy, dropWindowsList projection, distinct, unique,
      .unrestricted, params⟩

end

section DropWindows

variable {W : Window → Window → Prop}

mutual

theorem sameButWindows_dropWindows (hW : ∀ w, W w .unrestricted) :
    (e : Expr) → e.SameButWindows W e.dropWindows
  | path p => .path p
  | operation op args => .operation op (sameButWindows_dropWindowsList hW args)
  | constant v => .constant v
  | param p => .param p
  | custom f args => .custom f (sameButWindows_dropWindowsList hW args)
  | subQuery q => .subQuery (rel_dropWindowsSelect hW q)

theorem sameButWindows_dropWindowsList (hW : ∀ w, W w .unrestricted) :
    (es : List Expr) → List.Forall₂ (SameButWindows W) es (dropWindowsList es)
  | [] => .nil
  | e :: es => .cons (sameButWindows_dropWindows hW e) (sameButWindows_dropWindowsList hW es)

theorem sameButWindows_dropWindowsOption (hW : ∀ w, W w .unrestricted) :
    (o : Option Expr) → Option.Rel (SameButWindows W) o (dropWindowsOption o)
  | none => .none
  | some e => .some (sameButWindows_dropWindows hW e)

theorem rel_dropWindowsJoins (hW : ∀ w, W w .unrestricted) :
    (js : List (Join Expr)) → List.Forall₂ (Join.Rel (SameButWindows W)) js (dropWindowsJoins js)
  | [] => .nil
  | ⟨kind, target, condition, flags⟩ :: js =>
    .cons (.intro kind (sameButWindows_dropWindows hW target)
      (sameButWindows_dropWindowsOption hW condition) flags) (rel_dropWindowsJoins hW js)

theorem rel_dropWindowsOrders (hW : ∀ w, W w .unrestricted) :
    (os : List (Order Expr)) → List.Forall₂ (Order.Rel (SameButWindows W)) os (dropWindowsOrders os)
  | [] => .nil
  | ⟨target, direction, nulls⟩ :: os =>
    .cons (.intro (sameButWindows_dropWindows hW target) direction nulls) (rel_dropWindowsOrders hW os)

theorem rel_dropWindowsSelect (hW : ∀ w, W w .unrestricted) :
    (q : Select Expr) → Select.Rel (SameButWindows W) W q (dropWindowsSelect q)
  | ⟨joins, current, filter, having, groupBy, orderBy, projection, distinct, unique, window, params⟩ =>
    .intro (rel_dropWindowsJoins hW joins) current (sameButWindows_dropWindowsOption hW filter)
      (sameButWindows_dropWindowsOption hW having) (sameButWindows_dropWindowsList hW groupBy)
      (rel_dropWindowsOrders hW orderBy) (sameButWindows_dropWindowsList hW projection) distinct unique
      (hW window) params

end

end DropWindows

end Expr

namespace Render

/-- What may happen to the windows of sub-queries, and what that does to what is written. -/
structure Windowing where
  rules : Rules → Prop
  windows : Window → Window → Prop
  results : Except QueryError (List Chunk) → Except QueryError (List Chunk) → Prop
  fails {x y : Except QueryError (List Chunk)} (h : results x y) (e : QueryError) :
    x = .error e ↔ y = .error e
  refl (x : Except QueryError (List Chunk)) : results x x
  join {x y x' y' : Except QueryError (List Chunk)} (h : results x y) (h' : results x' y') :
    results (joined x x') (joined y y')
  window {c : Context} (h : rules c.rules) {w w' : Window} (hw : windows w w') :
    results (Query.writeWindow w c) (Query.writeWindow w' c)

namespace Windowing

open Coupling

variable (W : Windowing)

abbrev Same : Expr → Expr → Prop :=
  Expr.SameButWindows W.windows

def coupling : Coupling where
  contexts c d := c = d ∧ W.rules c.rules
  results := W.results
  rules_alike {c d} h := ⟨d.rules.flattensLists, by rw [h.1, Rules.withFlattening_self]⟩
  nested_cases h := .inl (h.1 ▸ rfl)
  comparing h p := ⟨h.1 ▸ rfl, h.2⟩
  candidate h p := ⟨h.1 ▸ rfl, h.2⟩
  nothing := W.refl _
  text _ := W.refl _
  fail _ _ := W.refl _
  join := W.join
  path h p := h.1 ▸ W.refl _
  wildcards := True
  wildcardText h _ s := h.1 ▸ W.refl _

theorem writesQueries : W.coupling.WritesQueries :=
  ⟨.inl trivial, .inl trivial⟩

variable {W} {q q' : Select Expr}

theorem selectOperands_unlimited (q : Select Expr) :
    Expr.selectOperands q.unlimited = (Expr.selectOperands q).unlimited := by
  cases q
  rfl

theorem window_selectOperands (q : Select Expr) : (Expr.selectOperands q).window = q.window := by
  cases q
  rfl

theorem write_rows_coupled
    (h : W.coupling.CoupledSelect (Expr.selectOperands q.unlimited) (Expr.selectOperands q'.unlimited))
    (hw : W.windows q.window q'.window) : W.coupling.Coupled (q.write .rows) (q'.write .rows) := by
  intro c d hc
  have hall := write_coupled W.writesQueries .rows h c d hc
  obtain ⟨rfl, hr⟩ := hc
  rw [selectOperands_unlimited, selectOperands_unlimited] at hall
  simp only [Select.write, Query.write_window (Expr.selectOperands _), window_selectOperands]
  exact W.join hall (W.window hr hw)

theorem subQuery_coupled
    (h : W.coupling.CoupledSelect (Expr.selectOperands q.unlimited) (Expr.selectOperands q'.unlimited))
    (hw : W.windows q.window q'.window) (hp : q.params = q'.params) :
    W.coupling.CoupledOperand (Expr.subQuery q).operand (Expr.subQuery q').operand := by
  refine .intro rfl (fun c d hc => ?_) (fun _ _ _ => rfl) (fun _ _ _ _ => ?_) .nil
  · have hin := Coupled.parenthesized (write_rows_coupled h hw)
    simp only [Expr.operand, Operand.subQuery, Couplings.params_selectOperands, hp]
    exact hin _ _ ⟨congrArg (·.inside q'.params) hc.1, hc.2⟩
  · simp [KnownAlike, Operand.knownText?, Expr.operand, Operand.subQuery]

theorem self_coupled (o : Operand) : W.coupling.CoupledOperand o o :=
  Coupling.CoupledOperand.self (K := W.coupling) (fun _ _ h => h.1) W.refl o

mutual

theorem operand_coupled : (e : Expr) → {e' : Expr} → e.SameButWindows W.windows e' →
    W.coupling.CoupledOperand e.operand e'.operand
  | .path _, _, .path _ | .constant _, _, .constant _ | .param _, _, .param _ => self_coupled _
  | .operation op args, _, .operation _ h =>
    operation_coupled op (.inl trivial) (operands_coupled args h)
  | .custom f args, _, .custom _ h => custom_coupled f (.inl trivial) (operands_coupled args h)
  | .subQuery q, _, .subQuery h => subQuery_coupled (selectOperands_coupled q h) h.windows h.params

theorem operands_coupled : (es : List Expr) → {es' : List Expr} →
    List.Forall₂ (Expr.SameButWindows W.windows) es es' →
    List.Forall₂ W.coupling.CoupledOperand (Expr.operands es) (Expr.operands es')
  | [], _, .nil => .nil
  | e :: es, _, .cons h hs => .cons (operand_coupled e h) (operands_coupled es hs)

theorem optionOperand_coupled : (o : Option Expr) → {o' : Option Expr} →
    Option.Rel (Expr.SameButWindows W.windows) o o' →
    Option.Rel W.coupling.CoupledOperand (Expr.optionOperand o) (Expr.optionOperand o')
  | none, _, .none => .none
  | some e, _, .some h => .some (operand_coupled e h)

theorem joinOperands_coupled : (js : List (Join Expr)) → {js' : List (Join Expr)} →
    List.Forall₂ (Join.Rel (Expr.SameButWindows W.windows)) js js' →
    List.Forall₂ W.coupling.CoupledJoin (Expr.joinOperands js) (Expr.joinOperands js')
  | [], _, .nil => .nil
  | ⟨_, target, condition, _⟩ :: js, _, .cons (.intro _ ht hc _) hs =>
    .cons ⟨rfl, operand_coupled target ht, optionOperand_coupled condition hc, rfl⟩
      (joinOperands_coupled js hs)

theorem orderOperands_coupled : (os : List (Order Expr)) → {os' : List (Order Expr)} →
    List.Forall₂ (Order.Rel (Expr.SameButWindows W.windows)) os os' →
    List.Forall₂ W.coupling.CoupledOrder (Expr.orderOperands os) (Expr.orderOperands os')
  | [], _, .nil => .nil
  | ⟨target, _, _⟩ :: os, _, .cons (.intro ht _ _) hs =>
    .cons ⟨operand_coupled target ht, rfl, rfl⟩ (orderOperands_coupled os hs)

theorem selectOperands_coupled : (q : Select Expr) → {q' : Select Expr} →
    Select.Rel (Expr.SameButWindows W.windows) W.windows q q' →
    W.coupling.CoupledSelect (Expr.selectOperands q.unlimited) (Expr.selectOperands q'.unlimited)
  | ⟨joins, _, filter, having, groupBy, orderBy, projection, _, _, _, _⟩, _,
      .intro hj _ hf hh hg ho hp _ _ _ _ =>
    { joins := joinOperands_coupled joins hj
      filter := optionOperand_coupled filter hf
      having := optionOperand_coupled having hh
      groupBy := operands_coupled groupBy hg
      orderBy := orderOperands_coupled orderBy ho
      projection := operands_coupled projection hp
      distinct := rfl
      unique := rfl
      window := rfl }

end

theorem unlimited_alike {c : Context} (hr : W.rules c.rules) (form : Form)
    (h : Select.Rel W.Same W.windows q q') :
    W.results (q.unlimited.write form c) (q'.unlimited.write form c) :=
  write_coupled W.writesQueries form (selectOperands_coupled q h) c c ⟨rfl, hr⟩

end Windowing

end Render

end QueryText
