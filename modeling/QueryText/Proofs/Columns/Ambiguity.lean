import QueryText.Proofs.Coupling.Change
import QueryText.Proofs.Columns.Naming
import QueryText.Query.Builder

namespace QueryText

open Render Query

structure Column where
  path : Path
  /-- the variables that the sub-queries around it declare -/
  sources : List Path
  /-- its names without the variable -/
  names : List String
  text : String

namespace Column

def ofPath (c : Context) (vs : List Path) (p : Path) : Column :=
  ⟨p, vs, p.names.tail, Operand.pathText c p⟩

def listed (r : Rules) (p : Path) : Column :=
  ⟨p, [], [p.name], r.identifier p.name⟩

end Column

namespace Expr

def declaredBy (js : List (Join Expr)) : List Path :=
  js.filterMap fun j => Builder.declared? j.target

mutual

def columns (c : Context) (vs : List Path) : Expr → List Column
  | path p => if p.isRoot then [] else [.ofPath c vs p]
  | operation _ args => columnsOfAll c vs args
  | constant _ => []
  | param _ => []
  | custom _ args => columnsOfAll c vs args
  | subQuery q => columnsOfSelect c vs q

def columnsOfAll (c : Context) (vs : List Path) : List Expr → List Column
  | [] => []
  | e :: es => e.columns c vs ++ columnsOfAll c vs es

def columnsOfOption (c : Context) (vs : List Path) : Option Expr → List Column
  | none => []
  | some e => e.columns c vs

def columnsOfJoins (c : Context) (vs : List Path) : List (Join Expr) → List Column
  | [] => []
  | ⟨_, target, condition, _⟩ :: js =>
    target.columns c vs ++ columnsOfOption c vs condition ++ columnsOfJoins c vs js

def columnsOfOrders (c : Context) (vs : List Path) : List (Order Expr) → List Column
  | [] => []
  | ⟨target, _, _⟩ :: os => target.columns c vs ++ columnsOfOrders c vs os

def columnsOfSelect (c : Context) (vs : List Path) : Select Expr → List Column
  | ⟨joins, _, filter, having, groupBy, orderBy, projection, _, _, _, params⟩ =>
    let c := c.inside params
    let vs := declaredBy joins ++ vs
    columnsOfAll c vs projection ++ columnsOfJoins c vs joins ++ columnsOfOption c vs filter ++
      columnsOfAll c vs groupBy ++ columnsOfOption c vs having ++ columnsOfOrders c vs orderBy

end

end Expr

structure Render.Context.Unqualified (r : Rules) (c : Context) : Prop where
  rules : c.rules = r
  unqualified : c.bareColumns = true

theorem Render.Context.Unqualified.inside {r : Rules} {c : Context} (h : c.Unqualified r)
    (params : ParamMap) :
    (c.inside params).Unqualified r :=
  ⟨h.rules, h.unqualified⟩

theorem Path.names_ne_nil (p : Path) : p.names ≠ [] := by
  intro h
  have hlength := p.length_names
  rw [h] at hlength
  cases hlength

theorem Path.tail_names_child (p : Path) (n : String) (r : Role) (k : Kind) :
    (Path.child p n r k).names.tail = p.names.tail ++ [n] := by
  rw [Path.names, List.tail_append_of_ne_nil p.names_ne_nil]

theorem Path.tail_names_ne_nil {p : Path} (h : p.isRoot = false) : p.names.tail ≠ [] := by
  cases p with
  | root n k => cases h
  | child p n r k => simp [Path.tail_names_child]

theorem Render.Operand.pathText_unqualified {r : Rules} {c : Context} (h : c.Unqualified r) {p : Path}
    (hp : p.isRoot = false) : pathText c p = r.identifiers p.names.tail := by
  induction p with
  | root n k => cases hp
  | child p n ro k ih =>
    rw [pathText, h.unqualified, Path.tail_names_child, h.rules]
    cases hroot : p.isRoot with
    | true =>
      cases p with
      | root m l => rfl
      | child _ _ _ _ => cases hroot
    | false =>
      have hne := Path.tail_names_ne_nil hroot
      simp only [Bool.and_false, Bool.false_eq_true, if_false, ih hroot, Rules.identifiers_concat hne]

structure Column.Unqualified (r : Rules) (x : Column) : Prop where
  column : x.path.isRoot = false
  names : x.names = x.path.names.tail
  text : x.text = r.identifiers x.names

namespace Expr

variable {r : Rules}

mutual

theorem columns_unqualified {c : Context} (h : c.Unqualified r) (vs : List Path) :
    (e : Expr) → ∀ x ∈ e.columns c vs, x.Unqualified r
  | path p => by
    intro x hx
    cases hp : p.isRoot with
    | true => simp [columns, hp] at hx
    | false =>
      obtain rfl : x = .ofPath c vs p := by simpa [columns, hp] using hx
      exact ⟨hp, rfl, Operand.pathText_unqualified h hp⟩
  | operation _ args | custom _ args => columnsOfAll_unqualified h vs args
  | constant _ | param _ => by simp [columns]
  | subQuery q => columnsOfSelect_unqualified h vs q

theorem columnsOfAll_unqualified {c : Context} (h : c.Unqualified r) (vs : List Path) :
    (es : List Expr) → ∀ x ∈ columnsOfAll c vs es, x.Unqualified r
  | [] => by simp [columnsOfAll]
  | e :: es =>
    List.forall_mem_append.mpr ⟨columns_unqualified h vs e, columnsOfAll_unqualified h vs es⟩

theorem columnsOfOption_unqualified {c : Context} (h : c.Unqualified r) (vs : List Path) :
    (o : Option Expr) → ∀ x ∈ columnsOfOption c vs o, x.Unqualified r
  | none => by simp [columnsOfOption]
  | some e => columns_unqualified h vs e

theorem columnsOfJoins_unqualified {c : Context} (h : c.Unqualified r) (vs : List Path) :
    (js : List (Join Expr)) → ∀ x ∈ columnsOfJoins c vs js, x.Unqualified r
  | [] => by simp [columnsOfJoins]
  | ⟨_, target, condition, _⟩ :: js => by
    simp only [columnsOfJoins, List.forall_mem_append]
    exact ⟨⟨columns_unqualified h vs target, columnsOfOption_unqualified h vs condition⟩,
      columnsOfJoins_unqualified h vs js⟩

theorem columnsOfOrders_unqualified {c : Context} (h : c.Unqualified r) (vs : List Path) :
    (os : List (Order Expr)) → ∀ x ∈ columnsOfOrders c vs os, x.Unqualified r
  | [] => by simp [columnsOfOrders]
  | ⟨target, _, _⟩ :: os =>
    List.forall_mem_append.mpr ⟨columns_unqualified h vs target, columnsOfOrders_unqualified h vs os⟩

theorem columnsOfSelect_unqualified {c : Context} (h : c.Unqualified r) (vs : List Path) :
    (q : Select Expr) → ∀ x ∈ columnsOfSelect c vs q, x.Unqualified r
  | ⟨joins, _, filter, having, groupBy, orderBy, projection, _, _, _, params⟩ => by
    have hin := h.inside params
    simp only [columnsOfSelect, List.forall_mem_append]
    exact ⟨⟨⟨⟨⟨columnsOfAll_unqualified hin _ projection, columnsOfJoins_unqualified hin _ joins⟩,
      columnsOfOption_unqualified hin _ filter⟩, columnsOfAll_unqualified hin _ groupBy⟩,
      columnsOfOption_unqualified hin _ having⟩, columnsOfOrders_unqualified hin _ orderBy⟩

end

end Expr

namespace Change

def setColumns (ch : Change) : List Column :=
  match ch with
  | insert i => (i.columns.filter (!·.isRoot)).map (.listed i.config.rules)
  | update u =>
    ((u.assignments.map (·.1)).filter (!·.isRoot)).map
      (.ofPath (Statement.context u.config u.params) [])
  | delete _ => []

def columns (ch : Change) : List Column :=
  ch.setColumns ++ ch.exprs.flatMap (·.columns (Statement.context ch.config ch.params) [])

/-- The text tells columns of differently named variables apart, and those of the sources of
sub-queries stand with their variables. -/
structure Unambiguous (ch : Change) : Prop where
  apart : ∀ x ∈ ch.columns, ∀ y ∈ ch.columns,
    x.path.rootVariable.name ≠ y.path.rootVariable.name → x.text ≠ y.text
  aliased : ∀ x ∈ ch.columns, x.path.rootVariable ∈ x.sources →
    x.text = ch.config.rules.identifiers x.path.names

variable {ch : Change} {r : Rules} {q : Char}

theorem context_unqualified (c : Config) (params : ParamMap) (h : c.rules.grammar = .sql) :
    (Statement.context c params).Unqualified c.rules :=
  ⟨rfl, by simp [Statement.context, h]⟩

theorem setColumns_written (h : ch.config.rules.grammar = .sql) : ∀ x ∈ ch.setColumns,
    x.names ≠ [] ∧ x.text = ch.config.rules.identifiers x.names ∧ x.sources = [] := by
  intro x hx
  cases ch with
  | insert i =>
    obtain ⟨p, -, rfl⟩ := List.mem_map.mp hx
    exact ⟨by simp [Column.listed], rfl, rfl⟩
  | update u =>
    obtain ⟨p, hp, rfl⟩ := List.mem_map.mp hx
    have hcolumn : p.isRoot = false := by simpa using (List.mem_filter.mp hp).2
    exact ⟨Path.tail_names_ne_nil hcolumn,
      Operand.pathText_unqualified (context_unqualified u.config u.params h) hcolumn, rfl⟩
  | delete d => cases hx

theorem columns_written (h : ch.config.rules.grammar = .sql) : ∀ x ∈ ch.columns,
    x.names ≠ [] ∧ x.text = ch.config.rules.identifiers x.names ∧
      (x.sources = [] ∨ x.names = x.path.names.tail) := by
  intro x hx
  obtain hset | hexpr := List.mem_append.mp hx
  · obtain ⟨hne, htext, hsources⟩ := setColumns_written h x hset
    exact ⟨hne, htext, .inl hsources⟩
  · obtain ⟨e, -, hx⟩ := List.mem_flatMap.mp hexpr
    have hx := Expr.columns_unqualified (context_unqualified ch.config ch.params h) [] e x hx
    exact ⟨hx.names ▸ Path.tail_names_ne_nil hx.column, hx.text, .inr hx.names⟩

/-- A relational change is unambiguous just if its columns of differently named variables have
different names below the variable, and none of them is of a source of a sub-query. -/
theorem unambiguous_iff (ch : Change) (hsql : ch.config.rules.grammar = .sql)
    (hq : ch.config.rules.Quotes q) :
    ch.Unambiguous ↔
      (∀ x ∈ ch.columns, ∀ y ∈ ch.columns,
        x.path.rootVariable.name ≠ y.path.rootVariable.name → x.names ≠ y.names) ∧
      ∀ x ∈ ch.columns, x.path.rootVariable ∉ x.sources := by
  have hwritten := columns_written hsql
  constructor
  · rintro ⟨hapart, haliased⟩
    refine ⟨fun x hx y hy hroots hnames => hapart x hx y hy hroots ?_, fun x hx hsource => ?_⟩
    · rw [(hwritten x hx).2.1, (hwritten y hy).2.1, hnames]
    · obtain ⟨hne, htext, hsources | htail⟩ := hwritten x hx
      · rw [hsources] at hsource
        cases hsource
      · have hfull := haliased x hx hsource
        rw [htext] at hfull
        -- with its variable in front it has one name more
        have hnames := Rules.identifiers_injective hq hne x.path.names_ne_nil hfull
        have hlength := congrArg List.length (htail.symm.trans hnames)
        rw [List.length_tail, x.path.length_names] at hlength
        omega
  · rintro ⟨hnames, hsources⟩
    refine ⟨fun x hx y hy hroots htexts => ?_, fun x hx hsource => absurd hsource (hsources x hx)⟩
    obtain ⟨hnx, htx, -⟩ := hwritten x hx
    obtain ⟨hny, hty, -⟩ := hwritten y hy
    rw [htx, hty] at htexts
    exact hnames x hx y hy hroots (Rules.identifiers_injective hq hnx hny htexts)

/-- The deletion of the cats of a name, if there is a product of that name. -/
def namesakes : Change :=
  let cat := Path.source (.ofType "Cat") "cat"
  let product := Path.source ⟨"Product", "PRODUCTS", none⟩ "product"
  .delete
    { Delete.of .standard cat with
      filter := some (.operation .and [
        .operation .eq [.path (cat.property "name" .text), .constant (.text "a")],
        .operation .existsIn [.subQuery
          { Select.empty with
            joins := [.of .plain (.path product)]
            filter := some (.operation .eq
              [.path (product.property "name" .text), .constant (.text "b")]) }]]) }

/-- The name of the product is written as that of the cat. -/
theorem namesakes_not_unambiguous :
    namesakes.config.rules.grammar = .sql ∧
      namesakes.written.map (·.text) = .ok
        "delete from CAT\nwhere name = ? and exists (select *\nfrom PRODUCTS product\nwhere name = ?)" ∧
      ¬ namesakes.Unambiguous := by
  refine ⟨rfl, rfl, fun h => ?_⟩
  have htexts := h.apart _ (.head _) _ (.tail _ (.head _)) (by decide)
  exact htexts rfl

/-- The deletion of the cats of a name, whose owner has that number, if there are products. -/
def strays : Change :=
  let cat := Path.source (.ofType "Cat") "cat"
  let owner := Path.source (.ofType "Person") "owner"
  .delete
    { Delete.of .standard cat with
      filter := some (.operation .existsIn [.subQuery
        { Select.empty with
          joins := [.of .plain (.path (.source ⟨"Product", "PRODUCTS", none⟩ "product"))]
          filter := some (.operation .and [
            .operation .eq [.path (cat.property "name" .text), .constant (.text "a")],
            .operation .eq [.path (owner.property "id" .int), .constant (.int 1)]]) }]) }

theorem strays_unambiguous :
    (strays.config.rules.grammar = .sql ∧ strays.config.rules.Quotes '\x22' ∧
      strays.columns.map (·.path.rootVariable.name) = ["cat", "owner"]) ∧ strays.Unambiguous := by
  have hq : strays.config.rules.Quotes '\x22' := ⟨rfl, by decide, by decide⟩
  exact ⟨⟨rfl, hq, rfl⟩, (strays.unambiguous_iff rfl hq).mpr ⟨by decide +kernel, by decide +kernel⟩⟩

end Change

end QueryText
