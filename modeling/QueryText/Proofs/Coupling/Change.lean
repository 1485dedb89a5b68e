import QueryText.Proofs.Coupling.Select
import QueryText.Statement.Change

namespace QueryText

open Render Statement

namespace Change

def config : Change → Config
  | insert i => i.config
  | update u => u.config
  | delete d => d.config

def params : Change → ParamMap
  | insert i => i.params
  | update u => u.params
  | delete d => d.params

/-- The expressions of a change: its values, then its filter. -/
def exprs : Change → List Expr
  | insert i => i.values
  | update u => u.assignments.map (·.2) ++ u.filter.toList
  | delete d => d.filter.toList

def mapExprs (f : Expr → Expr) : Change → Change
  | insert i => insert { i with values := i.values.map f }
  | update u =>
    update { u with assignments := u.assignments.map fun a => (a.1, f a.2), filter := u.filter.map f }
  | delete d => delete { d with filter := d.filter.map f }

theorem mapExprs_id (ch : Change) : ch.mapExprs (fun e => e) = ch := by
  cases ch <;> simp [mapExprs]

@[simp] theorem config_mapExprs (f : Expr → Expr) (ch : Change) :
    (ch.mapExprs f).config = ch.config := by
  cases ch <;> rfl

@[simp] theorem params_mapExprs (f : Expr → Expr) (ch : Change) :
    (ch.mapExprs f).params = ch.params := by
  cases ch <;> rfl

/-- What a change has to provide before it is written: the keyword to begin with, and the entity that
it changes. -/
def checked : Change → Except QueryError (String × Entity)
  | insert i =>
    (targetEntity i.target).bind fun e =>
    (Insert.keyword i.config.rules).bind fun k =>
    if i.columns.isEmpty then .error (.precondition .nothingToInsert)
    else if i.columns.length ≠ i.values.length then
      .error (.arityMismatch i.columns.length i.values.length)
    else .ok (k, e)
  | update u =>
    (targetEntity u.target).bind fun e =>
    (Update.keyword u.config.rules).bind fun k =>
    if u.assignments.isEmpty then .error (.precondition .nothingToUpdate)
    else .ok (k, e)
  | delete d => (targetEntity d.target).map fun e => (d.config.rules.keywords.deleteFrom, e)

def write (ch : Change) (head : String × Entity) : Writer :=
  match ch with
  | insert i => i.write head.1 head.2
  | update u => u.write head.1 head.2
  | delete d => d.write head.2

theorem checked_mapExprs (f : Expr → Expr) (ch : Change) : (ch.mapExprs f).checked = ch.checked := by
  cases ch <;> simp [mapExprs, checked]

theorem written_eq (ch : Change) :
    ch.written = ch.checked.bind fun head => finish ch.config ch.params (ch.write head) := by
  cases ch with
  | insert i =>
    simp only [written, Insert.written, checked, config, params, write]
    cases targetEntity i.target with
    | error e => rfl
    | ok e =>
      cases Insert.keyword i.config.rules with
      | error e => rfl
      | ok k =>
        by_cases hc : i.columns.isEmpty
        · simp only [hc]
          rfl
        · by_cases hl : i.columns.length ≠ i.values.length
          · simp only [hc, if_pos hl]
            rfl
          · simp only [hc, if_neg hl]
            rfl
  | update u =>
    simp only [written, Update.written, checked, config, params, write]
    cases targetEntity u.target with
    | error e => rfl
    | ok e =>
      cases Update.keyword u.config.rules with
      | error e => rfl
      | ok k =>
        by_cases hu : u.assignments.isEmpty <;> simp only [hu] <;> rfl
  | delete d =>
    simp only [written, Delete.written, checked, config, params, write]
    cases targetEntity d.target <;> rfl

theorem written_ok {ch : Change} {s : WrittenStatement} (h : ch.written = .ok s) :
    ∃ head cs, ch.checked = .ok head ∧ ch.write head (context ch.config ch.params) = .ok cs ∧
      s = .ofChunks ch.config.rules cs := by
  rw [written_eq] at h
  obtain ⟨head, hx, h⟩ := Except.bind_eq_ok_iff.mp h
  obtain ⟨cs, hw, rfl⟩ := Except.map_eq_ok_iff.mp h
  exact ⟨head, cs, hx, hw, rfl⟩

end Change

namespace Render.Coupling

open Operand

variable {K : Coupling} {f : Expr → Expr}

theorem writeTable_coupled (e : Entity) : K.Coupled (writeTable e) (writeTable e) := by
  unfold writeTable
  refine .append ?_ (.identifier _)
  cases e.schema with
  | none => exact .nothing
  | some s => exact .append (.identifier s) (.text ".")

theorem namedTarget_coupled (name : String) (e : Entity) :
    K.Coupled (Statement.writeTarget name e) (Statement.writeTarget name e) := by
  refine .byRules (fun _ _ => rfl) fun r => ?_
  cases r.grammar with
  | sql => exact writeTable_coupled e
  | jpql | jdoql => exact .text _

theorem aboutTarget_coupled (target : Path) {v w : Writer} (h : K.Coupled v w) :
    K.Coupled (aboutTarget target v) (aboutTarget target w) := by
  intro c d hc
  obtain ⟨flattens, hr⟩ := K.rules_alike hc
  simp only [aboutTarget, hr, Rules.grammar_withFlattening]
  by_cases hg : d.rules.grammar = .jdoql
  · simp only [hg, ↓reduceIte]
    have hcand := K.candidate hc target
    rw [hr] at hcand
    exact h _ _ hcand
  · simp only [hg, ↓reduceIte]
    exact h c d hc

theorem writeFilter_coupled {o : Option Expr}
    (h : ∀ e ∈ o.toList, K.CoupledOperand e.operand (f e).operand) :
    K.Coupled (writeFilter o) (writeFilter (o.map f)) := by
  cases o with
  | none => exact .nothing
  | some e => exact clause_coupled _ (fun _ _ => rfl) (h e (by simp)).write

theorem writeAssigned_coupled (column : Path) {e e' : Expr}
    (h : K.CoupledOperand e.operand e'.operand) :
    K.Coupled (writeAssigned column e) (writeAssigned column e') :=
  fun _ _ hc => h.write _ _ (K.comparing hc column)

theorem writeValues_coupled (columns : List Path) {es : List Expr}
    (h : ∀ e ∈ es, K.CoupledOperand e.operand (f e).operand) :
    List.Forall₂ K.Coupled ((columns.zip es).map fun x => writeAssigned x.1 x.2)
      ((columns.zip (es.map f)).map fun x => writeAssigned x.1 x.2) := by
  induction columns generalizing es with
  | nil => exact .nil
  | cons p ps ih =>
    cases es with
    | nil => exact .nil
    | cons e es =>
      have hes : ∀ e' ∈ es, K.CoupledOperand e'.operand (f e').operand :=
        fun e' he' => h e' (List.mem_cons_of_mem e he')
      exact .cons (writeAssigned_coupled p (h e (by simp))) (ih hes)

theorem insert_coupled (i : Insert) (k : String) (e : Entity)
    (h : ∀ e ∈ i.values, K.CoupledOperand e.operand (f e).operand) :
    K.Coupled (i.write k e) (Insert.write { i with values := i.values.map f } k e) := by
  have hcolumns : K.Coupled (.separated ", " (i.columns.map fun p => .identifier p.name))
      (.separated ", " (i.columns.map fun p => .identifier p.name)) :=
    .separated ", " (forall₂_map_self fun p _ => .identifier p.name)
  have hvalues := Coupled.separated ", " (writeValues_coupled i.columns h)
  have htable := writeTable_coupled (K := K) e
  exact .append (.append (.append (.append (.append (.append (.append (.append (.text _) htable)
    (.text _)) hcolumns) (.text _)) .clauseBreak) (.rulesText _ fun _ _ => rfl)) hvalues) (.text _)

theorem update_coupled (u : Update) (k : String) (e : Entity)
    (ha : ∀ a ∈ u.assignments, K.CoupledOperand a.2.operand (f a.2).operand)
    (hf : ∀ e ∈ u.filter.toList, K.CoupledOperand e.operand (f e).operand) :
    K.Coupled (u.write k e)
      (Update.write
        { u with assignments := u.assignments.map fun a => (a.1, f a.2), filter := u.filter.map f }
        k e) := by
  have hassigned : K.Coupled (.separated ", " (u.assignments.map Update.writeAssignment))
      (.separated ", " ((u.assignments.map fun a => (a.1, f a.2)).map Update.writeAssignment)) := by
    rw [List.map_map]
    refine .separated ", " (forall₂_map_self fun a hm => ?_)
    exact .append (.append (fun c d hc => K.path hc a.1) (.text " = "))
      (writeAssigned_coupled a.1 (ha a hm))
  exact .append (.append (.text _) (namedTarget_coupled _ e))
    (aboutTarget_coupled u.target (.append (clause_coupled _ (fun _ _ => rfl) hassigned) (writeFilter_coupled hf)))

theorem delete_coupled (d : Delete) (e : Entity)
    (h : ∀ e ∈ d.filter.toList, K.CoupledOperand e.operand (f e).operand) :
    K.Coupled (d.write e) (Delete.write { d with filter := d.filter.map f } e) :=
  .append (.append (.rulesText _ fun _ _ => rfl) (namedTarget_coupled _ e))
    (aboutTarget_coupled d.target (writeFilter_coupled h))

theorem change_coupled (ch : Change) (head : String × Entity)
    (h : ∀ e ∈ ch.exprs, K.CoupledOperand e.operand (f e).operand) :
    K.Coupled (ch.write head) ((ch.mapExprs f).write head) := by
  cases ch with
  | insert i => exact insert_coupled i head.1 head.2 h
  | update u =>
    refine update_coupled u head.1 head.2 (fun a ha => h a.2 ?_) fun e he => h e ?_
    · exact List.mem_append_left _ (List.mem_map_of_mem ha)
    · exact List.mem_append_right _ he
  | delete d => exact delete_coupled d head.2 h

end Render.Coupling

end QueryText
