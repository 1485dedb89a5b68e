import Mathlib.Data.List.TakeWhile
import QueryText.Query.Builder

namespace QueryText

namespace Expr

def conjunction? : List Expr → Option Expr
  | [] => none
  | e :: es => some (es.foldl Expr.and e)

end Expr

namespace Condition

def extend (c : Condition) (es : List Expr) : Condition :=
  es.foldl (fun c e => some (Expr.conjoin c e)) c

theorem extend_append (c : Condition) (es es' : List Expr) :
    extend c (es ++ es') = extend (extend c es) es' :=
  List.foldl_append

theorem extend_some (e : Expr) (es : List Expr) :
    extend (some e) es = some (es.foldl Expr.and e) := by
  induction es generalizing e with
  | nil => rfl
  | cons e' es ih => exact ih (e.and e')

theorem extend_none (es : List Expr) : extend none es = Expr.conjunction? es := by
  cases es with
  | nil => rfl
  | cons e es => exact extend_some e es

theorem extend_conjunction? (es es' : List Expr) :
    extend (Expr.conjunction? es) es' = Expr.conjunction? (es ++ es') := by
  rw [← extend_none, ← extend_append, extend_none]

end Condition

end QueryText

namespace QueryText.Query

open AnyPath

inductive Call where
  | sources (targets : List Expr)
  | join (kind : JoinKind) (target : Expr)
  | joinAs (kind : JoinKind) (target element : Path)
  | joinWhen (kind : JoinKind) (target : Expr) (c : Condition)
  | when (cs : List Condition)
  | flag (f : JoinFlag)
  | filter (cs : List Condition)
  | having (cs : List Condition)
  | groupBy (es : List Expr)
  | orderBy (os : List (Order Expr))
  | project (es : List Expr)
  | distinct
  | unique
  | limit (n : UInt64)
  | offset (n : UInt64)
  | restrict (w : Window)
  | bind (p : Param) (v : Value)

namespace Call

def perform (b : Builder) : Call → Step
  | sources ts => ⟨b.sources ts, [], none⟩
  | join k t => ⟨b.join k t, [], none⟩
  | joinAs k t v => ⟨b.joinAs k t v, [], none⟩
  | joinWhen k t c => b.joinWhen k t c
  | when cs => b.when cs
  | flag f => b.addFlag f
  | filter cs => b.filter cs
  | having cs => b.having cs
  | groupBy es => ⟨b.groupBy es, [], none⟩
  | orderBy os => ⟨b.orderBy os, [], none⟩
  | project es => ⟨b.project es, [], none⟩
  | distinct => ⟨b.distinct, [], none⟩
  | unique => ⟨b.unique, [], none⟩
  | limit n => ⟨b.limit n, [], none⟩
  | offset n => ⟨b.offset n, [], none⟩
  | restrict w => ⟨b.restrict w, [], none⟩
  | bind p v => ⟨b.bind p v, [], none⟩

def conditions : Call → List Condition
  | joinWhen _ _ c => [c]
  | when cs | filter cs | having cs => cs
  | _ => []

end Call

/-- The builder behind the calls, whether they are refused or not. -/
def Builder.after (b : Builder) (calls : List Call) : Builder :=
  calls.foldl (fun b c => (c.perform b).builder) b

end QueryText.Query

namespace QueryText.Join

variable {α : Type}

/-- What is joined and how, whatever the condition and the flags. -/
def joined (j : Join α) : JoinKind × α :=
  (j.kind, j.target)

end QueryText.Join

namespace QueryText.Select

variable {q : Select Expr} {before after : List (Join Expr)} {j : Join Expr}

theorem modifyCurrent?_eq (f : Join Expr → Join Expr) (hjoins : q.joins = before ++ j :: after)
    (hcurrent : q.current = some before.length) :
    q.modifyCurrent? f = some { q with joins := before ++ f j :: after } := by
  simp [modifyCurrent?, hjoins, hcurrent]

theorem insertBeforeCurrent_eq (js : List (Join Expr)) (hjoins : q.joins = before ++ j :: after)
    (hcurrent : q.current = some before.length) :
    q.insertBeforeCurrent js =
      .ok { q with joins := before ++ js ++ j :: after, current := some (before ++ js).length } := by
  simp [insertBeforeCurrent, insertBeforeCurrent?, orNoJoin, hjoins, hcurrent]

theorem addJoinCondition_eq (e : Expr) (hjoins : q.joins = before ++ j :: after)
    (hcurrent : q.current = some before.length) :
    q.addJoinCondition e = .ok { q with joins := before ++ j.addCondition e :: after } := by
  rw [addJoinCondition, modifyCurrent?_eq _ hjoins hcurrent, orNoJoin]

theorem addJoinFlag_eq (f : JoinFlag) (hjoins : q.joins = before ++ j :: after)
    (hcurrent : q.current = some before.length) :
    q.addJoinFlag f = .ok { q with joins := before ++ j.addFlag f :: after } := by
  rw [addJoinFlag, modifyCurrent?_eq _ hjoins hcurrent, orNoJoin]

theorem insertBeforeCurrent_addJoinCondition_eq (js : List (Join Expr)) (e : Expr)
    (hjoins : q.joins = before ++ j :: after) (hcurrent : q.current = some before.length) :
    (q.insertBeforeCurrent js >>= (·.addJoinCondition e)) =
      .ok { q with
        joins := before ++ js ++ j.addCondition e :: after
        current := some (before ++ js).length } := by
  rw [insertBeforeCurrent_eq js hjoins hcurrent]
  exact addJoinCondition_eq e rfl rfl

theorem foldl_joins {β : Type} {f : Select Expr → β → Select Expr}
    (h : ∀ q x, (f q x).joins = q.joins ∧ (f q x).current = q.current) (xs : List β)
    (q : Select Expr) :
    (xs.foldl f q).joins = q.joins ∧ (xs.foldl f q).current = q.current := by
  induction xs generalizing q with
  | nil => exact ⟨rfl, rfl⟩
  | cons x xs ih =>
    obtain ⟨hjoins, hcurrent⟩ := ih (f q x)
    exact ⟨hjoins.trans (h q x).1, hcurrent.trans (h q x).2⟩

end QueryText.Select

namespace QueryText.Query

open AnyPath

theorem map_join_replaced (ns : List Normalized) :
    (ns.flatMap (·.replaced)).map (·.join) = ns.flatMap (·.joins) :=
  List.map_flatMap

namespace Builder

/-- The nodes that are replaced in the conditions, up to the first one that is refused as a condition
on the target. -/
def replaced (target? : Option Expr) (b : Builder) : List Condition → List Replacement
  | [] => []
  | none :: cs => b.replaced target? cs
  | some e :: cs =>
    let n := b.normalized e
    match target?.bind (selfReference? · n) with
    | some _ => []
    | none => n.replaced ++ { b with nextElement := n.next }.replaced target? cs

theorem normalized_mk (b : Builder) (q : Select Expr) (e : Expr) :
    Builder.normalized ⟨q, b.normalizing, b.nextElement⟩ e = b.normalized e :=
  rfl

def normalizedAll (b : Builder) : List Condition → List Normalized
  | [] => []
  | none :: cs => b.normalizedAll cs
  | some e :: cs =>
    let n := b.normalized e
    n :: { b with nextElement := n.next }.normalizedAll cs

/-- Those in front of the first one that is refused as a condition on the target. -/
def accepted (b : Builder) (target : Expr) (cs : List Condition) : List Normalized :=
  (b.normalizedAll cs).takeWhile fun n => (selfReference? target n).isNone

theorem accepted_refused (b : Builder) {target e : Expr} (cs : List Condition)
    {refusal : QueryError} (h : selfReference? target (b.normalized e) = some refusal) :
    b.accepted target (some e :: cs) = [] := by
  simp [accepted, normalizedAll, h]

theorem accepted_cons (b : Builder) {target e : Expr} (cs : List Condition)
    (h : selfReference? target (b.normalized e) = none) :
    b.accepted target (some e :: cs) =
      b.normalized e :: { b with nextElement := (b.normalized e).next }.accepted target cs := by
  simp [accepted, normalizedAll, h]

theorem accepted_eq_normalizedAll {b : Builder} {target : Expr} {cs : List Condition}
    (h : (b.normalizedAll cs).findSome? (selfReference? target) = none) :
    b.accepted target cs = b.normalizedAll cs := by
  refine List.takeWhile_eq_self_iff.mpr fun n hn => ?_
  rw [List.findSome?_eq_none_iff.mp h n hn]
  rfl

theorem replaced_none (b : Builder) (cs : List Condition) :
    b.replaced none cs = (b.normalizedAll cs).flatMap (·.replaced) := by
  induction cs generalizing b with
  | nil => rfl
  | cons c cs ih =>
    cases c with
    | none => exact ih b
    | some e => simp [replaced, normalizedAll, ih]

theorem replaced_some (b : Builder) (target : Expr) (cs : List Condition) :
    b.replaced (some target) cs = (b.accepted target cs).flatMap (·.replaced) := by
  induction cs generalizing b with
  | nil => rfl
  | cons c cs ih =>
    cases c with
    | none => exact ih b
    | some e =>
      cases hr : selfReference? target (b.normalized e) with
      | some refusal => simp [replaced, hr, accepted_refused b cs hr]
      | none => simp [replaced, hr, accepted_cons b cs hr, ih]

theorem addConditions_select (add : Select Expr → Expr → Select Expr) (cs : List Condition)
    (b : Builder) (q : Select Expr) :
    ({ b with select := q }.addConditions add cs).builder.select =
      (b.normalizedAll cs).foldl (fun q n => add (q.addSyntheticJoins n.joins) n.condition) q := by
  induction cs generalizing b q with
  | nil => rfl
  | cons c cs ih =>
    cases c with
    | none => exact ih b q
    | some e => exact ih { b with nextElement := (b.normalized e).next } _

theorem filter_select (b : Builder) (cs : List Condition) :
    (b.filter cs).builder.select =
      { b.select with
        joins := b.select.joins ++ (b.normalizedAll cs).flatMap (·.joins)
        filter := Condition.extend b.select.filter ((b.normalizedAll cs).map (·.condition)) } := by
  refine (addConditions_select .addFilter cs b b.select).trans ?_
  generalize b.select = q
  induction b.normalizedAll cs generalizing q with
  | nil => simp [Condition.extend]
  | cons n ns ih =>
    rw [List.foldl_cons, ih]
    simp [Select.addFilter, Select.addSyntheticJoins, Condition.extend]

theorem having_select (b : Builder) (cs : List Condition) :
    (b.having cs).builder.select =
      { b.select with
        joins := b.select.joins ++ (b.normalizedAll cs).flatMap (·.joins)
        having := Condition.extend b.select.having ((b.normalizedAll cs).map (·.condition)) } := by
  refine (addConditions_select .addHaving cs b b.select).trans ?_
  generalize b.select = q
  induction b.normalizedAll cs generalizing q with
  | nil => simp [Condition.extend]
  | cons n ns ih =>
    rw [List.foldl_cons, ih]
    simp [Select.addHaving, Select.addSyntheticJoins, Condition.extend]

section Current

variable {target : Expr} {b : Builder} {q : Select Expr}
variable {before after : List (Join Expr)} {j : Join Expr}

theorem joinCondition_refused {e : Expr} {refusal : QueryError}
    (h : selfReference? target (b.normalized e) = some refusal) :
    b.joinCondition target e =
      let n := b.normalized e
      ⟨{ b with nextElement := n.next }, normalizedEvents n, some refusal⟩ := by
  simp only [joinCondition, h]

theorem joinCondition_accepted {e : Expr} (h : selfReference? target (b.normalized e) = none)
    (hjoins : b.select.joins = before ++ j :: after)
    (hcurrent : b.select.current = some before.length) :
    b.joinCondition target e =
      let n := b.normalized e
      let q := { b.select with
        joins := before ++ n.joins ++ j.addCondition n.condition :: after
        current := some (before ++ n.joins).length }
      ⟨{ b with select := q, nextElement := n.next }, normalizedEvents n, none⟩ := by
  simp only [joinCondition, h, attempt,
    Select.insertBeforeCurrent_addJoinCondition_eq _ _ hjoins hcurrent]

theorem joinConditions_refused {e : Expr} (cs : List Condition) {refusal : QueryError}
    (h : selfReference? target (b.normalized e) = some refusal) :
    { b with select := q }.joinConditions target (some e :: cs) =
      let n := b.normalized e
      ⟨{ b with select := q, nextElement := n.next }, normalizedEvents n, some refusal⟩ := by
  simp only [joinConditions, joinCondition_refused (b := { b with select := q }) h, normalized_mk]

theorem joinConditions_accepted {e : Expr} (cs : List Condition)
    (h : selfReference? target (b.normalized e) = none)
    (hjoins : q.joins = before ++ j :: after) (hcurrent : q.current = some before.length) :
    { b with select := q }.joinConditions target (some e :: cs) =
      let n := b.normalized e
      let q' := { q with
        joins := before ++ n.joins ++ j.addCondition n.condition :: after
        current := some (before ++ n.joins).length }
      let rest := { b with select := q', nextElement := n.next }.joinConditions target cs
      { rest with events := normalizedEvents n ++ rest.events } := by
  simp only [joinConditions, joinCondition_accepted (b := { b with select := q }) h hjoins hcurrent,
    normalized_mk]

theorem joinConditions_select (target : Expr) (cs : List Condition)
    (hjoins : q.joins = before ++ j :: after) (hcurrent : q.current = some before.length) :
    ({ b with select := q }.joinConditions target cs).builder.select =
      let ns := b.accepted target cs
      let js := before ++ ns.flatMap (·.joins)
      let j' := { j with condition := Condition.extend j.condition (ns.map (·.condition)) }
      { q with
        joins := js ++ j' :: after
        current := some js.length } := by
  induction cs generalizing b q before j with
  | nil => simp [joinConditions, accepted, normalizedAll, Condition.extend, ← hjoins, ← hcurrent]
  | cons c cs ih =>
    cases c with
    | none => exact ih hjoins hcurrent
    | some e =>
      cases hr : selfReference? target (b.normalized e) with
      | some refusal =>
        rw [joinConditions_refused cs hr]
        simp [accepted_refused b cs hr, Condition.extend, ← hjoins, ← hcurrent]
      | none =>
        rw [joinConditions_accepted cs hr hjoins hcurrent]
        refine (ih (b := { b with nextElement := (b.normalized e).next }) rfl rfl).trans ?_
        simp [accepted_cons b cs hr, Join.addCondition, Condition.extend]

theorem joinConditions_refusal (target : Expr) (cs : List Condition)
    (hjoins : q.joins = before ++ j :: after) (hcurrent : q.current = some before.length) :
    ({ b with select := q }.joinConditions target cs).refusal =
      (b.normalizedAll cs).findSome? (selfReference? target) := by
  induction cs generalizing b q before j with
  | nil => rfl
  | cons c cs ih =>
    cases c with
    | none => exact ih hjoins hcurrent
    | some e =>
      cases hr : selfReference? target (b.normalized e) with
      | some refusal =>
        rw [joinConditions_refused cs hr]
        simp [normalizedAll, hr]
      | none =>
        rw [joinConditions_accepted cs hr hjoins hcurrent]
        refine (ih (b := { b with nextElement := (b.normalized e).next }) rfl rfl).trans ?_
        simp [normalizedAll, hr]

theorem accepted_of_not_refused {target : Expr} {cs : List Condition}
    (hjoins : b.select.joins = before ++ j :: after)
    (hcurrent : b.select.current = some before.length)
    (h : (b.joinConditions target cs).refusal = none) :
    b.accepted target cs = b.normalizedAll cs := by
  rw [joinConditions_refusal (b := b) (q := b.select) target cs hjoins hcurrent] at h
  exact accepted_eq_normalizedAll h

end Current

theorem joinWhen_refusal (b : Builder) (k : JoinKind) (t : Expr) (c : Condition) :
    (b.joinWhen k t c).refusal = (b.normalizedAll [c]).findSome? (selfReference? t) := by
  cases c with
  | none => rfl
  | some e => cases hr : selfReference? t (b.normalized e) <;> simp [joinWhen, normalizedAll, hr]

theorem joinWhen_refused {b : Builder} {k : JoinKind} {t : Expr} {c : Condition}
    {refusal : QueryError} (h : (b.joinWhen k t c).refusal = some refusal) :
    (b.joinWhen k t c).builder.select = b.select := by
  cases c with
  | none => cases h
  | some e =>
    cases hr : selfReference? t (b.normalized e) with
    | some _ => simp [joinWhen, hr]
    | none => simp [joinWhen, hr] at h

theorem replaced_of_not_refused {b : Builder} {k : JoinKind} {t : Expr} {c : Condition}
    (h : (b.joinWhen k t c).refusal = none) :
    b.replaced (some t) [c] = (b.normalizedAll [c]).flatMap (·.replaced) := by
  rw [joinWhen_refusal] at h
  rw [replaced_some, accepted_eq_normalizedAll h]

theorem joinWhen_select {b : Builder} {k : JoinKind} {t : Expr} {c : Condition}
    (h : (b.joinWhen k t c).refusal = none) :
    (b.joinWhen k t c).builder.select =
      let ns := b.normalizedAll [c]
      (b.select.addSyntheticJoins (ns.flatMap (·.joins))).addJoin
        ⟨k, t, Expr.conjunction? (ns.map (·.condition)), []⟩ := by
  cases c with
  | none =>
    simp [joinWhen, join, modify, normalizedAll, Select.addSyntheticJoins, Join.of,
      Expr.conjunction?]
  | some e =>
    cases hr : selfReference? t (b.normalized e) with
    | some _ => simp [joinWhen, hr] at h
    | none =>
      simp [joinWhen, hr, modify, normalizedAll, Join.of, Join.addCondition, Expr.conjunction?,
        Expr.conjoin]

end Builder

end QueryText.Query
