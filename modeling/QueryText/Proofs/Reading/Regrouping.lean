import Mathlib.Logic.Relation
import QueryText.Proofs.Reading.Layout
import QueryText.Proofs.Reading.Table

namespace QueryText.Reading

open Render

/-- Two operations of one associative operator are grouped the other way, somewhere in the expression. -/
inductive Regroup (r : Rules) : Expr → Expr → Prop where
  | rotate {op : Operator} (hop : regroups r op) (a b c : Expr) :
      Regroup r (.operation op [a, .operation op [b, c]]) (.operation op [.operation op [a, b], c])
  | operand (op : Operator) (before after : List Expr) {a b : Expr} (h : Regroup r a b) :
      Regroup r (.operation op (before ++ a :: after)) (.operation op (before ++ b :: after))

def Regrouped (r : Rules) : Expr → Expr → Prop :=
  Relation.EqvGen (Regroup r)

variable {r : Rules} {a b : Expr}

theorem mem_readOperators {op : Operator} (h : op.isAssociative) : op ∈ readOperators := by
  cases op <;> first | decide | simp [Operator.isAssociative] at h

theorem arity_eq_two {op : Operator} (h : op.isAssociative) : op.arity = 2 := by
  cases op <;> first | rfl | simp [Operator.isAssociative] at h

namespace Regroup

theorem head_eq (h : Regroup r a b) : a.head = b.head := by
  cases h <;> rfl

theorem layoutFrom_eq (x : Notation) (hs : List Hole) (i : Nat) (before after : List Expr)
    (hhead : a.head = b.head) (h : layout r a = layout r b) :
    layoutFrom r x i hs (before ++ a :: after) = layoutFrom r x i hs (before ++ b :: after) := by
  induction before generalizing i hs with
  | nil =>
    cases hs with
    | nil => rfl
    | cons hole hs =>
      have hg : x.groups r i hole a = x.groups r i hole b := needsParentheses_eq_of_head_eq hhead ..
      rw [List.nil_append, List.nil_append, layoutFrom, layoutFrom, h, hg]
  | cons e es ih =>
    cases hs with
    | nil => rfl
    | cons hole hs => rw [List.cons_append, List.cons_append, layoutFrom, layoutFrom, ih]

theorem groups_eq_false {op : Operator} {x : Notation} (hassoc : op.isAssociative)
    (hx : notation? r op = some x) (i : Nat) (s : List Char) (es : List Expr) :
    x.groups r i ⟨false, s⟩ (.operation op es) = false := by
  obtain ⟨rfl, hrank⟩ := of_notation?_eq_some hx
  have hnot : x.op ≠ .not := by
    intro h
    simp [h, Operator.isAssociative] at hassoc
  simp only [Notation.groups, Operand.needsParentheses, hrank]
  cases x.rank <;> simp [Expr.isAtomic, hnot, hassoc]

theorem groups_eq {x : Notation} (hassoc : x.op.isAssociative) (i j : Nat) (s t : List Char) (e : Expr) :
    x.groups r i ⟨false, s⟩ e = x.groups r j ⟨false, t⟩ e := by
  cases e <;> simp [Notation.groups, Operand.needsParentheses, hassoc]

def side (r : Rules) (x : Notation) (e : Expr) : List Item :=
  groupedItems (x.groups r 0 ⟨false, []⟩ e) (layout r e)

theorem layout_sides {op : Operator} {x : Notation} (hassoc : op.isAssociative)
    (hx : notation? r op = some x) (hlead : x.lead = [])
    (hholes : x.holes = [⟨false, x.led⟩, ⟨false, []⟩]) (a b : Expr) :
    layout r (.operation op [a, b]) = side r x a ++ textItems x.led ++ side r x b := by
  obtain ⟨rfl, -⟩ := of_notation?_eq_some hx
  rw [layout_operation r hx, hlead, hholes, layoutFrom, layoutFrom, groups_eq hassoc 0 0 x.led [],
    groups_eq hassoc (0 + 1) 0 [] []]
  simp [side, textItems, layoutFrom]

theorem side_operation {op : Operator} {x : Notation} (hassoc : op.isAssociative)
    (hx : notation? r op = some x) (es : List Expr) :
    side r x (.operation op es) = layout r (.operation op es) := by
  rw [side, groups_eq_false hassoc hx]
  rfl

theorem layout_eq (hr : Readable r) (h : Regroup r a b) : layout r a = layout r b := by
  induction h with
  | @rotate op hop a b c =>
    have hassoc := isAssociative_of_regroups hop
    obtain ⟨x, hx, hlead, hholes⟩ := hr.regrouped op (mem_readOperators hassoc) hop
    have hsides := layout_sides hassoc hx hlead hholes
    rw [hsides, hsides, side_operation hassoc hx, side_operation hassoc hx, hsides, hsides]
    simp only [List.append_assoc]
  | operand op before after h ih =>
    cases hx : notation? r op with
    | none => rw [layout, layout, hx]
    | some x =>
      rw [layout_operation r hx, layout_operation r hx, layoutFrom_eq x x.holes 0 before after h.head_eq ih]

theorem plain_iff {c : Context} (h : Regroup r a b) : Plain c a ↔ Plain c b := by
  induction h with
  | rotate hop a b d =>
    simp only [plain_operation_iff, List.forall_mem_cons, List.length_cons, List.length_nil]
    tauto
  | operand op before after h ih =>
    simp only [plain_operation_iff, List.forall_mem_append, List.forall_mem_cons, List.length_append,
      List.length_cons, ih]

end Regroup

namespace Regrouped

theorem refl (e : Expr) : Regrouped r e e :=
  Relation.EqvGen.refl e

theorem symm (h : Regrouped r a b) : Regrouped r b a :=
  Relation.EqvGen.symm _ _ h

theorem trans {d : Expr} (h : Regrouped r a b) (h' : Regrouped r b d) : Regrouped r a d :=
  Relation.EqvGen.trans _ _ _ h h'

theorem layout_eq (hr : Readable r) (h : Regrouped r a b) : layout r a = layout r b := by
  induction h with
  | rel _ _ h => exact h.layout_eq hr
  | refl => rfl
  | symm _ _ _ ih => exact ih.symm
  | trans _ _ _ _ _ ih ih' => exact ih.trans ih'

theorem plain_iff {c : Context} (h : Regrouped r a b) : Plain c a ↔ Plain c b := by
  induction h with
  | rel _ _ h => exact h.plain_iff
  | refl => exact Iff.rfl
  | symm _ _ _ ih => exact ih.symm
  | trans _ _ _ _ _ ih ih' => exact ih.trans ih'

theorem operand (op : Operator) (before after : List Expr) (h : Regrouped r a b) :
    Regrouped r (.operation op (before ++ a :: after)) (.operation op (before ++ b :: after)) := by
  induction h with
  | rel _ _ h => exact .rel _ _ (.operand op before after h)
  | refl => exact .refl _
  | symm _ _ _ ih => exact ih.symm
  | trans _ _ _ _ _ ih ih' => exact ih.trans ih'

theorem operands (op : Operator) (before : List Expr) {as bs : List Expr}
    (h : List.Forall₂ (Regrouped r) as bs) :
    Regrouped r (.operation op (before ++ as)) (.operation op (before ++ bs)) := by
  induction h generalizing before with
  | nil => exact refl _
  | @cons a b as bs h hs ih =>
    have hrest := ih (before ++ [b])
    rw [List.append_assoc, List.append_assoc, List.singleton_append, List.singleton_append] at hrest
    exact (operand op before as h).trans hrest

end Regrouped

/-- An expression of operations over atoms, where no operator that can be regrouped has an operation of
its own on the right. -/
inductive Leaning (c : Context) : Expr → Prop where
  | atom {e : Expr} (h : Atom c e) : Leaning c e
  | operation {op : Operator} {args : List Expr} (hop : op ∈ readOperators)
      (hlen : args.length = op.arity) (hargs : ∀ e ∈ args, Leaning c e)
      (hright : regroups c.rules op → ∀ e ∈ args.tail, e.head ≠ .operation op) :
      Leaning c (.operation op args)

namespace Leaning

variable {c : Context}

theorem plain {e : Expr} (h : Leaning c e) : Plain c e := by
  induction h with
  | atom h => exact .atom h
  | operation hop hlen _ _ ih => exact .operation hop hlen ih

theorem pair {op : Operator} (hop : regroups c.rules op) {a b : Expr} (ha : Leaning c a) (hb : Leaning c b)
    (hright : b.head ≠ .operation op) : Leaning c (.operation op [a, b]) := by
  have hassoc := isAssociative_of_regroups hop
  refine .operation (mem_readOperators hassoc) (arity_eq_two hassoc).symm ?_ ?_
  · simp [ha, hb]
  · intro _
    simpa using hright

theorem exists_of_pair {op : Operator} (hop : regroups c.rules op) {a b : Expr} (ha : Leaning c a)
    (hb : Leaning c b) : ∃ n, Leaning c n ∧ Regrouped c.rules (.operation op [a, b]) n := by
  induction hb with
  | atom h => exact ⟨_, pair hop ha (.atom h) (Expr.head_ne_operation h.leaf op), .refl _⟩
  | @operation op' args hop' hlen hargs hright ih =>
    by_cases heq : op' = op
    · subst heq
      have hassoc := isAssociative_of_regroups hop
      obtain ⟨x, y, rfl⟩ := List.length_eq_two.mp (hlen.trans (arity_eq_two hassoc))
      obtain ⟨n, hn, hax⟩ := ih x (by simp)
      have hy : y.head ≠ .operation op' := hright hop y (by simp)
      refine ⟨_, pair hop hn (hargs y (by simp)) hy, ?_⟩
      have hrotate : Regrouped c.rules _ _ := .rel _ _ (.rotate hop a x y)
      exact hrotate.trans (Regrouped.operand op' [] [y] hax)
    · refine ⟨_, pair hop ha (.operation hop' hlen hargs hright) ?_, .refl _⟩
      simpa [Expr.head] using heq

theorem exists_of_all {es : List Expr} (h : ∀ e ∈ es, ∃ n, Leaning c n ∧ Regrouped c.rules e n) :
    ∃ ns, (∀ n ∈ ns, Leaning c n) ∧ List.Forall₂ (Regrouped c.rules) es ns := by
  induction es with
  | nil => exact ⟨[], by simp, .nil⟩
  | cons e es ih =>
    obtain ⟨n, hn, he⟩ := h e (by simp)
    obtain ⟨ns, hns, hes⟩ := ih fun f hf => h f (by simp [hf])
    exact ⟨n :: ns, by simpa using ⟨hn, hns⟩, .cons he hes⟩

end Leaning

theorem Plain.exists_leaning {c : Context} {e : Expr} (h : Plain c e) :
    ∃ n, Leaning c n ∧ Regrouped c.rules e n := by
  induction h with
  | atom h => exact ⟨_, .atom h, .refl _⟩
  | @operation op args hop hlen hargs ih =>
    obtain ⟨ns, hns, hall⟩ := Leaning.exists_of_all ih
    have hregrouped := Regrouped.operands op [] hall
    have hlen' : ns.length = op.arity := hall.length_eq.symm.trans hlen
    by_cases hop' : regroups c.rules op
    · have hassoc := isAssociative_of_regroups hop'
      obtain ⟨a, b, rfl⟩ := List.length_eq_two.mp (hlen'.trans (arity_eq_two hassoc))
      obtain ⟨n, hn, hab⟩ := Leaning.exists_of_pair hop' (hns a (by simp)) (hns b (by simp))
      exact ⟨n, hn, hregrouped.trans hab⟩
    · exact ⟨_, .operation hop hlen' hns fun h => absurd h hop', hregrouped⟩

end QueryText.Reading
