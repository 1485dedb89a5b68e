import QueryText.Proofs.Coupling.Operand
import QueryText.Proofs.Operands
import QueryText.Proofs.Reading.Notation

namespace QueryText

namespace Expr

def isLeaf : Expr → Bool
  | path _ | constant _ | param _ => true
  | _ => false

theorem head_ne_operation {e : Expr} (h : e.isLeaf) (op : Operator) : e.head ≠ .operation op := by
  cases e <;> simp_all [isLeaf, head]

end Expr

namespace Reading

open Render

/-- A stretch of text, or an operand that is not looked into. -/
inductive Item where
  | text (t : List Char)
  | atom (e : Expr)

def textItems : List Char → List Item
  | [] => []
  | c :: t => [.text (c :: t)]

def groupedItems (b : Bool) (items : List Item) : List Item :=
  if b then .text ['('] :: items ++ [.text [')']] else items

def Notation.groups (x : Notation) (r : Rules) (i : Nat) (h : Hole) (e : Expr) : Bool :=
  Operand.needsParentheses r x.op x.rank i h.enclosed e

mutual

/-- What is written of the expression. -/
def layout (r : Rules) : Expr → List Item
  | .operation op args =>
    match notation? r op with
    | some x => textItems x.lead ++ layoutFrom r x 0 x.holes args
    | none => []
  | e => [.atom e]

def layoutFrom (r : Rules) (x : Notation) (i : Nat) : List Hole → List Expr → List Item
  | h :: hs, e :: es =>
    groupedItems (x.groups r i h e) (layout r e) ++ (textItems h.after ++ layoutFrom r x (i + 1) hs es)
  | _, _ => []

end

structure Atom (c : Context) (e : Expr) : Prop where
  leaf : e.isLeaf
  written : ∃ cs, e.write c = .ok cs
  nonempty : Operand.isEmptyList c e = false

/-- An expression of operations over atoms. -/
inductive Plain (c : Context) : Expr → Prop where
  | atom {e : Expr} (h : Atom c e) : Plain c e
  | operation {op : Operator} {args : List Expr} (hop : op ∈ readOperators)
      (hlen : args.length = op.arity) (hargs : ∀ e ∈ args, Plain c e) : Plain c (.operation op args)

theorem plain_operation_iff {c : Context} {op : Operator} {args : List Expr} :
    Plain c (.operation op args) ↔
      op ∈ readOperators ∧ args.length = op.arity ∧ ∀ e ∈ args, Plain c e := by
  constructor
  · intro h
    cases h with
    | atom h => exact absurd rfl (Expr.head_ne_operation h.leaf op)
    | operation hop hlen hargs => exact ⟨hop, hlen, hargs⟩
  · rintro ⟨hop, hlen, hargs⟩
    exact .operation hop hlen hargs

theorem layout_of_leaf (r : Rules) {e : Expr} (h : e.isLeaf) : layout r e = [.atom e] := by
  cases e with
  | operation op args => exact absurd rfl (Expr.head_ne_operation h op)
  | _ => rfl

theorem layout_operation (r : Rules) {op : Operator} {x : Notation} (h : notation? r op = some x)
    (args : List Expr) :
    layout r (.operation op args) = textItems x.lead ++ layoutFrom r x 0 x.holes args := by
  rw [layout, h]

end Reading

end QueryText
