import QueryText.Proofs.Comparing.Ambient
import QueryText.Proofs.Counting.Heads
import QueryText.Proofs.Deferral

namespace QueryText

open Render

/-- Among those maps, further ones around them change nothing about the value of a parameter. -/
def Node.Settled (outer : List ParamMap) (n : Node) : Prop :=
  ∀ p, n.expr = .param p → innermost (n.scopes ++ outer) p = innermost n.scopes p

/-- No query around it gives a value to a parameter that the query leaves open. -/
def Select.SettledIn (outer : List ParamMap) (q : Select Expr) : Prop :=
  ∀ n ∈ Expr.nodesOfSelect [] q, n.Settled outer

theorem Select.settledIn_unbound {outer : List ParamMap} (h : ∀ m ∈ outer, ∀ p, m.get? p = none)
    (q : Select Expr) : q.SettledIn outer := by
  intro n _ p _
  have houter : innermost outer p = none := List.findSome?_eq_none_iff.mpr fun m hm => h m hm p
  simp only [innermost] at houter ⊢
  rw [List.findSome?_append, houter, Option.or_none]

namespace Render

open Operand

def slotsOf (x : Except QueryError (List Chunk)) : Except QueryError (List Binding × List (Option Path)) :=
  x.map fun cs => (Chunk.bindings cs, Chunk.paths cs)

theorem slotsOf_joined {x y x' y' : Except QueryError (List Chunk)} (h : slotsOf x = slotsOf y)
    (h' : slotsOf x' = slotsOf y') : slotsOf (joined x x') = slotsOf (joined y y') := by
  cases x with
  | error e =>
    cases y with
    | error e' => exact h
    | ok ys => cases h
  | ok xs =>
    cases y with
    | error e => cases h
    | ok ys =>
      cases x' with
      | error e =>
        cases y' with
        | error e' => exact h'
        | ok ys' => cases h'
      | ok xs' =>
        cases y' with
        | error e => cases h'
        | ok ys' =>
          simp only [slotsOf, Except.map, Except.ok.injEq, Prod.mk.injEq] at h h'
          simp [slotsOf, Except.map, h, h']

theorem slotsOf_texts (texts : List String) : slotsOf (.ok (Chunk.ofTexts texts)) = .ok ([], []) := by
  simp [slotsOf, Except.map]

/-- Contexts that differ in the names of sources, and in the values that come from further outside. -/
structure AloneContexts (outer scopes : List ParamMap) (c d : Context) : Prop where
  known : c.scopes = scopes
  eq : d = { c with
    scopes := scopes ++ outer, candidate := d.candidate, bareColumns := d.bareColumns, nested := d.nested }

def aloneCoupling (outer scopes : List ParamMap) : Coupling where
  contexts := AloneContexts outer scopes
  results x y := slotsOf x = slotsOf y
  renames := True
  rules_alike {c _} h := ⟨c.rules.flattensLists, by rw [h.eq]; rfl⟩
  nested_cases _ := .inr trivial
  renamed _ ss ts := (slotsOf_texts ss).trans (slotsOf_texts ts).symm
  recalled _ _ _ hc _ _ := ⟨hc.known, by rw [hc.eq]⟩
  comparing h p := ⟨h.known, by rw [h.eq]⟩
  candidate h p := ⟨h.known, by rw [h.eq]⟩
  nothing := rfl
  text _ := rfl
  fail _ _ := rfl
  join h h' := slotsOf_joined h h'
  path {c d} h p := by
    have hm : c.mode = d.mode := by rw [h.eq]
    have hr : c.rules = d.rules := by rw [h.eq]
    simp only [writePath, hm, hr]
    split <;> rfl
  wildcards := True
  wildcardText h _ s := by
    rw [h.eq]
    rfl

variable {outer scopes : List ParamMap} {c d : Context}

theorem AloneContexts.writeValue (h : AloneContexts outer scopes c d) (v : Value) :
    writeValue v c = writeValue v d := by
  rw [h.eq]
  simp only [Operand.writeValue, slots_eq]

theorem AloneContexts.resolve (h : AloneContexts outer scopes c d) {p : Param}
    (hp : Node.Settled outer ⟨scopes, .param p⟩) : c.resolve p = d.resolve p := by
  rw [h.eq]
  exact (congrArg (innermost · p) h.known).trans (hp p rfl).symm

theorem constant_alone (v : Value) : (aloneCoupling outer scopes).CoupledOperand (.constant v) (.constant v) :=
  .constant fun _ _ h => congrArg slotsOf (h.writeValue v)

theorem param_alone {p : Param} (hp : Node.Settled outer ⟨scopes, .param p⟩) :
    (aloneCoupling outer scopes).CoupledOperand (.param p) (.param p) := by
  have hm : ∀ c d, AloneContexts outer scopes c d → c.mode = d.mode := fun c d h => by rw [h.eq]
  refine .param (fun c d h => ?_) (fun _ _ h => h.resolve hp) fun _ c d h => by rw [hm c d h]
  have hc : c.compared = d.compared := by rw [h.eq]
  change slotsOf (writeParam p c) = slotsOf (writeParam p d)
  simp only [writeParam, hm c d h, hc, h.resolve hp, h.writeValue]

def aloneCouplings (outer : List ParamMap) : Couplings .identity (Node.Settled outer) where
  at_ := aloneCoupling outer
  queries _ := ⟨.inl trivial, .inl trivial⟩
  constant _ v _ := constant_alone v
  param _ _ h := param_alone h
  operation _ _ _ _ := .inl trivial
  custom _ _ _ _ := .inl trivial
  inside scopes params c d h := by
    refine ⟨congrArg (params :: ·) h.known, ?_⟩
    rw [h.eq]
    rfl
  outside _ _ _ _ h := h

theorem slotsOf_alone (form : Form) {q : Select Expr} (h : q.SettledIn outer)
    (hc : AloneContexts outer [q.params] c d) : slotsOf (q.write form c) = slotsOf (q.write form d) := by
  have hq := (aloneCouplings outer).selectOperands_coupled [] q h
  rw [Expr.substituteSelect_identity] at hq
  exact Coupling.write_coupled ((aloneCouplings outer).queries _) form hq c d hc

end Render

end QueryText
