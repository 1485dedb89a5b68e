import QueryText.Proofs.Coupling

namespace QueryText

/-- The part of an expression that decides how it is written inside another one. -/
inductive Expr.Head where
  | path (p : Path)
  | operation (op : Operator)
  /-- a constant or a parameter -/
  | value
  | custom (f : Fragment)
  | subQuery

namespace Expr

def head : Expr → Head
  | path p => .path p
  | operation op _ => .operation op
  | constant _ | param _ => .value
  | custom f _ => .custom f
  | subQuery _ => .subQuery

variable {e f : Expr}

theorem path?_eq_of_head_eq (h : e.head = f.head) : e.path? = f.path? := by
  cases e <;> cases f <;> simp_all [head, path?]

end Expr

namespace Pattern

def Element.Bare : Element → Prop
  | .text _ => True
  | .slot s _ => s.affix = .bare

def Bare (p : Pattern) : Prop :=
  ∀ e ∈ p.elements, e.Bare

end Pattern

namespace Render

open Operand

theorem needsParentheses_eq_of_head_eq {e f : Expr} (h : e.head = f.head) (r : Rules)
    (parent : Operator) (rank : Option Nat) (position : Nat) (enclosed : Bool) :
    needsParentheses r parent rank position enclosed e =
      needsParentheses r parent rank position enclosed f := by
  cases e <;> cases f <;> simp_all [Expr.head, needsParentheses, Expr.isAtomic]

theorem needsParentheses_withFlattening (b : Bool) (r : Rules) :
    needsParentheses (r.withFlattening b) = needsParentheses r := rfl

namespace Coupling

variable (K : Coupling)

/-- Both texts are known or neither is, and with the same wildcards they are written alike. -/
def KnownAlike (c d : Context) (e f : Expr) : Prop :=
  match knownText? c e, knownText? d f with
  | some s, some t => ∀ a : Affix,
      K.results (writeValue (.text (a.apply (c.rules.escapeLike s))) c)
        (writeValue (.text (a.apply (d.rules.escapeLike t))) d)
  | none, none => True
  | _, _ => False

inductive CoupledOperand : Operand → Operand → Prop where
  | intro {a b : Operand} (head : a.expr.head = b.expr.head) (write : K.Coupled a.write b.write)
      (empty : ∀ c d, K.contexts c d → isEmptyList c a.expr = isEmptyList d b.expr)
      (known : K.wildcards → ∀ c d, K.contexts c d → K.KnownAlike c d a.expr b.expr)
      (args : List.Forall₂ CoupledOperand a.args b.args) : CoupledOperand a b

def BareOperator (op : Operator) : Prop :=
  ∀ c d rule, K.contexts c d → c.rules.operators op = some rule → rule.pattern.Bare

variable {K} {a b : Operand} {as bs : List Operand}

namespace CoupledOperand

theorem head (h : K.CoupledOperand a b) : a.expr.head = b.expr.head := by
  cases h with
  | intro head _ _ _ _ => exact head

theorem write (h : K.CoupledOperand a b) : K.Coupled a.write b.write := by
  cases h with
  | intro _ write _ _ _ => exact write

theorem args (h : K.CoupledOperand a b) : List.Forall₂ K.CoupledOperand a.args b.args := by
  cases h with
  | intro _ _ _ _ args => exact args

theorem path?_eq (h : K.CoupledOperand a b) : a.expr.path? = b.expr.path? :=
  Expr.path?_eq_of_head_eq h.head

end CoupledOperand

theorem emptyMembership?_eq (h : List.Forall₂ K.CoupledOperand as bs) (op : Operator)
    {c d : Context} (hc : K.contexts c d) : emptyMembership? c op as = emptyMembership? d op bs := by
  obtain ⟨flattens, hr⟩ := K.rules_alike hc
  obtain ⟨ha, hb⟩ | ⟨a, b, ha, hb, hab⟩ := forall₂_getElem?_cases h 1
  · simp [emptyMembership?, ha, hb]
  · cases hab with
    | intro _ _ empty _ _ => simp [emptyMembership?, ha, hb, empty c d hc, hr]

theorem comparing_contexts (h : List.Forall₂ K.CoupledOperand as bs) {c d : Context}
    (hc : K.contexts c d) : K.contexts (Operand.comparing as c) (Operand.comparing bs d) := by
  cases h with
  | nil => exact hc
  | @cons a b _ _ hab _ =>
    have hp := hab.path?_eq
    simp only [Operand.comparing, List.head?_cons, Option.bind_some, hp]
    cases b.expr.path? with
    | none => exact hc
    | some p => exact K.comparing hc p

theorem writeType_coupled (h : K.CoupledOperand a b) :
    K.Coupled (writeType a.expr) (writeType b.expr) := by
  intro c d hc
  obtain ⟨flattens, hr⟩ := K.rules_alike hc
  simp only [writeType, h.path?_eq, hr, Rules.grammar_withFlattening, Rules.unsupported_withFlattening]
  cases b.expr.path?.bind (·.entity?) with
  | none => exact K.fail _ (by simp)
  | some e => cases d.rules.grammar <;> exact K.text _

theorem writeGrouped_coupled (h : K.CoupledOperand a b) (op : Operator) (rank : Option Nat)
    (position : Nat) (enclosed : Bool) :
    K.Coupled (writeGrouped op rank position enclosed a) (writeGrouped op rank position enclosed b) := by
  intro c d hc
  obtain ⟨flattens, hr⟩ := K.rules_alike hc
  simp only [writeGrouped, needsParentheses_eq_of_head_eq h.head, hr, needsParentheses_withFlattening]
  split
  · exact Coupled.parenthesized h.write c d hc
  · exact h.write c d hc

theorem knownAlike_of_eq (hw : K.wildcards) {c d : Context} (hc : K.contexts c d) {e f : Expr}
    (h : knownText? c e = knownText? d f) : K.KnownAlike c d e f := by
  obtain ⟨flattens, hr⟩ := K.rules_alike hc
  unfold KnownAlike
  rw [h, hr]
  cases knownText? d f with
  | none => trivial
  | some s => exact fun a => K.wildcardText hc hw _

section Leaves

variable {p : Param} {v : Value}

theorem CoupledOperand.constant (h : K.Coupled (writeValue v) (writeValue v)) :
    K.CoupledOperand (.constant v) (.constant v) :=
  .intro rfl h (fun _ _ _ => rfl) (fun hw _ _ hc => knownAlike_of_eq hw hc rfl) .nil

theorem percent_coupled (hw : K.wildcards) : K.CoupledOperand percent percent :=
  .constant fun _ _ hc => K.wildcardText hc hw _

theorem CoupledOperand.param (h : K.Coupled (writeParam p) (writeParam p))
    (hv : ∀ c d, K.contexts c d → c.resolve p = d.resolve p)
    (hm : K.wildcards → ∀ c d, K.contexts c d → (c.mode = .deferring ↔ d.mode = .deferring)) :
    K.CoupledOperand (.param p) (.param p) := by
  refine .intro rfl h (fun c d hc => ?_) (fun hw c d hc => knownAlike_of_eq hw hc ?_) .nil
  · simp only [Operand.param, isEmptyList, hv c d hc]
  · simp only [Operand.param, knownText?, hv c d hc, hm hw c d hc]

theorem CoupledOperand.param_constant (h : K.Coupled (writeParam p) (writeValue v))
    (hv : ∀ c d, K.contexts c d → c.resolve p = some v)
    (hm : K.wildcards → ∀ c d, K.contexts c d → c.mode ≠ .deferring) :
    K.CoupledOperand (.param p) (.constant v) := by
  refine .intro rfl h (fun c d hc => ?_) (fun hw c d hc => knownAlike_of_eq hw hc ?_) .nil
  · simp [Operand.param, Operand.constant, isEmptyList, hv c d hc]
  · simp [Operand.param, Operand.constant, knownText?, hv c d hc, hm hw c d hc]

theorem writeParam_coupled (hv : ∀ c d, K.contexts c d → c.resolve p = d.resolve p)
    (hm : ∀ c d, K.contexts c d → c.mode = d.mode ∧ d.mode ≠ .preview)
    (unset : K.results (.error (.parameterNotSet p)) (.error (.parameterNotSet p)))
    (value : ∀ v, K.Coupled (writeValue v) (writeValue v))
    (slot : ∀ c d, K.contexts c d → d.mode = .deferring →
      K.results (.ok [.slot (.param p) c.compared]) (.ok [.slot (.param p) d.compared])) :
    K.Coupled (writeParam p) (writeParam p) := by
  intro c d hc
  obtain ⟨hmode, hpreview⟩ := hm c d hc
  unfold writeParam
  rw [hmode, hv c d hc]
  cases hd : d.mode with
  | preview => exact absurd hd hpreview
  | resolving =>
    cases d.resolve p with
    | none => exact unset
    | some v => exact value v c d hc
  | deferring =>
    cases d.resolve p with
    | none =>
      simp only
      split
      · exact unset
      · exact slot c d hc hd
    | some v =>
      cases v with
      | list items => exact value (.list items) c d hc
      | _ => exact slot c d hc hd

end Leaves

theorem forall₂_map_self {α : Type} {R : Writer → Writer → Prop} {f g : α → Writer} {xs : List α}
    (h : ∀ x ∈ xs, R (f x) (g x)) : List.Forall₂ R (xs.map f) (xs.map g) := by
  induction xs with
  | nil => exact .nil
  | cons x xs ih =>
    exact .cons (h x (by simp)) (ih fun y hy => h y (by simp [hy]))

mutual

theorem CoupledOperand.self (hc : ∀ c d, K.contexts c d → c = d) (hr : ∀ x, K.results x x) :
    (o : Operand) → K.CoupledOperand o o
  | ⟨_, _, args⟩ =>
    .intro rfl (fun c d h => hc c d h ▸ hr _) (fun c d h => hc c d h ▸ rfl)
      (fun hw c d h => knownAlike_of_eq hw h (hc c d h ▸ rfl)) (CoupledOperand.self_list hc hr args)

theorem CoupledOperand.self_list (hc : ∀ c d, K.contexts c d → c = d) (hr : ∀ x, K.results x x) :
    (os : List Operand) → List.Forall₂ K.CoupledOperand os os
  | [] => .nil
  | o :: os => .cons (CoupledOperand.self hc hr o) (CoupledOperand.self_list hc hr os)

end

section Wildcards

variable {concat concat' : Operand → Operand → Operand}
  (hconcat : K.wildcards → ∀ a a' b b', K.CoupledOperand a b → K.CoupledOperand a' b' →
    K.CoupledOperand (concat a a') (concat' b b'))

include hconcat

theorem withWildcards_coupled (hw : K.wildcards) (affix : Affix) (h : K.CoupledOperand a b) :
    K.CoupledOperand (withWildcards concat affix a) (withWildcards concat' affix b) := by
  have hp := percent_coupled hw
  cases affix with
  | bare => exact h
  | leading => exact hconcat hw _ _ _ _ hp h
  | trailing => exact hconcat hw _ _ _ _ h hp
  | both => exact hconcat hw _ _ _ _ (hconcat hw _ _ _ _ hp h) hp

theorem writeAffixed_coupled {v w : Operand → Writer}
    (hother : ∀ a b, K.CoupledOperand a b → K.Coupled (v a) (w b)) (affix : Affix)
    (haffix : K.wildcards ∨ affix = .bare) (h : K.CoupledOperand a b) :
    K.Coupled (writeAffixed concat affix a v) (writeAffixed concat' affix b w) := by
  intro c d hc
  by_cases hbare : affix = .bare
  · simpa only [writeAffixed, hbare, ↓reduceIte] using hother a b h c d hc
  · have hw : K.wildcards := haffix.resolve_right hbare
    have hother' := hother _ _ (withWildcards_coupled hconcat hw affix h) c d hc
    cases h with
    | intro _ _ _ known _ =>
      have hk := known hw c d hc
      simp only [writeAffixed, hbare, ↓reduceIte]
      unfold KnownAlike at hk
      cases ha : knownText? c a.expr with
      | none =>
        cases hb : knownText? d b.expr with
        | none => exact hother'
        | some t => simp [ha, hb] at hk
      | some s =>
        cases hb : knownText? d b.expr with
        | none => simp [ha, hb] at hk
        | some t =>
          rw [ha, hb] at hk
          exact hk affix

theorem writeElement_coupled (op : Operator) (rank : Option Nat) (h : List.Forall₂ K.CoupledOperand as bs)
    (e : Pattern.Element) (he : K.wildcards ∨ e.Bare) :
    K.Coupled (writeElement concat op rank as e) (writeElement concat' op rank bs e) := by
  cases e with
  | text t => exact Coupled.text _
  | slot s enclosed =>
    simp only [writeElement]
    obtain ⟨ha, hb⟩ | ⟨a, b, ha, hb, hab⟩ := forall₂_getElem?_cases h s.index
    · rw [ha, hb]
      exact Coupled.unsupported _
    · rw [ha, hb]
      by_cases hi : op = .instanceOf && s.index = 1
      · simpa only [hi, ↓reduceIte] using writeType_coupled hab
      · simp only [hi]
        exact writeAffixed_coupled hconcat
          (fun _ _ h => writeGrouped_coupled h op rank s.index enclosed) s.affix he hab

theorem writeOperation_coupled (op : Operator) (hop : K.wildcards ∨ K.BareOperator op)
    (h : List.Forall₂ K.CoupledOperand as bs) :
    K.Coupled (writeOperation concat op as) (writeOperation concat' op bs) := by
  intro c d hc
  obtain ⟨flattens, hr⟩ := K.rules_alike hc
  simp only [writeOperation, emptyMembership?_eq h op hc, Rules.require, hr,
    Rules.operators_withFlattening, Rules.unsupported_withFlattening]
  cases emptyMembership? d op bs with
  | some s => exact K.text s
  | none =>
    cases hrule : d.rules.operators op with
    | none => exact K.fail _ (by simp)
    | some rule =>
      have hall : K.Coupled
          (.all (rule.pattern.elements.map (writeElement concat op rule.rank as)))
          (.all (rule.pattern.elements.map (writeElement concat' op rule.rank bs))) := by
        refine Coupled.all (forall₂_map_self fun e he => ?_)
        refine writeElement_coupled hconcat op rule.rank h e ?_
        exact hop.imp_right fun hop => hop c d rule hc (by rw [hr, Rules.operators_withFlattening, hrule]) e he
      exact hall _ _ (comparing_contexts h hc)

end Wildcards

theorem operationTo_coupled (depth : Nat) (op : Operator) (hop : K.wildcards ∨ K.BareOperator op)
    (h : List.Forall₂ K.CoupledOperand as bs) :
    K.CoupledOperand (operationTo depth op as) (operationTo depth op bs) := by
  induction depth generalizing op as bs with
  | zero =>
    refine .intro rfl (Coupled.unsupported _) (fun _ _ _ => rfl) (fun _ _ _ _ => ?_) h
    simp [KnownAlike, knownText?, operationTo]
  | succ depth ih =>
    refine .intro rfl ?_ (fun _ _ _ => rfl) (fun _ _ _ _ => ?_) h
    · refine writeOperation_coupled (fun hw a a' b b' ha ha' => ?_) op hop h
      exact ih .concat (.inl hw) (.cons ha (.cons ha' .nil))
    · simp [KnownAlike, knownText?, operationTo]

theorem operation_coupled (op : Operator) (hop : K.wildcards ∨ K.BareOperator op)
    (h : List.Forall₂ K.CoupledOperand as bs) :
    K.CoupledOperand (.operation op as) (.operation op bs) :=
  operationTo_coupled wildcardDepth op hop h

theorem path_coupled (p : Path) : K.CoupledOperand (.path p) (.path p) := by
  refine .intro rfl (fun c d hc => K.path hc p) (fun _ _ _ => rfl) (fun _ _ _ _ => ?_) .nil
  simp [KnownAlike, knownText?, Operand.path]

theorem writeCustomElement_coupled (f : Fragment) (h : List.Forall₂ K.CoupledOperand as bs)
    (e : Pattern.Element) (he : K.wildcards ∨ e.Bare) :
    K.Coupled (writeCustomElement f as e) (writeCustomElement f bs e) := by
  cases e with
  | text t => exact Coupled.text _
  | slot s enclosed =>
    simp only [writeCustomElement]
    obtain ⟨ha, hb⟩ | ⟨a, b, ha, hb, hab⟩ := forall₂_getElem?_cases h s.index
    · rw [ha, hb]
      exact Coupled.unsupported _
    · rw [ha, hb]
      refine writeAffixed_coupled (fun hw a a' b b' ha ha' => ?_) (fun a b h => ?_) s.affix he hab
      · exact operation_coupled .concat (.inl hw) (.cons ha (.cons ha' .nil))
      · split
        · exact h.write
        · exact Coupled.parenthesized h.write

theorem custom_coupled (f : Fragment) (hf : K.wildcards ∨ f.pattern.Bare)
    (h : List.Forall₂ K.CoupledOperand as bs) :
    K.CoupledOperand (.custom f as) (.custom f bs) := by
  refine .intro rfl ?_ (fun _ _ _ => rfl) (fun _ _ _ _ => ?_) h
  · intro c d hc
    obtain ⟨flattens, hr⟩ := K.rules_alike hc
    simp only [Operand.custom, hr, Rules.dialect_withFlattening, Rules.unsupported_withFlattening]
    split
    · refine Coupled.all (forall₂_map_self fun e he => ?_) c d hc
      exact writeCustomElement_coupled f h e (hf.imp_right fun hf => hf e he)
    · exact K.fail _ (by simp)
  · simp [KnownAlike, knownText?, Operand.custom]

end Coupling

end Render

end QueryText
