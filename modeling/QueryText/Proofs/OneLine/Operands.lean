import QueryText.Proofs.OneLine.Writers

namespace QueryText

theorem Affix.unbroken_apply (a : Affix) {s : String} (hs : Unbroken s) : Unbroken (a.apply s) := by
  have hmark : Unbroken "%" := by decide
  cases a with
  | bare => exact hs
  | leading => exact hmark.append hs
  | trailing => exact hs.append hmark
  | both => exact (hmark.append hs).append hmark

theorem Rules.require_onOneLine (r : Rules) (op : Operator) :
    r.onOneLine.require op =
      (r.require op).map fun rule => { rule with pattern := rule.pattern.singleLine } := by
  cases hop : r.operators op <;> simp [require, onOneLine, hop, unsupported, Except.map]

namespace Render

open Operand

/-- Wherever the operand stands it is written with blanks for breaks, and no name or text in it has any. -/
inductive Operand.Spaceable (inlining : Bool) (scopes : List ParamMap) : Operand → Prop where
  | intro {o : Operand} (write : ∀ c : Context, c.Within inlining scopes → Spaced c o.write)
      (path : ∀ p, o.expr.path? = some p → p.Unbroken)
      (known : ∀ c : Context, c.Within inlining scopes → inlining = true →
        ∀ s, knownText? c o.expr = some s → Unbroken s)
      (args : ∀ a ∈ o.args, a.Spaceable inlining scopes) : o.Spaceable inlining scopes

variable {inlining : Bool} {scopes : List ParamMap} {c : Context}

namespace Operand.Spaceable

variable {o : Operand}

theorem write (h : o.Spaceable inlining scopes) (hc : c.Within inlining scopes) : Spaced c o.write := by
  cases h with
  | intro write _ _ _ => exact write c hc

theorem path (h : o.Spaceable inlining scopes) {p : Path} (hp : o.expr.path? = some p) : p.Unbroken := by
  cases h with
  | intro _ path _ _ => exact path p hp

theorem known (h : o.Spaceable inlining scopes) (hc : c.Within inlining scopes) (hi : inlining = true)
    {s : String} (hs : knownText? c o.expr = some s) : Unbroken s := by
  cases h with
  | intro _ _ known _ => exact known c hc hi s hs

theorem args (h : o.Spaceable inlining scopes) : ∀ a ∈ o.args, a.Spaceable inlining scopes := by
  cases h with
  | intro _ _ _ args => exact args

end Operand.Spaceable

theorem Operand.Spaceable.of_write {o : Operand} (hpath : o.expr.path? = none)
    (hknown : ∀ c, knownText? c o.expr = none) (hargs : ∀ a ∈ o.args, a.Spaceable inlining scopes)
    (hwrite : ∀ c : Context, c.Within inlining scopes → Spaced c o.write) :
    o.Spaceable inlining scopes :=
  .intro hwrite (fun _ hp => by simp [hpath] at hp) (fun c _ _ _ hs => by simp [hknown c] at hs) hargs

theorem path_spaceable {p : Path} (hp : p.Unbroken) : (path p).Spaceable inlining scopes := by
  refine .intro (fun c hc => writePath_spaces hc hp) (fun q hq => ?_) (fun c _ _ _ hs => nomatch hs) nofun
  obtain rfl : p = q := Option.some.inj hq
  exact hp

theorem constant_spaceable {v : Value} (hv : inlining = true → v.Unbroken) :
    (constant v).Spaceable inlining scopes :=
  .intro (fun _ hc => writeValue_spaces hc hv) nofun (fun _ _ hi _ hs => (hv hi).text? hs) nofun

theorem param_spaceable {p : Param} (hp : inlining = true → ∀ v, innermost scopes p = some v → v.Unbroken) :
    (param p).Spaceable inlining scopes := by
  refine .intro (fun _ hc => writeParam_spaces hc hp) nofun (fun c hc hi s hs => ?_) nofun
  simp only [param, knownText?] at hs
  split at hs
  · cases hs
  · obtain ⟨v, hv, hs⟩ := Option.bind_eq_some_iff.mp hs
    exact (hp hi v (hc.scopes ▸ hv)).text? hs

theorem writeType_spaces {arg : Operand} (h : arg.Spaceable inlining scopes) :
    Spaced c (writeType arg.expr) := by
  have hgrammar : c.onOneLine.rules.grammar = c.rules.grammar := rfl
  unfold Spaced Spaces writeType
  rw [hgrammar]
  cases he : arg.expr.path?.bind (·.entity?) with
  | none => rfl
  | some e =>
    obtain ⟨p, hp, he⟩ := Option.bind_eq_some_iff.mp he
    have hentity := (h.path hp).entity he
    cases c.rules.grammar with
    | jdoql => exact Spaces.text (c := c) hentity.typeName
    | sql | jpql => exact Spaces.text (c := c) hentity.simpleName

theorem writeGrouped_spaces (hc : c.Within inlining scopes) (op : Operator) (rank : Option Nat)
    (position : Nat) (enclosed : Bool) {arg : Operand} (h : arg.Spaceable inlining scopes) :
    Spaced c (writeGrouped op rank position enclosed arg) := by
  have hparens : needsParentheses c.onOneLine.rules op rank position enclosed arg.expr =
      needsParentheses c.rules op rank position enclosed arg.expr :=
    c.rules.needsParentheses_onOneLine op rank position enclosed arg.expr
  unfold Spaced Spaces writeGrouped
  rw [hparens]
  split
  · exact Spaces.parenthesized (h.write hc)
  · exact h.write hc

section Wildcards

variable {concat : Operand → Operand → Operand} {args : List Operand}
  (hconcat : ∀ a b : Operand, a.Spaceable inlining scopes → b.Spaceable inlining scopes →
    (concat a b).Spaceable inlining scopes)

include hconcat

theorem withWildcards_spaceable (affix : Affix) {arg : Operand} (h : arg.Spaceable inlining scopes) :
    (withWildcards concat affix arg).Spaceable inlining scopes := by
  have hp : percent.Spaceable inlining scopes :=
    constant_spaceable fun _ => (by decide : QueryText.Unbroken "%")
  cases affix with
  | bare => exact h
  | leading => exact hconcat _ _ hp h
  | trailing => exact hconcat _ _ h hp
  | both => exact hconcat _ _ (hconcat _ _ hp h) hp

theorem writeAffixed_spaces (hc : c.Within inlining scopes) {other : Operand → Writer}
    (hother : ∀ a : Operand, a.Spaceable inlining scopes → Spaced c (other a)) (affix : Affix)
    {arg : Operand} (h : arg.Spaceable inlining scopes) :
    Spaced c (writeAffixed concat affix arg other) := by
  have hknown : knownText? c.onOneLine arg.expr = knownText? c arg.expr := by
    cases arg.expr <;> rfl
  unfold Spaced Spaces writeAffixed
  rw [hknown]
  split
  · exact hother arg h
  · split
    · next s hs =>
      exact writeValue_spaces hc fun hi => affix.unbroken_apply (hc.rules.escapeLike (h.known hc hi hs))
    · exact hother _ (withWildcards_spaceable hconcat affix h)

theorem writeElement_spaces (hc : c.Within inlining scopes) (op : Operator) (rank : Option Nat)
    (hargs : ∀ a ∈ args, a.Spaceable inlining scopes) (el : Pattern.Element) :
    Spaces c (writeElement concat op rank args el.spaced) (writeElement concat op rank args el) := by
  cases el with
  | text t => exact .patternText t
  | slot s enclosed =>
    simp only [Pattern.Element.spaced, writeElement]
    cases ha : args[s.index]? with
    | none => exact .unsupported _
    | some arg =>
      have harg := hargs arg (List.mem_of_getElem? ha)
      dsimp only
      split
      · exact writeType_spaces harg
      · exact writeAffixed_spaces hconcat hc (fun a h => writeGrouped_spaces hc op rank s.index enclosed h)
          s.affix harg

theorem writeOperation_spaces (hc : c.Within inlining scopes) (op : Operator)
    (hargs : ∀ a ∈ args, a.Spaceable inlining scopes) :
    Spaced c (writeOperation concat op args) := by
  have hempty : emptyMembership? c.onOneLine op args = emptyMembership? c op args := rfl
  have hcomparing : comparing args c.onOneLine = (comparing args c).onOneLine := by
    unfold comparing
    cases args.head?.bind (·.expr.path?) <;> rfl
  have hrequire : c.onOneLine.rules.require op = _ := c.rules.require_onOneLine op
  unfold Spaced Spaces writeOperation
  rw [hempty, hcomparing, hrequire]
  cases hword : emptyMembership? c op args with
  | some s =>
    refine Spaces.text (c := c) (hc.rules.words s ?_)
    obtain ⟨-, rfl⟩ | ⟨-, rfl⟩ := emptyMembership?_eq_some hword <;> simp [LiteralForms.words]
  | none =>
    cases c.rules.require op with
    | error e => rfl
    | ok rule =>
      have hall := Spaces.elements fun el (_ : el ∈ rule.pattern.elements) =>
        writeElement_spaces hconcat (hc.comparing args) op rule.rank hargs el
      rw [← Pattern.elements_singleLine] at hall
      exact hall

end Wildcards

theorem operationTo_spaceable (depth : Nat) (op : Operator) {args : List Operand}
    (hargs : ∀ a ∈ args, a.Spaceable inlining scopes) :
    (operationTo depth op args).Spaceable inlining scopes := by
  induction depth generalizing op args with
  | zero => exact .of_write rfl (fun _ => rfl) hargs fun _ _ => .unsupported _
  | succ depth ih =>
    refine .of_write rfl (fun _ => rfl) hargs fun c hc =>
      writeOperation_spaces (fun a b ha hb => ?_) hc op hargs
    exact ih .concat (by simpa using ⟨ha, hb⟩)

theorem operation_spaceable (op : Operator) {args : List Operand}
    (hargs : ∀ a ∈ args, a.Spaceable inlining scopes) : (operation op args).Spaceable inlining scopes :=
  operationTo_spaceable wildcardDepth op hargs

theorem writeCustomElement_spaces (hc : c.Within inlining scopes) (f : Fragment) {args : List Operand}
    (hargs : ∀ a ∈ args, a.Spaceable inlining scopes) (el : Pattern.Element) :
    Spaces c (writeCustomElement f args el.spaced) (writeCustomElement f args el) := by
  cases el with
  | text t => exact .patternText t
  | slot s enclosed =>
    simp only [Pattern.Element.spaced, writeCustomElement]
    cases ha : args[s.index]? with
    | none => exact .unsupported _
    | some arg =>
      have harg := hargs arg (List.mem_of_getElem? ha)
      refine writeAffixed_spaces (fun a b ha hb => ?_) hc (fun a h => ?_) s.affix harg
      · exact operation_spaceable .concat (by simpa using ⟨ha, hb⟩)
      · split
        · exact h.write hc
        · exact .parenthesized (h.write hc)

theorem custom_spaceable {f : Fragment} (hf : Unbroken f.pattern.source) {args : List Operand}
    (hargs : ∀ a ∈ args, a.Spaceable inlining scopes) : (custom f args).Spaceable inlining scopes := by
  have hsame : f.pattern.singleLine = f.pattern := congrArg Pattern.mk (spaced_eq_self hf)
  refine .of_write rfl (fun _ => rfl) hargs fun c hc => ?_
  have hall := Spaces.elements fun el (_ : el ∈ f.pattern.elements) =>
    writeCustomElement_spaces hc f hargs el
  rw [← Pattern.elements_singleLine, hsame] at hall
  have hdialect : c.onOneLine.rules.dialect = c.rules.dialect := rfl
  unfold Spaced Spaces custom
  dsimp only
  rw [hdialect]
  split
  · exact hall
  · rfl

end Render

end QueryText
