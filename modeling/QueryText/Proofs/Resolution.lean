import QueryText.Proofs.Deferral

namespace QueryText

/-- Parameters in scope are replaced by their innermost values; `keep` tells what queries go on to
bind. -/
def Substitution.eager (keep : ParamMap → ParamMap) : Substitution :=
  ⟨id, QueryText.innermost, keep⟩

def ParamMap.Narrows (keep : ParamMap → ParamMap) : Prop :=
  ∀ (m : ParamMap) (p : Param), m.get? p = none → (keep m).get? p = none

theorem innermost_map_eq_none {keep : ParamMap → ParamMap} (hk : ParamMap.Narrows keep)
    {scopes : List ParamMap} {p : Param} (h : innermost scopes p = none) :
    innermost (scopes.map keep) p = none := by
  simp only [innermost, List.findSome?_eq_none_iff] at h ⊢
  intro m hm
  obtain ⟨n, hn, rfl⟩ := List.mem_map.mp hm
  exact hk n p (h n hn)

namespace Render

open Operand

theorem writeValue_scopes (v : Value) (c : Context) (scopes : List ParamMap) :
    writeValue v { c with scopes := scopes } = writeValue v c := by
  unfold writeValue
  simp only [slots_eq]

def SameResult (x y : Except QueryError (List Chunk)) : Prop :=
  x = y

theorem sameResult_refl (x : Except QueryError (List Chunk)) : SameResult x x :=
  rfl

theorem sameResult_joined {x y x' y' : Except QueryError (List Chunk)} (h : SameResult x y)
    (h' : SameResult x' y') : SameResult (joined x x') (joined y y') := by
  obtain rfl := h
  obtain rfl := h'
  rfl

/-- Parameters have values, and those in scope of the second run are no more than in the first. -/
structure EagerContexts (keep : ParamMap → ParamMap) (ms : List ParamMap) (c d : Context) : Prop where
  scopes : c.scopes = ms
  mode : c.mode = .resolving
  eq : d = { c with scopes := ms.map keep }

variable {keep : ParamMap → ParamMap} {ms : List ParamMap}

namespace EagerContexts

variable {c d : Context}

theorem mode' (h : EagerContexts keep ms c d) : d.mode = .resolving := by
  rw [h.eq]
  exact h.mode

theorem writeValue (h : EagerContexts keep ms c d) (v : Value) :
    Operand.writeValue v c = Operand.writeValue v d := by
  rw [h.eq]
  exact (writeValue_scopes v c (ms.map keep)).symm

theorem resolve (h : EagerContexts keep ms c d) (p : Param) : c.resolve p = innermost ms p := by
  rw [Context.resolve, h.scopes]
  rfl

theorem resolve_eq_none (h : EagerContexts keep ms c d) (hk : ParamMap.Narrows keep) {p : Param}
    (hp : innermost ms p = none) : d.resolve p = none := by
  rw [h.eq]
  exact innermost_map_eq_none hk hp

end EagerContexts

def eagerCoupling (keep : ParamMap → ParamMap) (ms : List ParamMap) : Coupling where
  contexts := EagerContexts keep ms
  results := SameResult
  rules_alike {c d} h := ⟨c.rules.flattensLists, by rw [h.eq]; rfl⟩
  nested_cases h := .inl (by rw [h.eq])
  comparing h p := ⟨h.scopes, h.mode, by rw [h.eq]⟩
  candidate h p := ⟨h.scopes, h.mode, by rw [h.eq]⟩
  nothing := sameResult_refl _
  text _ := sameResult_refl _
  fail _ _ := sameResult_refl _
  join := sameResult_joined
  path {c d} h p := by
    refine writePath_congr ⟨c.rules.flattensLists, ?_⟩ ?_ ?_ ?_ p <;> rw [h.eq]
    rfl
  wildcards := True
  wildcardText h _ s := h.writeValue (.text s)

theorem constant_eager (v : Value) :
    (eagerCoupling keep ms).CoupledOperand (.constant v) (.constant v) :=
  .constant fun _ _ hc => hc.writeValue v

theorem param_eager (hk : ParamMap.Narrows keep) (p : Param) :
    (eagerCoupling keep ms).CoupledOperand (.param p)
      ((Substitution.eager keep).leaf ms p).operand := by
  cases hv : innermost ms p with
  | none =>
    have hnone : ∀ c d, EagerContexts keep ms c d → c.resolve p = none ∧ d.resolve p = none :=
      fun c d hc => ⟨(hc.resolve p).trans hv, hc.resolve_eq_none hk hv⟩
    rw [Substitution.leaf_of_none (.eager keep) hv]
    refine .param (fun c d hc => ?_) (fun c d hc => ?_) fun _ c d hc => by rw [hc.mode, hc.mode']
    · obtain ⟨hn, hn'⟩ := hnone c d hc
      change writeParam p c = writeParam p d
      simp only [writeParam, hc.mode, hc.mode', hn, hn']
    · obtain ⟨hn, hn'⟩ := hnone c d hc
      exact hn.trans hn'.symm
  | some v =>
    have hsome : ∀ c d, EagerContexts keep ms c d → c.resolve p = some v :=
      fun c d hc => (hc.resolve p).trans hv
    rw [Substitution.leaf_of_some (.eager keep) hv]
    refine .param_constant (fun c d hc => ?_) hsome fun _ c d hc => by simp [hc.mode]
    change writeParam p c = Operand.writeValue v d
    simp only [writeParam, hc.mode, hsome c d hc]
    exact hc.writeValue v

def eagerCouplings (hk : ParamMap.Narrows keep) : Couplings (.eager keep) fun _ => True where
  at_ := eagerCoupling keep
  queries _ := ⟨.inl trivial, .inl trivial⟩
  constant _ v _ := constant_eager v
  param _ p _ := param_eager hk p
  operation _ _ _ _ := .inl trivial
  custom _ _ _ _ := .inl trivial
  inside scopes params c d h :=
    ⟨by rw [Context.inside, h.scopes], h.mode, by rw [h.eq]; rfl⟩
  outside _ _ _ _ h := h

theorem write_eager (hk : ParamMap.Narrows keep) (form : Form) (q : Select Expr) (r : Rules)
    (inlining : Bool) :
    q.write form (.of r .resolving inlining [q.params]) =
      (Expr.substituteSelect (.eager keep) [] q).write form
        (.of r .resolving inlining [keep q.params]) :=
  Coupling.write_coupled ((eagerCouplings hk).queries _) form
    ((eagerCouplings hk).selectOperands_coupled [] q fun _ _ => trivial) _ _ ⟨rfl, rfl, rfl⟩

end Render

namespace Select

/-- The query with the innermost values in place of its parameters. -/
def eager (q : Select Expr) : Select Expr :=
  Expr.substituteSelect (.eager id) [] q

/-- The query with the innermost values in place and without any values to look up: what is left of its
parameters is bound nowhere. -/
def closed (q : Select Expr) : Select Expr :=
  Expr.substituteSelect (.eager fun _ => .empty) [] q

theorem writtenAs_eager {keep : ParamMap → ParamMap} (hk : ParamMap.Narrows keep) (form : Render.Form)
    (w : Window) (q : Select Expr) (c : Config) :
    (Expr.substituteSelect (.eager keep) [] q).writtenAs form w c = q.writtenAs form w c := by
  rw [writtenAs_eq_bind, writtenAs_eq_bind, Render.Couplings.params_substituteSelect,
    Render.write_eager hk form q c.rules c.literals]
  rfl

theorem written_substituteSelect {keep : ParamMap → ParamMap} (hk : ParamMap.Narrows keep)
    (q : Select Expr) (c : Config) :
    (Expr.substituteSelect (.eager keep) [] q).written c = q.written c ∧
      (Expr.substituteSelect (.eager keep) [] q).writtenCount c = q.writtenCount c := by
  refine ⟨?_, writtenAs_eager hk .count .unrestricted q c⟩
  unfold written
  rw [Expr.window_substituteSelect]
  exact writtenAs_eager hk .rows q.window q c

/-- Each parameter is the constant that its innermost value makes, and a value is seen nowhere else:
once all values are in place, nothing changes when they are not bound any more. -/
theorem written_eager (q : Select Expr) (c : Config) :
    (q.eager.written c = q.written c ∧ q.eager.writtenCount c = q.writtenCount c) ∧
      (q.closed.written c = q.written c ∧ q.closed.writtenCount c = q.writtenCount c) :=
  ⟨written_substituteSelect (fun _ _ h => h) q c, written_substituteSelect (fun _ _ _ => rfl) q c⟩

end Select

end QueryText
