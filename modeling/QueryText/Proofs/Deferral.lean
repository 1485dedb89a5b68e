import QueryText.Proofs.Coupling.Change
import QueryText.Proofs.Coupling.Expr
import QueryText.Proofs.Slots

namespace QueryText

open Render

/-- The value in the innermost map that binds the parameter. -/
def innermost (scopes : List ParamMap) (p : Param) : Option Value :=
  scopes.findSome? (·.get? p)

/-- Every parameter in scope is replaced by its innermost value. -/
def Substitution.innermost : Substitution :=
  ⟨id, QueryText.innermost, id⟩

namespace Change

/-- The change with the innermost values in the place of its parameters. -/
def eager (ch : Change) : Change :=
  ch.mapExprs fun e => e.substitute .innermost [ch.params]

def nodes (ch : Change) : List Node :=
  ch.exprs.flatMap fun e => e.nodes [ch.params]

end Change

/-- What stands in a slot, and what stands there when parameters are replaced by their innermost
values. -/
inductive Deferral (ns : List Node) : Binding → Binding → Prop where
  | known (v : Value) : Deferral ns (.value v) (.value v)
  | bound {scopes : List ParamMap} {p : Param} {v : Value} (h : ⟨scopes, .param p⟩ ∈ ns)
      (hv : innermost scopes p = some v) (hi : v.items? = none) : Deferral ns (.param p) (.value v)
  | unbound {scopes : List ParamMap} {p : Param} (h : ⟨scopes, .param p⟩ ∈ ns)
      (hv : innermost scopes p = none) : Deferral ns (.param p) (.param p)

/-- No map around some occurrence of the parameter binds it. -/
def Unbound (ns : List Node) (p : Param) : Prop :=
  ∃ scopes, ⟨scopes, .param p⟩ ∈ ns ∧ innermost scopes p = none

def Rules.BareOperator (r : Rules) (op : Operator) : Prop :=
  ∀ rule, r.operators op = some rule → rule.pattern.Bare

def Node.Bare (r : Rules) (n : Node) : Prop :=
  match n.expr with
  | .operation op _ => r.BareOperator op
  | .custom f _ => f.pattern.Bare
  | _ => True

/-- Nothing in the change is written in a slot that wants wildcards. -/
structure Change.Bare (ch : Change) : Prop where
  and : ch.config.rules.BareOperator .and
  isIn : ch.config.rules.BareOperator .isIn
  nodes : ∀ n ∈ ch.nodes, n.Bare ch.config.rules

namespace Render

inductive DeferralChunk (ns : List Node) : Chunk → Chunk → Prop where
  | text (s : String) : DeferralChunk ns (.text s) (.text s)
  | slot {b b' : Binding} (path : Option Path) (h : Deferral ns b b') :
      DeferralChunk ns (.slot b path) (.slot b' path)

variable {ns : List Node} {r : Rules} {scopes : List ParamMap}

theorem bindings_deferral {xs ys : List Chunk} (h : List.Forall₂ (DeferralChunk ns) xs ys) :
    List.Forall₂ (Deferral ns) (Chunk.bindings xs) (Chunk.bindings ys) := by
  induction h with
  | nil => exact .nil
  | cons h _ ih =>
    cases h with
    | text s => exact ih
    | slot path h => exact .cons h ih

theorem paths_deferral {xs ys : List Chunk} (h : List.Forall₂ (DeferralChunk ns) xs ys) :
    Chunk.paths ys = Chunk.paths xs := by
  induction h with
  | nil => rfl
  | cons h _ ih =>
    cases h with
    | text s => exact ih
    | slot path h => exact congrArg (path :: ·) ih

theorem textFrom_deferral {xs ys : List Chunk} (h : List.Forall₂ (DeferralChunk ns) xs ys) (slot : Nat) :
    Chunk.textFrom r slot ys = Chunk.textFrom r slot xs := by
  induction h generalizing slot with
  | nil => rfl
  | cons h _ ih => cases h <;> simp only [Chunk.textFrom, ih]

theorem ofItems_deferral (path : Option Path) (items : List Value) :
    List.Forall₂ (DeferralChunk ns) (Chunk.ofItems path items) (Chunk.ofItems path items) := by
  induction items with
  | nil => exact .nil
  | cons v vs ih =>
    cases vs with
    | nil => exact .cons (.slot path (.known v)) .nil
    | cons w ws => exact .cons (.slot path (.known v)) (.cons (.text ", ") ih)

theorem ofValue_deferral (path : Option Path) (v : Value) :
    List.Forall₂ (DeferralChunk ns) (Chunk.ofValue r path v) (Chunk.ofValue r path v) := by
  cases v with
  | list items =>
    simp only [Chunk.ofValue]
    split
    · exact .cons (.text "(") (List.rel_append (ofItems_deferral path items) (.cons (.text ")") .nil))
    · exact .cons (.slot path (.known _)) .nil
  | _ => exact .cons (.slot path (.known _)) .nil

/-- The second run has the innermost values, or both fail alike; a parameter that is not set is
bound by no map around it. -/
def DeferralResult (ns : List Node) :
    Except QueryError (List Chunk) → Except QueryError (List Chunk) → Prop
  | .ok xs, y => ∃ ys, y = .ok ys ∧ List.Forall₂ (DeferralChunk ns) xs ys
  | .error e, y => y = .error e ∧ ∀ p, e = .parameterNotSet p → Unbound ns p

theorem deferralResult_joined {x y x' y' : Except QueryError (List Chunk)}
    (h : DeferralResult ns x y) (h' : DeferralResult ns x' y') :
    DeferralResult ns (joined x x') (joined y y') :=
  joined_related (Q := DeferralResult ns) (R := List.Forall₂ (DeferralChunk ns)) Iff.rfl
    (fun hs hs' => List.rel_append hs hs') (fun _ h => ⟨by rw [h.1]; rfl, h.2⟩)
    (fun _ h => ⟨by rw [h.1]; rfl, h.2⟩) h h'

open Operand

/-- Both runs start from one context, in which parameters wait for their values. -/
structure DeferralContexts (r : Rules) (scopes : List ParamMap) (c d : Context) : Prop where
  eq : c = d
  rules : c.rules = r
  scopes : c.scopes = scopes
  mode : c.mode = .deferring
  inlining : c.inlining = false

namespace DeferralContexts

variable {c d : Context}

theorem binds (h : DeferralContexts r scopes c d) : c.Binds :=
  ⟨by simp [h.mode], h.inlining⟩

theorem writeValue (h : DeferralContexts r scopes c d) (v : Value) :
    DeferralResult ns (Operand.writeValue v c) (Operand.writeValue v d) := by
  rw [← h.eq, writeValue_eq v c h.binds]
  exact ⟨_, rfl, ofValue_deferral c.compared v⟩

end DeferralContexts

def deferralCoupling (ns : List Node) (r : Rules) (scopes : List ParamMap) : Coupling where
  contexts := DeferralContexts r scopes
  results := DeferralResult ns
  rules_alike {c d} h := ⟨c.rules.flattensLists, by rw [h.eq]; rfl⟩
  nested_cases h := .inl (by rw [h.eq])
  comparing h p := ⟨by rw [h.eq], h.rules, h.scopes, h.mode, h.inlining⟩
  candidate h p := ⟨by rw [h.eq], h.rules, h.scopes, h.mode, h.inlining⟩
  nothing := ⟨[], rfl, .nil⟩
  text s := ⟨[.text s], rfl, .cons (.text s) .nil⟩
  fail e he := ⟨rfl, fun p hp => absurd hp (he p)⟩
  join := deferralResult_joined
  path {c d} h p := by
    rw [h.eq]
    unfold writePath
    split
    · exact ⟨rfl, fun p hp => by cases hp⟩
    · exact ⟨_, rfl, .cons (.text _) .nil⟩
  wildcards := False
  wildcardText _ hw _ := hw.elim

theorem constant_deferral (v : Value) :
    (deferralCoupling ns r scopes).CoupledOperand (.constant v) (.constant v) :=
  .constant fun _ _ hc => hc.writeValue v

theorem param_deferral (p : Param) (h : ⟨scopes, .param p⟩ ∈ ns) :
    (deferralCoupling ns r scopes).CoupledOperand (.param p)
      (Substitution.innermost.leaf scopes p).operand := by
  have hresolve : ∀ c d, DeferralContexts r scopes c d → c.resolve p = innermost scopes p :=
    fun c d hc => by
      rw [Context.resolve, hc.scopes]
      rfl
  cases hv : innermost scopes p with
  | none =>
    rw [Substitution.leaf_of_none .innermost hv]
    refine .param (fun c d hc => ?_) (fun c d hc => by rw [hc.eq]) fun hw => hw.elim
    obtain rfl := hc.eq
    change DeferralResult ns (writeParam p c) (writeParam p c)
    simp only [writeParam, hc.mode, hresolve c c hc, hv]
    split
    · refine ⟨rfl, fun q hq => ?_⟩
      obtain rfl : p = q := by simpa using hq
      exact ⟨scopes, h, hv⟩
    · exact ⟨_, rfl, .cons (.slot _ (.unbound h hv)) .nil⟩
  | some v =>
    rw [Substitution.leaf_of_some .innermost hv]
    refine .param_constant (fun c d hc => ?_) (fun c d hc => (hresolve c d hc).trans hv) fun hw => hw.elim
    change DeferralResult ns (writeParam p c) (writeValue v d)
    simp only [writeParam, hc.mode, hresolve c d hc, hv]
    cases v with
    | list items => exact hc.writeValue (.list items)
    | _ =>
      rw [← hc.eq, writeValue_eq _ c hc.binds]
      exact ⟨_, rfl, .cons (.slot _ (.bound h hv rfl)) .nil⟩

def deferralCouplings (ns : List Node) (r : Rules) (hand : r.BareOperator .and)
    (hin : r.BareOperator .isIn) : Couplings .innermost fun n => n ∈ ns ∧ n.Bare r where
  at_ := deferralCoupling ns r
  queries scopes :=
    ⟨.inr fun _ _ rule hc => by rw [hc.rules]; exact hand rule,
      .inr fun _ _ rule hc => by rw [hc.rules]; exact hin rule⟩
  constant _ v _ := constant_deferral v
  param _ p h := param_deferral p h.1
  operation _ op _ h := .inr fun _ _ rule hc => by rw [hc.rules]; exact h.2 rule
  custom _ _ _ h := .inr h.2
  inside _ params c d h :=
    ⟨by rw [h.eq]; rfl, h.rules, by rw [Context.inside, h.scopes], h.mode, h.inlining⟩
  outside _ _ _ _ h := h

theorem change_deferral (ch : Change) (hb : ch.Bare) (hl : ch.config.literals = false)
    (head : String × Entity) :
    DeferralResult ch.nodes (ch.write head (Statement.context ch.config ch.params))
      (ch.eager.write head (Statement.context ch.config ch.params)) := by
  have hcoupled : (deferralCoupling ch.nodes ch.config.rules [ch.params]).Coupled (ch.write head)
      (ch.eager.write head) := by
    refine Coupling.change_coupled ch head fun e he => ?_
    refine (deferralCouplings ch.nodes ch.config.rules hb.and hb.isIn).operand_coupled _ e ?_
    intro n hn
    have hmem : n ∈ ch.nodes := List.mem_flatMap_of_mem he hn
    exact ⟨hmem, hb.nodes n hmem⟩
  exact hcoupled _ _ ⟨rfl, rfl, rfl, rfl, hl⟩

end Render

theorem targetEntity_error {p : Path} {e : QueryError} (h : Statement.targetEntity p = .error e)
    (q : Param) : e ≠ .parameterNotSet q := by
  unfold Statement.targetEntity at h
  split at h
  · cases h
  · cases h
    simp

theorem insertKeyword_error {r : Rules} {e : QueryError} (h : Insert.keyword r = .error e) (p : Param) :
    e ≠ .parameterNotSet p := by
  unfold Insert.keyword at h
  split at h
  · cases h
  · cases h
    simp

theorem updateKeyword_error {r : Rules} {e : QueryError} (h : Update.keyword r = .error e) (p : Param) :
    e ≠ .parameterNotSet p := by
  unfold Update.keyword at h
  split at h
  · cases h
  · cases h
    simp

theorem Change.checked_error {ch : Change} {e : QueryError} (h : ch.checked = .error e) (p : Param) :
    e ≠ .parameterNotSet p := by
  cases ch with
  | insert i =>
    obtain ht | ⟨t, -, h⟩ := Except.bind_eq_error_iff.mp h
    · exact targetEntity_error ht p
    obtain hk | ⟨k, -, h⟩ := Except.bind_eq_error_iff.mp h
    · exact insertKeyword_error hk p
    split at h
    · obtain rfl := Except.error.inj h
      simp
    · split at h
      · obtain rfl := Except.error.inj h
        simp
      · cases h
  | update u =>
    obtain ht | ⟨t, -, h⟩ := Except.bind_eq_error_iff.mp h
    · exact targetEntity_error ht p
    obtain hk | ⟨k, -, h⟩ := Except.bind_eq_error_iff.mp h
    · exact updateKeyword_error hk p
    split at h
    · obtain rfl := Except.error.inj h
      simp
    · cases h
  | delete d => exact targetEntity_error (Except.map_eq_error_iff.mp h) p

/-- Statements that differ in their bindings only: the second one has the innermost values. -/
structure Deferred (ns : List Node) (s t : WrittenStatement) : Prop where
  text : t.text = s.text
  paths : t.paths = s.paths
  bindings : List.Forall₂ (Deferral ns) s.bindings t.bindings

namespace Change

theorem written_deferred (ch : Change) (hb : ch.Bare) (hl : ch.config.literals = false) :
    (∃ e, ch.written = .error e ∧ ∀ p, e = .parameterNotSet p → Unbound ch.nodes p) ∨
      ∃ s t, ch.written = .ok s ∧ ch.eager.written = .ok t ∧ Deferred ch.nodes s t := by
  rw [written_eq, written_eq, eager, checked_mapExprs, config_mapExprs, params_mapExprs, ← eager]
  cases hx : ch.checked with
  | error e =>
    refine .inl ⟨e, rfl, fun p hp => ?_⟩
    subst hp
    exact absurd rfl (checked_error hx p)
  | ok head =>
    simp only [Except.bind, Statement.finish]
    have h := change_deferral ch hb hl head
    cases hw : ch.write head (Statement.context ch.config ch.params) with
    | error e =>
      rw [hw] at h
      exact .inl ⟨e, rfl, h.2⟩
    | ok xs =>
      rw [hw] at h
      obtain ⟨ys, hy, hs⟩ := h
      rw [hy]
      exact .inr ⟨_, _, rfl, rfl, textFrom_deferral hs 1, paths_deferral hs, bindings_deferral hs⟩

end Change

end QueryText
